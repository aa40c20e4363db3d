import FeedIngest.Item.Basic
import FeedIngest.Time.Moment

/-! Faults that end the task in which they occur instead of being returned to it. -/

namespace FeedIngest

inductive Crash
  /-- A sum of 64 bits that does not fit. -/
  | additionOverflow
  /-- A difference of unsigned numbers that is negative. -/
  | subtractionOverflow
  | calendar (fault : CalendarFault)
  /-- A sample item whose payload is no item. -/
  | invalidSample (error : ItemError)
  /-- A scripted feed in which an earlier lookup crashed. -/
  | poisonedFeed
  deriving DecidableEq

def Crash.message : Crash → String
  | .additionOverflow => "attempt to add with overflow"
  | .subtractionOverflow => "attempt to subtract with overflow"
  | .calendar fault => fault.message
  | .invalidSample error => s!"test item is valid JSON: {error.detail}"
  | .poisonedFeed => "poisoned feed state: PoisonError \x7b .. \x7d"

end FeedIngest
