import FeedIngest.Retry
import FeedIngest.Settings
import FeedIngest.Storage.Table
import FeedIngest.Time.Moment
import FeedIngest.Time.Timer

/-! What the loops are set to. -/

namespace FeedIngest

structure Loops where
  policy : RetryPolicy
  pollInterval : Duration
  shutdownTimeout : Duration
  /-- The name of the statement that stores an item. -/
  statement : String
  /-- How long discovery may be silent before it is shown as stalled. -/
  deadline : Duration
  timer : Timer
  /-- What the calendar shows at each millisecond of the loops' clock. -/
  clock : Nat → Moment

/-- The loops of these settings, if the liveness deadline is a duration. -/
def Settings.loops? (s : Settings) (timer : Timer) (clock : Nat → Moment) : Option Loops :=
  s.livenessDeadline?.map fun deadline =>
    ⟨s.retryPolicy, s.pollInterval, s.shutdownTimeout, Storage.insertItem, deadline, timer, clock⟩

end FeedIngest
