import FeedIngest.Time.Duration

/-! Moments of universal time, in nanoseconds since the beginning of 1970, and their
calendar. Dates end with the year 9999, so a deadline can lie past the last date. -/

namespace FeedIngest

/-- Nanoseconds since the beginning of 1970. -/
structure Moment where
  nanos : Int
  deriving DecidableEq

/-- Why a duration cannot be added to a moment. -/
inductive CalendarFault
  /-- Its whole days lead past the last date. -/
  | daysPastEnd
  /-- Its remainder leads past midnight of the last date. -/
  | timePastEnd
  deriving DecidableEq

def CalendarFault.message : CalendarFault → String
  | .daysPastEnd => "overflow adding duration to date"
  | .timePastEnd => "resulting value is out of range"

namespace Moment

instance : LT Moment := ⟨fun a b => a.nanos < b.nanos⟩
instance (a b : Moment) : Decidable (a < b) := Int.decLt _ _

theorem lt_iff {a b : Moment} : a < b ↔ a.nanos < b.nanos := Iff.rfl

def ofSeconds (s : Int) : Moment := ⟨s * 1000000000⟩

def nanosPerDay : Nat := 86400000000000

/-- Days since the beginning of 1970. -/
def day (t : Moment) : Int := t.nanos.fdiv nanosPerDay

/-- Nanoseconds since midnight. -/
def timeOfDay (t : Moment) : Nat := (t.nanos.fmod nanosPerDay).toNat

/-- The day number of 31 December 9999. -/
def lastDay : Int := 2932896

/-- The moment that lies a duration later: first its whole days, then the rest. -/
def add (t : Moment) (d : Duration) : Except CalendarFault Moment :=
  let days := t.day + d.nanos / nanosPerDay
  let time := t.timeOfDay + d.nanos % nanosPerDay
  if lastDay < days then .error .daysPastEnd
  else if nanosPerDay ≤ time ∧ days = lastDay then .error .timePastEnd
  else .ok ⟨t.nanos + d.nanos⟩

/-- The first moment that has no date. -/
def calendarEnd : Int := (lastDay + 1) * nanosPerDay

/-- A sum is refused just where it reaches the end of the calendar. -/
theorem add_cases (t : Moment) (d : Duration) :
    (t.nanos + d.nanos < calendarEnd ∧ t.add d = .ok ⟨t.nanos + d.nanos⟩) ∨
    (calendarEnd ≤ t.nanos + d.nanos ∧ ∃ fault, t.add d = .error fault) := by
  have today : t.nanos = t.day * nanosPerDay + t.timeOfDay ∧ t.timeOfDay < nanosPerDay := by
    unfold day timeOfDay nanosPerDay
    rw [Int.fdiv_eq_ediv_of_nonneg _ (by decide), Int.fmod_eq_emod_of_nonneg _ (by decide)]
    omega
  by_cases days : lastDay < t.day + d.nanos / nanosPerDay
  · refine .inr ⟨?_, .daysPastEnd, by rw [add, if_pos days]⟩
    unfold calendarEnd lastDay nanosPerDay at *
    omega
  by_cases time : nanosPerDay ≤ t.timeOfDay + d.nanos % nanosPerDay ∧
      t.day + d.nanos / nanosPerDay = lastDay
  · refine .inr ⟨?_, .timePastEnd, by rw [add, if_neg days, if_pos time]⟩
    unfold calendarEnd lastDay nanosPerDay at *
    omega
  · refine .inl ⟨?_, by rw [add, if_neg days, if_neg time]⟩
    unfold calendarEnd lastDay nanosPerDay at *
    omega

/-- Year, month and day of a day number. Years are counted from March, so that the
leap day is the last of its year, in cycles of 400 years of 146097 days. -/
def civil (day : Int) : Int × Nat × Nat :=
  let shifted := day + 719468
  let cycle := shifted.fdiv 146097
  let dayOfCycle := (shifted.fmod 146097).toNat
  let yearOfCycle :=
    (dayOfCycle - dayOfCycle / 1460 + dayOfCycle / 36524 - dayOfCycle / 146096) / 365
  let dayOfYear := dayOfCycle - (365 * yearOfCycle + yearOfCycle / 4 - yearOfCycle / 100)
  let fromMarch := (5 * dayOfYear + 2) / 153
  let month := if fromMarch < 10 then fromMarch + 3 else fromMarch - 9
  let year := yearOfCycle + cycle * 400 + if month ≤ 2 then 1 else 0
  (year, month, dayOfYear - (153 * fromMarch + 2) / 5 + 1)

/-- A number with leading zeros up to a width. -/
def padded (width n : Nat) : String :=
  let digits := Nat.toDigits 10 n
  String.ofList (List.replicate (width - digits.length) '0' ++ digits)

/-- The fraction of a second, of as few digits as it needs but at least one. -/
def fractionText (nanos : Nat) : String :=
  let digits := (padded 9 nanos).toList
  let kept := (digits.reverse.dropWhile (· = '0')).reverse
  if kept.isEmpty then "0" else String.ofList kept

/-- Date, time and offset, as in `9999-12-31 23:59:59.0 +00:00:00`. The hour has no
leading zero. -/
def text (t : Moment) : String :=
  let (year, month, day) := civil t.day
  let time := t.timeOfDay
  let second := time / 1000000000
  let sign := if year < 0 then "-" else ""
  let hour := second / 3600
  let date := s!"{sign}{padded 4 year.natAbs}-{padded 2 month}-{padded 2 day}"
  let clock := s!"{hour}:{padded 2 (second / 60 % 60)}:{padded 2 (second % 60)}"
  s!"{date} {clock}.{fractionText (time % 1000000000)} +00:00:00"

end Moment
end FeedIngest
