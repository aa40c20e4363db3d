import FeedIngest.Time.Duration

/-! Timers of the loops. Their clock counts milliseconds from the start. The loops are given a
timer, and rely on it to keep time: a wait is over as soon as it has passed, and not before. -/

namespace FeedIngest

/-- The wait, begun at one time, has passed by another. -/
def Duration.Passed (wait : Duration) (since now : Nat) : Prop :=
  since * 1000000 + wait.nanos ≤ now * 1000000

instance (wait : Duration) (since now : Nat) : Decidable (wait.Passed since now) := Nat.decLe _ _

theorem Duration.Passed.mono {wait : Duration} {since now later : Nat} (h : wait.Passed since now)
    (le : now ≤ later) : wait.Passed since later :=
  Nat.le_trans h (Nat.mul_le_mul_right _ le)

theorem Duration.passed_zero {since now : Nat} (h : since ≤ now) : zero.Passed since now := by
  unfold Passed
  rw [nanos_zero]
  omega

structure Timer where
  /-- When a wait is over that begins at a time. -/
  due : Nat → Duration → Nat

namespace Timer

/-- A wait that begins then is over as soon as it has passed. -/
def Keeps (timer : Timer) (since : Nat) (wait : Duration) : Prop :=
  ∀ now, timer.due since wait ≤ now ↔ wait.Passed since now

/-- Thirty years. -/
def farFuture : Nat := 30 * 365 * 86400 * 1000

/-- The last millisecond there is. -/
def lastTick : Nat := 18446744073709551613

/-- The timer of a machine whose own clock, which holds less than `2^63` seconds, showed so many
nanoseconds at the start. A wait that ends beyond that clock is cut to thirty years, and no wait
goes beyond the last millisecond. -/
def wheel (origin : Nat) : Timer where
  due since wait :=
    min lastTick <| since +
      if origin + since * 1000000 + wait.nanos < 9223372036854775808000000000 then wait.ticks
      else farFuture

/-- It keeps time up to the last millisecond. -/
theorem wheel_keeps {origin since : Nat} {wait : Duration}
    (h : origin + since * 1000000 + wait.nanos ≤ lastTick * 1000000) :
    (wheel origin).Keeps since wait := by
  intro now
  have held : origin + since * 1000000 + wait.nanos < 9223372036854775808000000000 :=
    Nat.lt_of_le_of_lt h (by decide)
  simp only [wheel, if_pos held, Duration.ticks, Duration.Passed, lastTick] at h ⊢
  omega

end Timer
end FeedIngest
