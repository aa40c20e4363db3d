import FeedIngest.Time.Duration

/-! Spacing of repeated attempts. The wait after attempt `n` is the initial interval
times the coefficient to the power `n - 1`, cut off at a maximum. The power has to fit
32 bits and the product a duration; where either does not, the wait is the maximum, or
the longest duration if there is none. There is no limit on attempts. -/

namespace FeedIngest

/-- `b ^ e` where it is at most `bound`. The exponent is cut off first, so that no
large power is ever computed. -/
def powWithin? (bound b e : Nat) : Option Nat :=
  let p := Nat.pow b (min e (if b ≤ 1 then 1 else bound.log2 + 1))
  if p ≤ bound then some p else none

theorem powWithin?_eq (bound b e : Nat) :
    powWithin? bound b e = if Nat.pow b e ≤ bound then some (Nat.pow b e) else none := by
  unfold powWithin?
  simp only [Nat.pow_eq]
  by_cases h1 : b ≤ 1
  · have hp : b ^ min e 1 = b ^ e := by
      obtain rfl | rfl : b = 0 ∨ b = 1 := by omega
      · cases e with
        | zero => rfl
        | succ e => simp
      · simp
    simp only [h1, if_true, hp]
  · simp only [h1, if_false]
    by_cases h2 : e ≤ bound.log2 + 1
    · rw [Nat.min_eq_left h2]
    · have h3 : bound.log2 + 1 ≤ e := by omega
      have h4 : bound < b ^ (bound.log2 + 1) :=
        Nat.lt_of_lt_of_le (Nat.lt_log2_self) (Nat.pow_le_pow_left (by omega) _)
      have h5 : b ^ (bound.log2 + 1) ≤ b ^ e := Nat.pow_le_pow_right (by omega) h3
      rw [Nat.min_eq_right h3, if_neg (by omega), if_neg (by omega)]

/-- How long to wait after a failed attempt. -/
structure RetryPolicy where
  coefficient : UInt32
  initial : Duration
  maximum : Option Duration
  deriving DecidableEq

namespace RetryPolicy

/-- Ten seconds. -/
def defaultMaximum : Duration := .ofSeconds 10

/-- Doubling from a tenth of a second up to ten seconds. -/
def standard : RetryPolicy := ⟨2, .ofMillis 100, some defaultMaximum⟩

/-- The wait before the maximum is applied. -/
def candidate? (p : RetryPolicy) (attempt : UInt32) : Option Duration :=
  (powWithin? 4294967295 p.coefficient.toNat (attempt.toNat - 1)).bind p.initial.scale?

/-- The wait after the failed attempt of that number, the first being 1. -/
def interval (p : RetryPolicy) (attempt : UInt32) : Duration :=
  if p.initial.isZero then .zero
  else match p.candidate? attempt, p.maximum with
    | some d, some m => d.min m
    | some d, none => d
    | none, some m => m
    | none, none => .longest

end RetryPolicy
end FeedIngest
