import FeedIngest.Retry
import Mathlib.Algebra.Order.Group.Nat

/-! How the waits of a policy relate to the exact ones: the initial interval times a power of
the coefficient, of any size, cut off at a limit. The power has to fit 32 bits, and where it does
not the wait is the limit, whatever the product. So the wait is the exact one unless the power
does not fit and the product is still below the limit, and then it is longer. -/

namespace FeedIngest.RetryPolicy

/-- What no wait exceeds. -/
def limit (p : RetryPolicy) : Duration := p.maximum.getD .longest

/-- The power of the coefficient after an attempt, of any size. -/
def factor (p : RetryPolicy) (attempt : UInt32) : Nat :=
  p.coefficient.toNat ^ (max attempt.toNat 1 - 1)

/-- The nanoseconds of the initial interval times the factor, of any number. -/
def product (p : RetryPolicy) (attempt : UInt32) : Nat := p.initial.nanos * p.factor attempt

/-- The nanoseconds of the exact wait. -/
def exactNanos (p : RetryPolicy) (attempt : UInt32) : Nat :=
  min (p.product attempt) p.limit.nanos

variable (p : RetryPolicy) (attempt : UInt32)

theorem candidate?_eq : p.candidate? attempt =
    if p.factor attempt ≤ 4294967295 then Duration.ofNanos? (p.product attempt) else none := by
  have exponent : max attempt.toNat 1 - 1 = attempt.toNat - 1 := by omega
  rw [candidate?, powWithin?_eq, factor, product, factor, exponent, Nat.pow_eq]
  split <;> rfl

/-- A product that is no duration is above every limit. -/
theorem limit_le_of_ofNanos? {n : Nat} (h : Duration.ofNanos? n = none) : p.limit.nanos ≤ n := by
  by_contra below
  have fits : n < 18446744073709551616000000000 := by
    have := p.limit.lt
    omega
  rw [Duration.ofNanos?, dif_pos fits] at h
  cases h

/-- The wait is the exact one where the power fits, and the limit elsewhere. -/
theorem nanos_interval : (p.interval attempt).nanos =
    if p.factor attempt ≤ 4294967295 ∨ p.initial = .zero then p.exactNanos attempt
    else p.limit.nanos := by
  by_cases zero : p.initial = .zero
  · rw [if_pos (.inr zero), interval, if_pos (Duration.isZero_iff.2 zero), exactNanos, product,
      zero]
    simp
  · rw [interval, if_neg (fun h => zero (Duration.isZero_iff.1 h)), candidate?_eq]
    by_cases fits : p.factor attempt ≤ 4294967295
    · rw [if_pos fits, if_pos (.inl fits), exactNanos]
      cases h : Duration.ofNanos? (p.product attempt) with
      | some d =>
        have nanos : d.nanos = p.product attempt := Duration.ofNanos?_eq_some.1 h
        cases hm : p.maximum with
        | some m => rw [limit, hm, ← nanos]; exact Duration.nanos_min d m
        | none => rw [limit, hm, ← nanos]; exact (Nat.min_eq_left d.nanos_le_longest).symm
      | none =>
        rw [Nat.min_eq_right (p.limit_le_of_ofNanos? h)]
        cases hm : p.maximum <;> rw [limit, hm] <;> rfl
    · rw [if_neg fits, if_neg (not_or.2 ⟨fits, zero⟩)]
      cases hm : p.maximum <;> rw [limit, hm] <;> rfl

/-- The wait is the exact one just where the power fits 32 bits, there is nothing to multiply, or
the product reaches the limit. Elsewhere it is the limit, which is longer than the exact wait. -/
theorem interval_exact_iff :
    ((p.interval attempt).nanos = p.exactNanos attempt ↔
      p.factor attempt ≤ 4294967295 ∨ p.initial = .zero ∨ p.limit.nanos ≤ p.product attempt) ∧
    ((p.interval attempt).nanos ≠ p.exactNanos attempt →
      p.interval attempt = p.limit ∧ p.exactNanos attempt < p.limit.nanos) := by
  have he := p.nanos_interval attempt
  by_cases fits : p.factor attempt ≤ 4294967295 ∨ p.initial = .zero
  · rw [if_pos fits] at he
    exact ⟨iff_of_true he (fits.imp_right .inl), fun h => absurd he h⟩
  · rw [if_neg fits] at he
    rw [not_or] at fits
    simp only [fits, false_or]
    rw [he, exactNanos]
    constructor
    · exact ⟨fun h => h ▸ Nat.min_le_left _ _, fun h => (Nat.min_eq_right h).symm⟩
    · intro h
      exact ⟨Duration.ext_nanos he, by omega⟩

/-- One nanosecond doubled 32 times is about four seconds, but no 32 bits hold the power: the wait
is the default maximum of ten seconds. -/
theorem interval_of_unfit_power :
    (interval ⟨2, ⟨1, by decide⟩, some defaultMaximum⟩ 33).nanos = 10000000000 ∧
      exactNanos ⟨2, ⟨1, by decide⟩, some defaultMaximum⟩ 33 = 4294967296 := by
  decide

end FeedIngest.RetryPolicy
