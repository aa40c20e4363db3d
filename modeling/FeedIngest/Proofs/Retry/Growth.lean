import FeedIngest.Proofs.Retry.Exact
import FeedIngest.Proofs.Retry.Words

/-! How the waits of a policy grow. With a coefficient of one or more each wait is at least as
long as the one before, also where exact waits give way to the limit, because from there on no
power fits. No wait exceeds the limit, and none is empty but where the initial interval or the
maximum is. With any coefficient they are computed without a fault. -/

namespace FeedIngest.RetryPolicy

variable {p : RetryPolicy} {a b : UInt32}

theorem nanos_le_limit (p : RetryPolicy) (a : UInt32) : (p.interval a).nanos ≤ p.limit.nanos := by
  rw [nanos_interval]
  split
  · exact Nat.min_le_right _ _
  · exact Nat.le_refl _

theorem factor_mono (hc : 1 ≤ p.coefficient) (h : a ≤ b) : p.factor a ≤ p.factor b := by
  have hab : a.toNat ≤ b.toNat := UInt32.le_iff_toNat_le.1 h
  exact Nat.pow_le_pow_right (UInt32.le_iff_toNat_le.1 hc) (by omega)

theorem exactNanos_mono (hc : 1 ≤ p.coefficient) (h : a ≤ b) :
    p.exactNanos a ≤ p.exactNanos b :=
  min_le_min_right p.limit.nanos (Nat.mul_le_mul_left p.initial.nanos (factor_mono hc h))

/-- Once a power does not fit, no later one does. -/
theorem interval_mono (hc : 1 ≤ p.coefficient) (h : a ≤ b) : p.interval a ≤ p.interval b := by
  rw [Duration.le_iff, p.nanos_interval b]
  split
  case isTrue fits =>
    have early : p.factor a ≤ 4294967295 ∨ p.initial = .zero :=
      fits.imp_left (factor_mono hc h).trans
    rw [nanos_interval, if_pos early]
    exact exactNanos_mono hc h
  case isFalse => exact p.nanos_le_limit a

theorem limit_eq_zero (h : p.limit.nanos = 0) : p.maximum = some .zero := by
  cases hm : p.maximum with
  | none =>
    rw [limit, hm] at h
    cases h
  | some m =>
    rw [limit, hm] at h
    exact congrArg some (Duration.ext_nanos h)

theorem eq_zero_of_interval (hc : 1 ≤ p.coefficient) (h : p.interval a = .zero) :
    p.initial = .zero ∨ p.maximum = some .zero := by
  have nanos : (p.interval a).nanos = 0 := congrArg Duration.nanos h
  have positive : 0 < p.factor a := Nat.pow_pos (UInt32.le_iff_toNat_le.1 hc)
  rw [nanos_interval] at nanos
  split at nanos
  · rcases Nat.min_eq_zero_iff.1 nanos with product | limit
    · left
      exact Duration.ext_nanos ((Nat.mul_eq_zero.1 product).resolve_right positive.ne')
    · exact .inr (limit_eq_zero limit)
  · exact .inr (limit_eq_zero nanos)

/-- How the waits of a policy grow from one attempt to the next. -/
structure Grows (p : RetryPolicy) : Prop where
  rising : ∀ a b, a ≤ b → p.interval a ≤ p.interval b
  bounded : ∀ m, p.maximum = some m → ∀ a, p.interval a ≤ m
  /-- A wait is empty only where it has to be. -/
  lasting : ∀ a, p.interval a = .zero → p.initial = .zero ∨ p.maximum = some .zero
  /-- At the limit the waits stay there. -/
  settled : ∀ a b, a ≤ b → p.interval a = p.limit → p.interval b = p.limit

/-- The waits grow up to their limit if the coefficient is not zero, and whatever it is, no
operation on machine words that leads to them leaves its range. -/
theorem interval_grows (p : RetryPolicy) : (1 ≤ p.coefficient → p.Grows) ∧
    ∀ attempt, Words.interval p attempt = .ok (p.interval attempt) := by
  refine ⟨fun hc => ?_, Words.interval_eq p⟩
  constructor
  case rising =>
    intro a b h
    exact interval_mono hc h
  case bounded =>
    intro m hm a
    have := p.nanos_le_limit a
    rw [limit, hm] at this
    exact this
  case lasting =>
    intro a h
    exact eq_zero_of_interval hc h
  case settled =>
    intro a b h ha
    apply Duration.ext_nanos
    apply Nat.le_antisymm (p.nanos_le_limit b)
    rw [← ha]
    exact interval_mono hc h

/-- One nanosecond doubled again and again: the last power that fits gives two seconds, and from
the next attempt on every wait is the limit of ten. -/
theorem interval_grows_doubling :
    let doubling : RetryPolicy := ⟨2, ⟨1, by decide⟩, some defaultMaximum⟩
    1 ≤ doubling.coefficient ∧ doubling.Grows ∧
      (doubling.interval 32).nanos = 2147483648 ∧ doubling.interval 33 = defaultMaximum ∧
      Words.interval doubling 4294967295 = .ok defaultMaximum := by
  intro doubling
  obtain ⟨grows, computed⟩ := interval_grows doubling
  have last : doubling.interval 4294967295 = defaultMaximum := by decide
  exact ⟨by decide, grows (by decide), by decide, by decide, last ▸ computed 4294967295⟩

end FeedIngest.RetryPolicy
