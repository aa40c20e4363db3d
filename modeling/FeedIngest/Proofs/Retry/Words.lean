import FeedIngest.Retry
import Mathlib.Algebra.Order.Group.Nat
import Mathlib.Tactic.Ring

/-! The waits of a policy computed in machine words. A power is taken by squaring, in 32 bits; a
duration is multiplied with its seconds and nanoseconds apart, the seconds in 64 bits. Products
that decide whether there is a result are looked at before they are used; all other operations
are plain ones, which fail where they leave their range. None of them ever does. -/

namespace FeedIngest.Words

/-- The plain operation that left its range. -/
inductive Overflow
  | sum
  | difference
  | product

def plainSum (bits a b : Nat) : Except Overflow Nat :=
  if a + b < 2 ^ bits then .ok (a + b) else .error .sum

def plainDifference (a b : Nat) : Except Overflow Nat :=
  if b ≤ a then .ok (a - b) else .error .difference

def plainProduct (bits a b : Nat) : Except Overflow Nat :=
  if a * b < 2 ^ bits then .ok (a * b) else .error .product

/-- A sum that is none where it does not fit. -/
def sum? (bits a b : Nat) : Option Nat := if a + b < 2 ^ bits then some (a + b) else none

/-- A product that is none where it does not fit. -/
def product? (bits a b : Nat) : Option Nat := if a * b < 2 ^ bits then some (a * b) else none

/-- `acc * base ^ e` in 32 bits for a positive exponent. The base is squared only where more of
the exponent is left. -/
def powOnto? (acc base e : Nat) : Option Nat :=
  if e ≤ 1 then product? 32 acc base
  else
    (if e % 2 = 1 then product? 32 acc base else some acc).bind fun acc =>
      (product? 32 base base).bind fun base => powOnto? acc base (e / 2)

/-- `base ^ e` in 32 bits, by squaring. -/
def pow? (base e : Nat) : Option Nat := if e = 0 then some 1 else powOnto? 1 base e

/-- The duration of so many seconds and nanoseconds, of which whole seconds are carried. -/
def assemble (seconds nanos : Nat) : Except Overflow Duration :=
  (plainSum 64 seconds (nanos / 1000000000)).bind fun total =>
    match Duration.ofNanos? (total * 1000000000 + nanos % 1000000000) with
    | some d => .ok d
    | none => .error .sum

/-- A duration times a factor. There is none only where the seconds do not fit. -/
def times (d : Duration) (k : Nat) : Except Overflow (Option Duration) :=
  (plainProduct 64 d.subsecond k).bind fun below =>
    match (product? 64 d.seconds k).bind fun s => sum? 64 s (below / 1000000000) with
    | none => .ok none
    | some seconds => (assemble seconds (below % 1000000000)).map some

/-- The number of an attempt less one, but not less than zero. -/
def exponent (attempt : UInt32) : Except Overflow Nat :=
  if attempt.toNat = 0 then .ok 0 else plainDifference attempt.toNat 1

/-- The initial interval times the power of the coefficient, which may not fit either. -/
def candidate (p : RetryPolicy) (e : Nat) : Except Overflow (Option Duration) :=
  match pow? p.coefficient.toNat e with
  | some factor => times p.initial factor
  | none => .ok none

/-- The wait after a failed attempt. -/
def interval (p : RetryPolicy) (attempt : UInt32) : Except Overflow Duration :=
  if p.initial.isZero then .ok .zero
  else
    (exponent attempt).bind fun e =>
      (candidate p e).map fun found =>
        match found, p.maximum with
        | some d, some m => d.min m
        | some d, none => d
        | none, some m => m
        | none, none => .longest

theorem pow_halves (base e : Nat) : base ^ e = base ^ (e % 2) * (base * base) ^ (e / 2) := by
  rw [← pow_two, ← pow_mul, ← pow_add, Nat.mod_add_div]

theorem square_le {acc base e : Nat} (he : 2 ≤ e) (hacc : 0 < acc ∨ base = 0) :
    base * base ≤ acc * base ^ e := by
  rcases Nat.eq_zero_or_pos base with rfl | pos
  · exact Nat.zero_le _
  · calc base * base = base ^ 2 := (pow_two base).symm
      _ ≤ base ^ e := Nat.pow_le_pow_right pos he
      _ ≤ acc * base ^ e := Nat.le_mul_of_pos_left _ (hacc.resolve_right pos.ne')

/-- Where the power fits, so does each product on the way to it. -/
theorem powOnto?_eq {acc base e : Nat} (he : 0 < e) (hacc : 0 < acc ∨ base = 0) :
    powOnto? acc base e = if acc * base ^ e < 2 ^ 32 then some (acc * base ^ e) else none := by
  induction e using Nat.strong_induction_on generalizing acc base with
  | h e ih =>
    rw [powOnto?]
    by_cases last : e ≤ 1
    · obtain rfl : e = 1 := by omega
      rw [if_pos last, pow_one]
      rfl
    rw [if_neg last]
    have square : base * base ≤ acc * base ^ e := square_le (by omega) hacc
    by_cases fits : base * base < 2 ^ 32
    · have rest {acc' : Nat} (hacc' : 0 < acc' ∨ base * base = 0) :=
        ih (e / 2) (by omega) (by omega) hacc'
      have squared : product? 32 base base = some (base * base) := if_pos fits
      rw [squared]
      by_cases odd : e % 2 = 1
      · have power : acc * base ^ e = acc * base * (base * base) ^ (e / 2) := by
          rw [pow_halves, odd, pow_one, mul_assoc]
        rw [if_pos odd]
        by_cases first : acc * base < 2 ^ 32
        · have onto : product? 32 acc base = some (acc * base) := if_pos first
          rw [onto, power]
          apply rest
          rcases Nat.eq_zero_or_pos base with rfl | pos
          · exact .inr rfl
          · exact .inl (Nat.mul_pos (hacc.resolve_right pos.ne') pos)
        · have onto : product? 32 acc base = none := if_neg first
          have above : acc * base ≤ acc * base ^ e :=
            Nat.mul_le_mul_left acc (Nat.le_self_pow (by omega) base)
          rw [onto, if_neg (by omega)]
          rfl
      · have even : e % 2 = 0 := by omega
        rw [if_neg odd, pow_halves, even, pow_zero, one_mul]
        exact rest (hacc.imp_right fun h => by rw [h])
    · have unfit : product? 32 base base = none := if_neg fits
      rw [unfit, if_neg (show ¬acc * base ^ e < 2 ^ 32 by omega)]
      cases (if e % 2 = 1 then product? 32 acc base else some acc) <;> rfl

theorem pow?_eq (base e : Nat) : pow? base e = powWithin? 4294967295 base e := by
  rw [powWithin?_eq, pow?, Nat.pow_eq]
  by_cases he : e = 0
  · rw [if_pos he, he, pow_zero]
    rfl
  · rw [if_neg he, powOnto?_eq (Nat.pos_of_ne_zero he) (.inl Nat.one_pos), one_mul]
    exact if_congr (Nat.lt_succ_iff (n := 4294967295)) rfl rfl

theorem assemble_eq {seconds nanos : Nat} (hs : seconds < 2 ^ 64) (hn : nanos < 1000000000) :
    (assemble seconds nanos).map some =
      .ok (Duration.ofNanos? (seconds * 1000000000 + nanos)) := by
  have carry : nanos / 1000000000 = 0 := Nat.div_eq_of_lt hn
  have total : plainSum 64 seconds (nanos / 1000000000) = .ok seconds := by
    rw [carry]
    exact if_pos hs
  have fits : seconds * 1000000000 + nanos < 18446744073709551616000000000 := by omega
  rw [assemble, total, Except.bind, Nat.mod_eq_of_lt hn, Duration.ofNanos?, dif_pos fits]
  rfl

/-- A product is computed without a fault, and is none just where it is no duration. -/
theorem times_eq (d : Duration) {k : Nat} (hk : k < 2 ^ 32) : times d k = .ok (d.scale? k) := by
  have sub : d.subsecond < 1000000000 := Nat.mod_lt _ (by decide)
  have below : d.subsecond * k < 2 ^ 64 :=
    calc d.subsecond * k ≤ 1000000000 * k := Nat.mul_le_mul_right k sub.le
      _ < 2 ^ 64 := by omega
  have first : plainProduct 64 d.subsecond k = .ok (d.subsecond * k) := if_pos below
  have parts : d.nanos * k = (d.seconds * k + d.subsecond * k / 1000000000) * 1000000000 +
      d.subsecond * k % 1000000000 := by
    have carry := Nat.div_add_mod (d.subsecond * k) 1000000000
    calc d.nanos * k = 1000000000 * (d.seconds * k) + d.subsecond * k := by
          rw [← d.seconds_subsecond]
          ring
      _ = _ := by omega
  rw [times, first, Except.bind, Duration.scale?, parts]
  by_cases fits : d.seconds * k + d.subsecond * k / 1000000000 < 2 ^ 64
  · have second : product? 64 d.seconds k = some (d.seconds * k) := if_pos (by omega)
    have third : sum? 64 (d.seconds * k) (d.subsecond * k / 1000000000) = some _ := if_pos fits
    simp only [second, Option.bind_some, third]
    exact assemble_eq fits (Nat.mod_lt _ (by decide))
  · have unfit : (product? 64 d.seconds k).bind
        (fun s => sum? 64 s (d.subsecond * k / 1000000000)) = none := by
      unfold product?
      split
      · exact if_neg fits
      · rfl
    rw [unfit, Duration.ofNanos?, dif_neg (by omega)]

theorem exponent_eq (attempt : UInt32) : exponent attempt = .ok (attempt.toNat - 1) := by
  unfold exponent
  by_cases zero : attempt.toNat = 0
  · rw [if_pos zero, zero]
  · rw [if_neg zero]
    exact if_pos (Nat.pos_of_ne_zero zero)

theorem candidate_eq (p : RetryPolicy) (attempt : UInt32) :
    candidate p (attempt.toNat - 1) = .ok (p.candidate? attempt) := by
  rw [candidate, pow?_eq, RetryPolicy.candidate?]
  cases power : powWithin? 4294967295 p.coefficient.toNat (attempt.toNat - 1) with
  | none => rfl
  | some factor =>
    rw [powWithin?_eq] at power
    split at power
    case isTrue fits =>
      cases power
      exact times_eq p.initial (Nat.lt_succ_of_le fits)
    case isFalse => cases power

/-- No operation leaves its range, and what comes out is the wait. -/
theorem interval_eq (p : RetryPolicy) (attempt : UInt32) :
    interval p attempt = .ok (p.interval attempt) := by
  rw [interval, RetryPolicy.interval]
  by_cases zero : p.initial.isZero = true
  · rw [if_pos zero, if_pos zero]
  · rw [if_neg zero, if_neg zero, exponent_eq, Except.bind, candidate_eq]
    rfl

end FeedIngest.Words
