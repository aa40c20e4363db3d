/-! Lengths of time in whole nanoseconds, at most `2^64` seconds less one nanosecond.
Scaling answers nothing where the product leaves that range. -/

namespace FeedIngest

/-- A length of time in nanoseconds. -/
structure Duration where
  nanos : Nat
  lt : nanos < 18446744073709551616000000000
  deriving DecidableEq

namespace Duration

theorem ext_nanos {a b : Duration} (h : a.nanos = b.nanos) : a = b := by
  cases a; cases b; cases h; rfl

instance : LE Duration := ⟨fun a b => a.nanos ≤ b.nanos⟩
instance (a b : Duration) : Decidable (a ≤ b) := Nat.decLe _ _

theorem le_iff {a b : Duration} : a ≤ b ↔ a.nanos ≤ b.nanos := Iff.rfl

def zero : Duration := ⟨0, by decide⟩

/-- The longest duration. -/
def longest : Duration := ⟨18446744073709551615999999999, by decide⟩

def ofNanos? (n : Nat) : Option Duration :=
  if h : n < 18446744073709551616000000000 then some ⟨n, h⟩ else none

def ofMillis (ms : UInt64) : Duration :=
  ⟨ms.toNat * 1000000, by have := ms.toNat_lt; omega⟩

def ofSeconds (s : UInt64) : Duration :=
  ⟨s.toNat * 1000000000, by have := s.toNat_lt; omega⟩

def seconds (d : Duration) : Nat := d.nanos / 1000000000

/-- The nanoseconds beyond the last whole second. -/
def subsecond (d : Duration) : Nat := d.nanos % 1000000000

def isZero (d : Duration) : Bool := d.nanos = 0

protected def min (a b : Duration) : Duration := if a ≤ b then a else b

protected def max (a b : Duration) : Duration := if a ≤ b then b else a

/-- The duration `k` times over, if it is in range. -/
def scale? (d : Duration) (k : Nat) : Option Duration := ofNanos? (d.nanos * k)

/-- Whole milliseconds, a started one counted in full: timers tick once a millisecond. -/
def ticks (d : Duration) : Nat := (d.nanos + 999999) / 1000000

@[simp] theorem nanos_zero : zero.nanos = 0 := rfl

theorem nanos_le_longest (d : Duration) : d.nanos ≤ longest.nanos :=
  Nat.le_sub_one_of_lt d.lt

theorem nanos_min (a b : Duration) : (a.min b).nanos = Nat.min a.nanos b.nanos := by
  simp only [Duration.min, le_iff, Nat.min_def]
  split <;> rfl

theorem nanos_max (a b : Duration) : (a.max b).nanos = Nat.max a.nanos b.nanos := by
  simp only [Duration.max, le_iff, Nat.max_def]
  split <;> rfl

theorem ofNanos?_eq_some {n : Nat} {d : Duration} : ofNanos? n = some d ↔ d.nanos = n := by
  unfold ofNanos?
  split
  case isTrue h =>
    constructor
    · intro e; cases e; rfl
    · intro e; exact congrArg some (ext_nanos e.symm)
  case isFalse h =>
    constructor
    · intro e; cases e
    · intro e; exact absurd (e ▸ d.lt) h

theorem isZero_iff {d : Duration} : d.isZero = true ↔ d = .zero := by
  rw [isZero, decide_eq_true_iff]
  exact ⟨fun h => ext_nanos h, fun h => congrArg nanos h⟩

theorem seconds_subsecond (d : Duration) : 1000000000 * d.seconds + d.subsecond = d.nanos :=
  Nat.div_add_mod _ _

end Duration
end FeedIngest
