/-! Shortest decimals of 64 bit floating point numbers. A finite positive number is
`m · 2 ^ q`; the reals that round to it form an interval whose ends belong to it iff
`m` is even. For one, two, up to seventeen digits the two neighbours of the number on
that decimal grid are tried, and the first grid with a neighbour in the interval gives
the digits: no shorter decimal reads back. Of two neighbours the nearer is taken, of
two equally near the even one. -/

namespace FeedIngest.Decimal

/-- A number by its bits: sign, significand and binary exponent. -/
structure Binary where
  negative : Bool
  significand : Nat
  exponent : Int
  deriving DecidableEq

/-- The leading bit of a normal number's significand, which is not written. -/
def hidden : Nat := 4503599627370496

/-- The bits of a finite number. -/
def Binary.ofBits (bits : UInt64) : Binary :=
  let fraction := bits.toNat % hidden
  let field := bits.toNat / hidden % 2048
  let negative := bits.toNat / hidden / 2048 == 1
  if field = 0 then ⟨negative, fraction, -1074⟩
  else ⟨negative, hidden + fraction, (field : Int) - 1075⟩

/-- `digits · 10 ^ exponent`. -/
structure Scaled where
  digits : Nat
  exponent : Int
  deriving DecidableEq

/-- The interval of the reals that round to a number, all ends over one denominator:
`lower / den` to `upper / den` around `mid / den`. -/
structure Interval where
  lower : Nat
  mid : Nat
  upper : Nat
  den : Nat
  closed : Bool

/-- The gap below a power of two is half as wide as the gap above, unless the number is
the least of the normal ones. -/
def Binary.interval (b : Binary) : Interval :=
  let m := b.significand
  let narrow := m = hidden ∧ b.exponent > -1074
  let below := if narrow then 1 else 2
  let scaled := fun (n : Nat) => n * Nat.pow 2 b.exponent.toNat
  ⟨scaled (4 * m - below), scaled (4 * m), scaled (4 * m + 2),
    4 * Nat.pow 2 (-b.exponent).toNat, m % 2 = 0⟩

/-- Whether `n · 10 ^ e` lies in the interval. -/
def Interval.contains (i : Interval) (n : Nat) (e : Int) : Bool :=
  let value := n * Nat.pow 10 e.toNat * i.den
  let scale := Nat.pow 10 (-e).toNat
  if i.closed then i.lower * scale ≤ value && value ≤ i.upper * scale
  else i.lower * scale < value && value < i.upper * scale

/-- The greatest multiple of `10 ^ e` up to the middle, as a count of such units, and
twice the rest over the denominator. -/
def Interval.below (i : Interval) (e : Int) : Nat × Nat × Nat :=
  let num := i.mid * Nat.pow 10 (-e).toNat
  let unit := i.den * Nat.pow 10 e.toNat
  (num / unit, 2 * (num % unit), unit)

/-- The decimal on the grid of `10 ^ e` that reads back and is nearest, if any does. -/
def Interval.onGrid? (i : Interval) (e : Int) : Option Scaled :=
  let (n, twice, unit) := i.below e
  let low := i.contains n e && n != 0
  let high := i.contains (n + 1) e
  let nearer := if twice < unit then n else if twice > unit then n + 1
    else if n % 2 = 0 then n else n + 1
  if low && high then some ⟨nearer, e⟩
  else if low then some ⟨n, e⟩
  else if high then some ⟨n + 1, e⟩
  else none

/-- Tries the grids `10 ^ e`, `10 ^ (e - 1)` and so on. -/
def Interval.firstGrid (i : Interval) : Nat → Int → Scaled
  | 0, e => ⟨(i.below e).1, e⟩
  | k + 1, e => (i.onGrid? e).getD (i.firstGrid k (e - 1))

/-- The exponent of a power of ten that is not below the middle of the interval. -/
def Interval.magnitude (i : Interval) : Int :=
  let whole := i.mid / i.den
  if whole = 0 then 1 - ((Nat.toDigits 10 (i.den / i.mid)).length : Int)
  else (Nat.toDigits 10 whole).length

/-- The shortest decimal that reads back as a positive number. -/
def Binary.shortest (b : Binary) : Scaled :=
  let i := b.interval
  i.firstGrid 24 i.magnitude

/-- Without trailing zeros among the digits. -/
def Scaled.stripped (d : Scaled) : Nat → Scaled
  | 0 => d
  | k + 1 => if d.digits % 10 = 0 ∧ d.digits ≠ 0 then stripped ⟨d.digits / 10, d.exponent + 1⟩ k else d

end FeedIngest.Decimal
