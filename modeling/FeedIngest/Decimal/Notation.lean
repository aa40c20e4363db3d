import FeedIngest.Decimal.Shortest

/-! Written forms of floating point numbers. A layout says between which exponents the
point is placed among the digits, how an integer ends, and how an exponent is led in. -/

namespace FeedIngest.Decimal

/-- How a number is laid out. The exponent is that of the leading digit. -/
structure Layout where
  leastPlain : Option Int
  greatestPlain : Option Int
  /-- Written after an integer, as in `100.0`. -/
  integerEnd : List Char
  /-- Leads in an exponent that is not negative, as in `1e+23`. -/
  positiveExponent : List Char

/-- Numbers in refusals: always a point in plain notation, which ends at `10 ^ 16` above
and below `10 ^ -5`. -/
def Layout.scientific : Layout :=
  ⟨some (-5), some 15, ['.', '0'], ['e', '+']⟩

/-- Gauge values: plain notation throughout, and no point in an integer. -/
def Layout.plain : Layout := ⟨none, none, [], []⟩

/-- Whether the leading digit's exponent calls for plain notation. -/
def Layout.isPlain (l : Layout) (e : Int) : Bool :=
  l.leastPlain.all (· ≤ e) && l.greatestPlain.all (e ≤ ·)

/-- The digits of a decimal, with the exponent of the first of them. -/
def Scaled.leading (d : Scaled) : List Char × Int :=
  let ds := Nat.toDigits 10 d.digits
  (ds, d.exponent + (ds.length : Int) - 1)

/-- Digits with a point set among them. -/
def Layout.plainText (l : Layout) (ds : List Char) (e : Int) : List Char :=
  if e < 0 then ['0', '.'] ++ List.replicate ((-e).toNat - 1) '0' ++ ds
  else
    let whole := e.toNat + 1
    if ds.length ≤ whole then ds ++ List.replicate (whole - ds.length) '0' ++ l.integerEnd
    else ds.take whole ++ ['.'] ++ ds.drop whole

def Layout.exponentText (l : Layout) (ds : List Char) (e : Int) : List Char :=
  let mantissa := match ds with
    | [] => []
    | [d] => [d]
    | d :: r => d :: '.' :: r
  mantissa ++ (if e < 0 then ['e', '-'] else l.positiveExponent) ++ Nat.toDigits 10 e.natAbs

/-- The shortest text that reads back. -/
def Layout.text (l : Layout) (bits : UInt64) : List Char :=
  let b := Binary.ofBits bits
  let body :=
    if b.significand = 0 then '0' :: l.integerEnd
    else
      let (ds, e) := (b.shortest.stripped 20).leading
      if l.isPlain e then l.plainText ds e else l.exponentText ds e
  if b.negative then '-' :: body else body

end FeedIngest.Decimal
