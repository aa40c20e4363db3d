/-! Digits. A natural number is read from decimal ASCII digits, most significant digit
first, and written without leading zeros. Reading takes leading zeros and one plus sign,
so a number has many spellings and one written form. -/

namespace FeedIngest.Digits

/-- The value of an ASCII digit. -/
def digit? (c : Char) : Option Nat :=
  if '0' ≤ c ∧ c ≤ '9' then some (c.toNat - '0'.toNat) else none

/-- The value of an ASCII hex digit, in either case. -/
def hex? (c : Char) : Option Nat :=
  if '0' ≤ c ∧ c ≤ '9' then some (c.toNat - '0'.toNat)
  else if 'a' ≤ c ∧ c ≤ 'f' then some (c.toNat - 'a'.toNat + 10)
  else if 'A' ≤ c ∧ c ≤ 'F' then some (c.toNat - 'A'.toNat + 10)
  else none

def isDigit (c : Char) : Bool := (digit? c).isSome

/-- The number `n` continued by further digits; any other character is refused. -/
def extend? (n : Nat) : List Char → Option Nat
  | [] => some n
  | c :: cs => (digit? c).bind fun d => extend? (10 * n + d) cs

/-- The number spelled by one or more digits. -/
def value? : List Char → Option Nat
  | [] => none
  | c :: cs => extend? 0 (c :: cs)

/-- Drops one leading plus sign. -/
def unsigned : List Char → List Char
  | '+' :: cs => cs
  | cs => cs

/-- An optional plus sign and one or more digits, of a value up to `bound`. -/
def read? (bound : Nat) (cs : List Char) : Option Nat :=
  (value? (unsigned cs)).filter (· ≤ bound)

def write (n : Nat) : List Char := Nat.toDigits 10 n

@[simp] theorem extend?_nil (n : Nat) : extend? n [] = some n := rfl

@[simp] theorem extend?_cons (n : Nat) (c : Char) (cs : List Char) :
    extend? n (c :: cs) = (digit? c).bind fun d => extend? (10 * n + d) cs := rfl

end FeedIngest.Digits
