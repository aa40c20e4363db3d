/-! Labels beyond ASCII in ASCII letters. The ASCII characters come first, then a hyphen,
then the others in the order of their values, each as one number that says how far to count
through values and places. The base of the numbers' digits adapts as they are read. -/

namespace FeedIngest.Url.Domain.Punycode

/-- The first value beyond ASCII. -/
def firstValue : Nat := 128

/-- The threshold of digits before any number has been read. -/
def firstBias : Nat := 72

/-- The greatest number that can be written. -/
def limit : Nat := 4294967295

/-- How often a distance has to be divided, and what is left of it. -/
def settle (delta k : Nat) : Nat :=
  if 455 < delta then settle (delta / 35) (k + 36) else k + 36 * delta / (delta + 38)
termination_by delta

/-- The threshold after a number, of `count` characters in all. -/
def adapt (delta count : Nat) (first : Bool) : Nat :=
  let delta := delta / (if first then 700 else 2)
  settle (delta + delta / count) 0

/-- At which digit, of the place `k`, a number ends. -/
def threshold (bias k : Nat) : Nat := max 1 (min 26 (k - bias))

def digit? (c : Char) : Option Nat :=
  if 'a' ≤ c ∧ c ≤ 'z' then some (c.toNat - 'a'.toNat)
  else if 'A' ≤ c ∧ c ≤ 'Z' then some (c.toNat - 'A'.toNat)
  else if '0' ≤ c ∧ c ≤ '9' then some (c.toNat - '0'.toNat + 26)
  else none

def digit (n : Nat) : Char := Char.ofNat (if n < 26 then 'a'.toNat + n else '0'.toNat + n - 26)

/-- A number from its digits, least significant first. -/
def readNumber? (bias weight k sum : Nat) : List Char → Option (Nat × List Char)
  | [] => none
  | c :: cs => do
    let d ← digit? c
    let sum := sum + d * weight
    let t := threshold bias k
    if limit < sum then none
    else if d < t then some (sum, cs)
    else readNumber? bias (weight * (36 - t)) (k + 36) sum cs

theorem length_of_readNumber? {bias weight k sum n : Nat} {cs rest : List Char}
    (h : readNumber? bias weight k sum cs = some (n, rest)) : rest.length < cs.length := by
  induction cs generalizing weight k sum with
  | nil => cases h
  | cons c cs ih =>
    simp only [readNumber?, Option.bind_eq_bind, Option.bind_eq_some_iff] at h
    obtain ⟨d, -, h⟩ := h
    split at h
    · cases h
    · split at h
      · cases h; exact Nat.lt_succ_self _
      · exact Nat.lt_succ_of_lt (ih h)

/-- The character of a value, unless it is none. -/
def character? (n : Nat) : Option Char := if n.isValidChar then some (Char.ofNat n) else none

/-- Reads numbers and puts each character in its place. -/
def insertAll? (value place bias : Nat) (text digits : List Char) : Option (List Char) :=
  if digits = [] then some text
  else match h : readNumber? bias 1 36 0 digits with
    | none => none
    | some (delta, rest) =>
      have := length_of_readNumber? h
      let count := text.length + 1
      let total := place + delta
      let value := value + total / count
      match character? value with
      | none => none
      | some c =>
        insertAll? value (total % count + 1) (adapt delta count (place = 0))
          (text.take (total % count) ++ c :: text.drop (total % count)) rest
termination_by digits.length

def isBasic (c : Char) : Bool := c.toNat < firstValue

/-- The label written so. What stands before the last hyphen is ASCII. -/
def decode? (cs : List Char) : Option (List Char) :=
  let reversed := cs.reverse
  let digits := (reversed.takeWhile (· ≠ '-')).reverse
  let basic := ((reversed.dropWhile (· ≠ '-')).drop 1).reverse
  if basic.all isBasic then insertAll? firstValue 0 firstBias basic digits else none

/-- The digits of a number, least significant first. -/
def writeNumber (bias k n : Nat) : List Char :=
  let t := threshold bias k
  if n < t then [digit n]
  else digit (t + (n - t) % (36 - t)) :: writeNumber bias (k + 36) ((n - t) / (36 - t))
termination_by n
decreasing_by
  have h₁ : 1 ≤ threshold bias k := by unfold threshold; omega
  have h₂ := Nat.div_le_self (n - threshold bias k) (36 - threshold bias k)
  omega

/-- What is written so far, how far was counted since the last number, the threshold and the
number of characters written. -/
structure Writing where
  digits : List Char
  delta : Nat
  bias : Nat
  count : Nat

/-- Passes a character while those of a value are written. -/
def Writing.pass (basics value : Nat) (w : Writing) (c : Char) : Writing :=
  if c.toNat < value then ⟨w.digits, w.delta + 1, w.bias, w.count⟩
  else if c.toNat = value then
    ⟨w.digits ++ writeNumber w.bias 36 w.delta, 0,
      adapt w.delta (w.count + 1) (w.count = basics), w.count + 1⟩
  else w

/-- The values beyond ASCII in a text, rising and each once. -/
def values (cs : List Char) : List Nat :=
  ((cs.filter (!isBasic ·)).map Char.toNat).mergeSort.eraseReps

/-- Writes a label. -/
def encode (cs : List Char) : List Char :=
  let basic := cs.filter isBasic
  let step (state : Nat × Writing) (value : Nat) : Nat × Writing :=
    let (next, w) := state
    let counted : Writing := ⟨w.digits, w.delta + (value - next) * (w.count + 1), w.bias, w.count⟩
    let w := cs.foldl (Writing.pass basic.length value) counted
    (value + 1, ⟨w.digits, w.delta + 1, w.bias, w.count⟩)
  let (_, w) := (values cs).foldl step (firstValue, ⟨[], 0, firstBias, basic.length⟩)
  (if basic = [] then [] else basic ++ ['-']) ++ w.digits

end FeedIngest.Url.Domain.Punycode
