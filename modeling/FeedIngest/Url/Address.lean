import FeedIngest.Url.Escape
import FeedIngest.Url.Fault

/-! Numeric hosts. An IPv4 address has up to four numbers between points, decimal,
octal after a zero or hexadecimal after `0x`, the last of which fills the remaining
bytes. An IPv6 address has eight pieces of up to four hex digits between colons; one run
of pieces may be left out, and the last two may be written as an IPv4 address. -/

namespace FeedIngest.Url

/-- The parts of a text between separators. -/
def splitOn (sep : Char) : List Char → List (List Char)
  | [] => [[]]
  | c :: cs =>
    if c = sep then [] :: splitOn sep cs
    else match splitOn sep cs with
      | [] => [[c]]
      | p :: ps => (c :: p) :: ps

/-- Reads digits to a base of up to 16. -/
def readBase? (base : Nat) (cs : List Char) : Option Nat :=
  cs.foldlM (fun n c => do
    let d ← Digits.hex? c
    if d < base then some (base * n + d) else none) 0

namespace Ipv4

/-- One number of an IPv4 address, of any size. -/
def number? : List Char → Option Nat
  | [] => none
  | '0' :: 'x' :: cs => readBase? 16 cs
  | '0' :: 'X' :: cs => readBase? 16 cs
  | '0' :: c :: cs => readBase? 8 (c :: cs)
  | cs => readBase? 10 cs

/-- The numbers of a dotted text; one trailing point is allowed. -/
def parts (cs : List Char) : List (List Char) :=
  let ps := splitOn '.' cs
  if ps.getLast? = some [] then ps.dropLast else ps

/-- Whether a host has to be an IPv4 address: its last part is a number. -/
def endsInNumber (cs : List Char) : Bool :=
  match (parts cs).getLast? with
  | none => false
  | some last => (last ≠ [] && last.all Digits.isDigit) || (number? last).isSome

/-- The address as a number of 32 bits. -/
def read? (cs : List Char) : Option Nat := do
  let numbers ← (parts cs).mapM number?
  let last ← numbers.getLast?
  let front := numbers.dropLast
  if front.length ≤ 3 ∧ front.all (· ≤ 255) ∧ last < Nat.pow 256 (4 - front.length) then
    some (front.foldl (fun n b => 256 * n + b) 0 * Nat.pow 256 (4 - front.length) + last)
  else none

end Ipv4

namespace Ipv6

/-- One byte in decimal digits, without leading zeros. -/
def octet? (cs : List Char) : Option Nat :=
  match cs with
  | '0' :: _ :: _ => none
  | _ => (Digits.value? cs).filter (· ≤ 255)

/-- Four bytes between points, as two pieces. -/
def dotted? (cs : List Char) : Option (List Nat) := do
  match ← (splitOn '.' cs).mapM octet? with
  | [a, b, c, d] => some [256 * a + b, 256 * c + d]
  | _ => none

def piece? (cs : List Char) : Option Nat :=
  if cs ≠ [] ∧ cs.length ≤ 4 then readBase? 16 cs else none

/-- Pieces between colons; the last may be dotted where the text ends the address. -/
def pieces? (final : Bool) : List (List Char) → Option (List Nat)
  | [] => some []
  | [p] => if final && p.contains '.' then dotted? p else (piece? p).map ([·])
  | p :: ps => do return (← piece? p) :: (← pieces? final ps)

/-- The texts before and behind the first double colon. -/
def splitGap : List Char → Option (List Char × List Char)
  | ':' :: ':' :: cs => some ([], cs)
  | c :: cs => (splitGap cs).map fun (a, b) => (c :: a, b)
  | [] => none

def side? (final : Bool) (cs : List Char) : Option (List Nat) :=
  if cs = [] then some [] else pieces? final (splitOn ':' cs)

/-- The eight pieces of an address. -/
def read? (cs : List Char) : Option (List Nat) := do
  match splitGap cs with
  | none =>
    let ps ← side? true cs
    if ps.length = 8 then some ps else none
  | some (front, back) =>
    let ps ← side? false front
    let qs ← side? true back
    if ps.length + qs.length ≤ 7 then
      some (ps ++ List.replicate (8 - ps.length - qs.length) 0 ++ qs)
    else none

end Ipv6
end FeedIngest.Url
