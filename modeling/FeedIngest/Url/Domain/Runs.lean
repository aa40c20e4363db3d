/-! Properties of characters as runs. A run begins at a character and lasts to the beginning
of the next one; it has a letter, and numbers where the letter calls for them. Tables are
written as words: the distance to the run before in hex digits, the letter, the numbers. -/

namespace FeedIngest.Url.Domain

structure Run where
  first : Nat
  letter : Char
  values : List Int

/-- Runs with the last one in front. -/
abbrev Runs := List Run

namespace Runs

/-- The value of hex digits with lower case letters. -/
def hex (cs : List Char) : Nat :=
  cs.foldl (fun n c =>
    16 * n + (if c.isDigit then c.toNat - '0'.toNat else c.toNat - 'a'.toNat + 10)) 0

/-- A hex number, negative after a minus sign. -/
def number : List Char → Int
  | '-' :: cs => -(hex cs : Int)
  | cs => hex cs

def numbers (cs : List Char) : List Int :=
  if cs = [] then [] else ((String.ofList cs).splitOn ",").map fun s => number s.toList

/-- Puts the run of a word in front. -/
def push (runs : Runs) (word : String) : Runs :=
  let cs := word.toList
  let isHex (c : Char) : Bool := c.isDigit || ('a' ≤ c && c ≤ 'f')
  let start := match runs with
    | [] => 0
    | r :: _ => r.first
  match cs.dropWhile isHex with
  | [] => runs
  | letter :: rest => ⟨start + hex (cs.takeWhile isHex), letter, numbers rest⟩ :: runs

/-- The runs of a written table. -/
def ofText (text : String) : Runs :=
  ((text.split Char.isWhitespace).toStringList.filter (· ≠ "")).foldl push []

/-- The run of a character. -/
def at? (runs : Runs) (c : Char) : Option Run := runs.find? (·.first ≤ c.toNat)

/-- The letter of a character's run. -/
def letter (runs : Runs) (c : Char) : Char := ((at? runs c).map (·.letter)).getD 'X'

end Runs
end FeedIngest.Url.Domain
