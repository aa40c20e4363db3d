import FeedIngest.Text.Digits

/-! Percent escapes. A set of characters says what must not stand as it is in a part of
an address; such a character is written as its bytes, each a percent sign and two hex
digits. Decoding takes every such triple back to its byte. -/

namespace FeedIngest.Url

/-- Characters that are always escaped: controls, and all beyond ASCII. -/
def isControl (c : Char) : Bool := c.toNat < 0x20 || 0x7e < c.toNat

def inFragment (c : Char) : Bool := isControl c || [' ', '"', '<', '>', '`'].contains c

def inPath (c : Char) : Bool :=
  inFragment c || ['#', '?', '^', '\x7b', '\x7d'].contains c

def inUserinfo (c : Char) : Bool :=
  inPath c || ['/', ':', ';', '=', '@', '[', '\\', ']', '|'].contains c

def inQuery (c : Char) : Bool := isControl c || [' ', '"', '#', '<', '>'].contains c

def inSpecialQuery (c : Char) : Bool := inQuery c || c = '\''

/-- The bytes of a character. -/
def utf8 (c : Char) : List UInt8 := (String.singleton c).toUTF8.toList

def upperHex (n : Nat) : Char := Char.ofNat (if n < 10 then '0'.toNat + n else 'A'.toNat + n - 10)

def escapeByte (b : UInt8) : List Char := ['%', upperHex (b.toNat / 16), upperHex (b.toNat % 16)]

/-- Escapes the characters of a set. -/
def escape (set : Char → Bool) (cs : List Char) : List Char :=
  cs.flatMap fun c => if set c then (utf8 c).flatMap escapeByte else [c]

/-- The bytes of a text, with its triples decoded. A percent sign without two hex
digits stands for itself. -/
def unescape : List Char → List UInt8
  | [] => []
  | '%' :: a :: b :: cs =>
    match Digits.hex? a, Digits.hex? b with
    | some x, some y => UInt8.ofNat (16 * x + y) :: unescape cs
    | _, _ => utf8 '%' ++ unescape (a :: b :: cs)
  | c :: cs => utf8 c ++ unescape cs

/-- The text of bytes, if they are UTF-8. -/
def textOfBytes? (bs : List UInt8) : Option (List Char) :=
  (String.fromUTF8? ⟨bs.toArray⟩).map String.toList

end FeedIngest.Url
