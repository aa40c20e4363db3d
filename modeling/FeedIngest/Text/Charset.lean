/-! Bytes read as text. A mark at the beginning decides on the encoding and is dropped, else
the name of the encoding does, for the encodings that are known here. What is malformed becomes
one replacement character for each longest beginning of a character. -/

namespace FeedIngest.Text

inductive Encoding
  | utf8
  | utf16 (bigEndian : Bool)
  | windows1252
  deriving DecidableEq

/-- Stands for what is malformed. -/
def replacement : Char := Char.ofNat 0xfffd

namespace Encoding

/-- The encoding of a name, with any blanks around it; other names mean UTF-8. -/
def ofLabel (label : String) : Encoding :=
  match (label.trimAscii.toString).toLower with
  | "utf-16" | "utf-16le" | "unicode" | "unicodefeff" | "csunicode" | "iso-10646-ucs-2"
  | "ucs-2" => .utf16 false
  | "utf-16be" | "unicodefffe" => .utf16 true
  | "windows-1252" | "cp1252" | "x-cp1252" | "latin1" | "l1" | "iso-8859-1" | "iso8859-1"
  | "iso88591" | "iso_8859-1" | "iso_8859-1:1987" | "iso-ir-100" | "cp819" | "ibm819" | "ascii"
  | "us-ascii" | "ansi_x3.4-1968" | "csisolatin1" => .windows1252
  | _ => .utf8

/-- The encoding that a mark at the beginning announces, and the bytes behind the mark. -/
def ofMark? : List UInt8 → Option (Encoding × List UInt8)
  | 0xef :: 0xbb :: 0xbf :: bs => some (.utf8, bs)
  | 0xff :: 0xfe :: bs => some (.utf16 false, bs)
  | 0xfe :: 0xff :: bs => some (.utf16 true, bs)
  | _ => none

end Encoding

/-- A character of which some bytes have been read: how many are to come, between which
values the next one lies, and the bits so far. -/
structure Started where
  needed : Nat
  lower : Nat
  upper : Nat
  bits : Nat

/-- What the first byte of a character says: the character, or what is to come of it. -/
def firstByte (b : Nat) : Sum Char Started :=
  if b < 0x80 then .inl (Char.ofNat b)
  else if b < 0xc2 then .inl replacement
  else if b < 0xe0 then .inr ⟨1, 0x80, 0xbf, b % 32⟩
  else if b < 0xf0 then
    .inr ⟨2, if b = 0xe0 then 0xa0 else 0x80, if b = 0xed then 0x9f else 0xbf, b % 16⟩
  else if b < 0xf5 then
    .inr ⟨3, if b = 0xf0 then 0x90 else 0x80, if b = 0xf4 then 0x8f else 0xbf, b % 8⟩
  else .inl replacement

/-- Characters from bytes, with a started one in front. -/
def decodeUtf8 (started : Option Started) : List UInt8 → List Char
  | [] => if started.isSome then [replacement] else []
  | b :: bs =>
    let n := b.toNat
    let fresh := match firstByte n with
      | .inl c => c :: decodeUtf8 none bs
      | .inr s => decodeUtf8 (some s) bs
    match started with
    | none => fresh
    | some s =>
      if s.lower ≤ n ∧ n ≤ s.upper then
        let bits := 64 * s.bits + n % 64
        if s.needed ≤ 1 then Char.ofNat bits :: decodeUtf8 none bs
        else decodeUtf8 (some ⟨s.needed - 1, 0x80, 0xbf, bits⟩) bs
      else replacement :: fresh

/-- The first malformed part of a text: where it begins and its length, which is open where the
text ends too early. -/
structure Malformed where
  start : Nat
  length : Option Nat
  deriving DecidableEq

/-- What is malformed from an index on, where a started character began at `start`. -/
def malformedFrom? (start index : Nat) (started : Option Started) :
    List UInt8 → Option Malformed
  | [] => if started.isSome then some ⟨start, none⟩ else none
  | b :: bs =>
    let n := b.toNat
    match started with
    | none =>
      match firstByte n with
      | .inl c =>
        if c = replacement then some ⟨index, some 1⟩
        else malformedFrom? (index + 1) (index + 1) none bs
      | .inr s => malformedFrom? index (index + 1) (some s) bs
    | some s =>
      if s.lower ≤ n ∧ n ≤ s.upper then
        if s.needed ≤ 1 then malformedFrom? (index + 1) (index + 1) none bs
        else malformedFrom? start (index + 1) (some ⟨s.needed - 1, 0x80, 0xbf, 0⟩) bs
      else some ⟨start, some (index - start)⟩

/-- What keeps bytes from being UTF-8. -/
def malformed? (bs : List UInt8) : Option Malformed := malformedFrom? 0 0 none bs

def Malformed.message (m : Malformed) : String :=
  match m.length with
  | some n => s!"invalid utf-8 sequence of {n} bytes from index {m.start}"
  | none => s!"incomplete utf-8 byte sequence from index {m.start}"

/-- Units of 16 bits; an odd byte at the end has none. -/
def units (bigEndian : Bool) : List UInt8 → List (Option Nat)
  | [] => []
  | [_] => [none]
  | a :: b :: bs =>
    (if bigEndian then some (256 * a.toNat + b.toNat) else some (256 * b.toNat + a.toNat)) ::
      units bigEndian bs

/-- Characters from units, with the first unit of a pair in front. -/
def decodeUnits (high : Option Nat) : List (Option Nat) → List Char
  | [] => if high.isSome then [replacement] else []
  | none :: _ => [replacement]
  | some u :: us =>
    let fresh :=
      if 0xd800 ≤ u ∧ u < 0xdc00 then decodeUnits (some u) us
      else if 0xdc00 ≤ u ∧ u < 0xe000 then replacement :: decodeUnits none us
      else Char.ofNat u :: decodeUnits none us
    match high with
    | none => fresh
    | some h =>
      if 0xdc00 ≤ u ∧ u < 0xe000 then
        Char.ofNat (0x10000 + (h - 0xd800) * 1024 + (u - 0xdc00)) :: decodeUnits none us
      else replacement :: fresh

/-- The characters of the bytes from `80` to `9f`. -/
def windowsCharacters : List Nat :=
  [0x20ac, 0x81, 0x201a, 0x192, 0x201e, 0x2026, 0x2020, 0x2021, 0x2c6, 0x2030, 0x160, 0x2039,
   0x152, 0x8d, 0x17d, 0x8f, 0x90, 0x2018, 0x2019, 0x201c, 0x201d, 0x2022, 0x2013, 0x2014,
   0x2dc, 0x2122, 0x161, 0x203a, 0x153, 0x9d, 0x17e, 0x178]

def decodeWindows (b : UInt8) : Char :=
  let n := b.toNat
  Char.ofNat (if 0x80 ≤ n ∧ n < 0xa0 then windowsCharacters.getD (n - 0x80) n else n)

def Encoding.decode (e : Encoding) (bs : List UInt8) : List Char :=
  match e with
  | .utf8 => decodeUtf8 none bs
  | .utf16 bigEndian => decodeUnits none (units bigEndian bs)
  | .windows1252 => bs.map decodeWindows

/-- The text of bytes that are said to be encoded so. -/
def ofBytes (e : Encoding) (bs : List UInt8) : String :=
  String.ofList <| match Encoding.ofMark? bs with
    | some (marked, rest) => marked.decode rest
    | none => e.decode bs

end FeedIngest.Text
