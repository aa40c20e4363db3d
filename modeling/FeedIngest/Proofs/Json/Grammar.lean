import FeedIngest.Json.Skip

/-! The grammar of JSON texts, apart from any reader. Whitespace may stand between any two
tokens. A character of a string is written as itself, by a letter behind a backslash, or by its
UTF-16 units, each as four hex digits in either case. Lists and objects hold values to any depth. -/

namespace FeedIngest.Json

/-- Whitespace between two tokens. -/
def Gap (cs : List Char) : Prop := ∀ c ∈ cs, c = ' ' ∨ c = '\t' ∨ c = '\n' ∨ c = '\r'

instance (cs : List Char) : Decidable (Gap cs) := List.decidableBAll _ cs

/-! ### Strings -/

/-- The letters that may follow a backslash, and the characters they stand for. -/
def escapes : List (Char × Char) :=
  [('"', '"'), ('\\', '\\'), ('/', '/'), ('b', '\x08'), ('f', '\x0c'), ('n', '\n'), ('r', '\r'),
    ('t', '\t')]

/-- Whether a character may stand for itself. -/
def IsPlain (c : Char) : Prop := ' ' ≤ c ∧ c ≠ '"' ∧ c ≠ '\\'

instance (c : Char) : Decidable (IsPlain c) := inferInstanceAs (Decidable (_ ∧ _))

/-- Characters that may all stand for themselves. -/
def Plain (cs : List Char) : Prop := ∀ c ∈ cs, IsPlain c

instance (cs : List Char) : Decidable (Plain cs) := List.decidableBAll _ cs

def IsHex (n : Nat) (c : Char) : Prop := n < 16 ∧ (c = n.digitChar ∨ c = n.digitChar.toUpper)

instance (n : Nat) (c : Char) : Decidable (IsHex n c) := inferInstanceAs (Decidable (_ ∧ _))

/-- A number of 16 bits by its four hex digits. -/
inductive Quad : Nat → List Char → Prop
  | mk {k l m n : Nat} {a b c d : Char} (ha : IsHex k a) (hb : IsHex l b) (hc : IsHex m c)
    (hd : IsHex n d) : Quad (((k * 16 + l) * 16 + m) * 16 + n) [a, b, c, d]

/-- The UTF-16 units of a character. -/
def units (c : Char) : List Nat :=
  if c.toNat < 0x10000 then [c.toNat]
  else [0xD800 + (c.toNat - 0x10000) / 0x400, 0xDC00 + (c.toNat - 0x10000) % 0x400]

/-- The ways to write a character of a string. -/
inductive Spelling (c : Char) : List Char → Prop
  | plain (h : IsPlain c) : Spelling c [c]
  | letter {e : Char} (h : (e, c) ∈ escapes) : Spelling c ['\\', e]
  | unit {n : Nat} {q : List Char} (h : units c = [n]) (hq : Quad n q) :
    Spelling c ('\\' :: 'u' :: q)
  | pair {m n : Nat} {q r : List Char} (h : units c = [m, n]) (hq : Quad m q) (hr : Quad n r) :
    Spelling c ('\\' :: 'u' :: q ++ '\\' :: 'u' :: r)

/-- The ways to write the characters of a string, between its quotes. -/
inductive Spelled : List Char → List Char → Prop
  | nil : Spelled [] []
  | cons {c : Char} {s t cs : List Char} (h : Spelling c t) (hs : Spelled s cs) :
    Spelled (c :: s) (t ++ cs)

/-- Characters that may stand for themselves do so in one spelling. -/
theorem spelled_plain {s : List Char} (h : Plain s) : Spelled s s := by
  induction s with
  | nil => exact .nil
  | cons c s ih =>
    rw [Plain, List.forall_mem_cons] at h
    exact .cons (.plain h.1) (ih h.2)

/-- What a string may be made of. Units need not be those of a character. -/
inductive Piece : List Char → Prop
  | plain {c : Char} (h : IsPlain c) : Piece [c]
  | letter {e : Char} (h : e ∈ escapes.map (·.1)) : Piece ['\\', e]
  | unit {n : Nat} {q : List Char} (hq : Quad n q) : Piece ('\\' :: 'u' :: q)

/-- The text of a string, between its quotes. -/
inductive Pieces : List Char → Prop
  | nil : Pieces []
  | cons {t cs : List Char} (h : Piece t) (hs : Pieces cs) : Pieces (t ++ cs)

theorem pieces_plain {cs : List Char} (h : Plain cs) : Pieces cs := by
  induction cs with
  | nil => exact .nil
  | cons c cs ih =>
    rw [Plain, List.forall_mem_cons] at h
    exact .cons (.plain h.1) (ih h.2)

/-! ### Numbers -/

def IsDecimal (c : Char) : Prop := '0' ≤ c ∧ c ≤ '9'

instance (c : Char) : Decidable (IsDecimal c) := inferInstanceAs (Decidable (_ ∧ _))

/-- One digit or more. -/
def Digitstring (cs : List Char) : Prop := cs ≠ [] ∧ ∀ c ∈ cs, IsDecimal c

instance (cs : List Char) : Decidable (Digitstring cs) :=
  @instDecidableAnd _ _ _ (List.decidableBAll _ cs)

/-- Digits without a leading zero. -/
inductive Whole : List Char → Prop
  | zero : Whole ['0']
  | digits {c : Char} {cs : List Char} (hc : c ≠ '0') (h : Digitstring (c :: cs)) : Whole (c :: cs)

inductive Fraction : List Char → Prop
  | none : Fraction []
  | digits {cs : List Char} (h : Digitstring cs) : Fraction ('.' :: cs)

inductive Exponent : List Char → Prop
  | none : Exponent []
  | digits {e : Char} (sign cs : List Char) (he : e = 'e' ∨ e = 'E')
    (hs : sign ∈ [[], ['+'], ['-']]) (h : Digitstring cs) : Exponent (e :: (sign ++ cs))

/-- A number without its sign. -/
inductive Unsigned : List Char → Prop
  | mk {w f e : List Char} (hw : Whole w) (hf : Fraction f) (he : Exponent e) :
    Unsigned (w ++ (f ++ e))

/-! ### Values -/

/-- A value in a list or object, with what leads up to it and the whitespace behind it. -/
structure Entry where
  lead : List Char
  value : List Char
  gap : List Char

/-- Entries with commas between them. -/
def joined (entries : List Entry) : List Char :=
  [','].intercalate (entries.map fun e => e.lead ++ (e.value ++ e.gap))

/-- What leads up to the value of a member: its key in some spelling, and a colon. -/
inductive Keyed (key : List Char → Prop) : List Char → Prop
  | mk (before cs behind after : List Char) (hb : Gap before) (h : key cs) (hk : Gap behind)
    (ha : Gap after) : Keyed key (before ++ '"' :: (cs ++ '"' :: (behind ++ ':' :: after)))

theorem keyed_plain {key lead : List Char} (behind after : List Char) (h : Plain key)
    (hb : Gap behind) (ha : Gap after)
    (hl : lead = '"' :: (key ++ '"' :: (behind ++ ':' :: after))) : Keyed (Spelled key) lead := by
  subst hl
  exact .mk [] key behind after (by decide) (spelled_plain h) hb ha

/-- The texts of values. -/
inductive Value : List Char → Prop
  | null : Value ['n', 'u', 'l', 'l']
  | true : Value ['t', 'r', 'u', 'e']
  | false : Value ['f', 'a', 'l', 's', 'e']
  | number {cs : List Char} (h : Unsigned cs) : Value cs
  | negative {cs : List Char} (h : Unsigned cs) : Value ('-' :: cs)
  | string {cs : List Char} (h : Pieces cs) : Value ('"' :: (cs ++ ['"']))
  | emptyList (gap : List Char) (h : Gap gap) : Value ('[' :: (gap ++ [']']))
  | list (entries : List Entry) (some : entries ≠ []) (leads : ∀ e ∈ entries, Gap e.lead)
    (values : ∀ e ∈ entries, Value e.value) (gaps : ∀ e ∈ entries, Gap e.gap) :
    Value ('[' :: (joined entries ++ [']']))
  | emptyObject (gap : List Char) (h : Gap gap) : Value ('\x7b' :: (gap ++ ['\x7d']))
  | object (entries : List Entry) (some : entries ≠ [])
    (leads : ∀ e ∈ entries, Keyed Pieces e.lead)
    (values : ∀ e ∈ entries, Value e.value) (gaps : ∀ e ∈ entries, Gap e.gap) :
    Value ('\x7b' :: (joined entries ++ ['\x7d']))

end FeedIngest.Json
