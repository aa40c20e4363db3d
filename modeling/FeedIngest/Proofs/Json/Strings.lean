import FeedIngest.Proofs.Json.Grammar
import Mathlib.Data.Char
import Mathlib.Data.List.DropRight

/-! Reading and skipping whitespace and the strings that the grammar has. Reading gives back the
characters however they were written: a letter escape has one meaning, four hex digits have one
value in either case, and the units of a character give it back. Skipping comes out behind the
closing quote. -/

namespace FeedIngest.Json

/-! ### Whitespace -/

theorem isGap_iff {c : Char} : isGap c = true ↔ c = ' ' ∨ c = '\t' ∨ c = '\n' ∨ c = '\r' := by
  simp [isGap, or_assoc]

theorem Gap.isGap {g : List Char} (h : Gap g) : ∀ c ∈ g, isGap c = true :=
  fun c hc => isGap_iff.2 (h c hc)

theorem skipGap_append {g : List Char} (h : Gap g) (cs : List Char) :
    skipGap (g ++ cs) = skipGap cs :=
  List.dropWhile_append_of_pos h.isGap

theorem skipGap_cons {c : Char} (h : isGap c = false) (cs : List Char) :
    skipGap (c :: cs) = c :: cs :=
  List.dropWhile_cons_of_neg (by simp [h])

@[simp] theorem skipGap_skipGap (cs : List Char) : skipGap (skipGap cs) = skipGap cs :=
  List.dropWhile_idempotent isGap cs

theorem skipGap_eq_nil {g : List Char} (h : Gap g) : skipGap g = [] :=
  List.dropWhile_eq_nil_iff.2 h.isGap

/-! ### Escapes -/

theorem letterEscape?_of_mem {e c : Char} (h : (e, c) ∈ escapes) : letterEscape? e = some c := by
  revert h
  simp only [escapes, List.mem_cons, Prod.mk.injEq, List.not_mem_nil, or_false]
  rintro (⟨rfl, rfl⟩ | ⟨rfl, rfl⟩ | ⟨rfl, rfl⟩ | ⟨rfl, rfl⟩ | ⟨rfl, rfl⟩ | ⟨rfl, rfl⟩ | ⟨rfl, rfl⟩ |
    ⟨rfl, rfl⟩) <;> rfl

theorem ne_u_of_mem {e c : Char} (h : (e, c) ∈ escapes) : e ≠ 'u' := by
  rintro rfl
  have := letterEscape?_of_mem h
  cases this

theorem hex?_of_isHex {n : Nat} {c : Char} (h : IsHex n c) : Digits.hex? c = some n := by
  have each : ∀ n < 16, Digits.hex? n.digitChar = some n ∧
      Digits.hex? n.digitChar.toUpper = some n := by decide
  obtain ⟨hn, rfl | rfl⟩ := h
  · exact (each n hn).1
  · exact (each n hn).2

theorem Quad.lt {n : Nat} {q : List Char} (h : Quad n q) : n < 0x10000 := by
  obtain ⟨ha, hb, hc, hd⟩ := h
  have := ha.1
  have := hb.1
  have := hc.1
  have := hd.1
  omega

/-- Four hex digits are read as the number that they spell. -/
theorem Quad.exists_hexQuad? {n : Nat} {q : List Char} (h : Quad n q) :
    ∃ a b c d, q = [a, b, c, d] ∧ hexQuad? a b c d = some n := by
  obtain ⟨ha, hb, hc, hd⟩ := h
  refine ⟨_, _, _, _, rfl, ?_⟩
  simp [hexQuad?, hex?_of_isHex ha, hex?_of_isHex hb, hex?_of_isHex hc, hex?_of_isHex hd]

/-! ### Units -/

theorem not_surrogate (c : Char) : isLeading c.toNat = false ∧ isTrailing c.toNat = false := by
  have h : c.toNat < 0xD800 ∨ 0xDFFF < c.toNat ∧ c.toNat < 0x110000 := c.valid
  simp only [isLeading, isTrailing, Bool.and_eq_false_iff, decide_eq_false_iff_not]
  omega

theorem toNat_of_units {c : Char} {n : Nat} (h : units c = [n]) : c.toNat = n := by
  unfold units at h
  split at h
  · exact List.head_eq_of_cons_eq h
  · cases h

/-- A character that takes two units is given back by them. -/
theorem pairedChar_of_units {c : Char} {m n : Nat} (h : units c = [m, n]) :
    isTrailing m = false ∧ isLeading m = true ∧ isTrailing n = true ∧ pairedChar m n = c := by
  have valid : c.toNat < 0xD800 ∨ 0xDFFF < c.toNat ∧ c.toNat < 0x110000 := c.valid
  unfold units at h
  split at h
  · cases h
  case isFalse large =>
    obtain ⟨rfl, rfl⟩ : _ = m ∧ _ = n := by simpa using h
    have value : 0x10000 + (0xD800 + (c.toNat - 0x10000) / 0x400 - 0xD800) * 0x400 +
        (0xDC00 + (c.toNat - 0x10000) % 0x400 - 0xDC00) = c.toNat := by omega
    simp only [isTrailing, isLeading, Bool.and_eq_true, Bool.and_eq_false_iff, decide_eq_true_eq,
      decide_eq_false_iff_not]
    refine ⟨by omega, by omega, by omega, ?_⟩
    rw [pairedChar, value, Char.ofNat_toNat]

/-! ### Reading -/

theorem readText_plain {c : Char} (h : IsPlain c) (before cs : List Char) :
    readText before (c :: cs) = readText (c :: before) cs := by
  obtain ⟨printable, notQuote, notSlash⟩ := h
  rw [readText.eq_def]
  simp [notQuote, notSlash, Char.not_lt.2 printable]

theorem readText_letter {e c : Char} (h : (e, c) ∈ escapes) (before cs : List Char) :
    readText before ('\\' :: e :: cs) = readText (c :: before) cs := by
  rw [readText.eq_def]
  simp [ne_u_of_mem h, letterEscape?_of_mem h]

theorem readText_unit {c : Char} {n : Nat} {q : List Char} (h : units c = [n]) (hq : Quad n q)
    (before cs : List Char) :
    readText before ('\\' :: 'u' :: (q ++ cs)) = readText (c :: before) cs := by
  obtain ⟨k₁, k₂, k₃, k₄, rfl, value⟩ := hq.exists_hexQuad?
  obtain rfl := toNat_of_units h
  obtain ⟨notLeading, notTrailing⟩ := not_surrogate c
  rw [readText.eq_def]
  simp [value, notLeading, notTrailing]

theorem readText_pair {c : Char} {m n : Nat} {q r : List Char} (h : units c = [m, n])
    (hq : Quad m q) (hr : Quad n r) (before cs : List Char) :
    readText before ('\\' :: 'u' :: (q ++ '\\' :: 'u' :: (r ++ cs))) =
      readText (c :: before) cs := by
  obtain ⟨k₁, k₂, k₃, k₄, rfl, high⟩ := hq.exists_hexQuad?
  obtain ⟨l₁, l₂, l₃, l₄, rfl, low⟩ := hr.exists_hexQuad?
  obtain ⟨notTrailing, leading, trailing, value⟩ := pairedChar_of_units h
  rw [readText.eq_def]
  simp [high, low, notTrailing, leading, trailing, value]

/-- However a character is written, it is read. -/
theorem readText_spelling {c : Char} {t : List Char} (h : Spelling c t) (before cs : List Char) :
    readText before (t ++ cs) = readText (c :: before) cs := by
  cases h with
  | plain h => exact readText_plain h before cs
  | letter h => exact readText_letter h before cs
  | unit h hq => exact readText_unit h hq before cs
  | pair h hq hr =>
    simp only [List.cons_append, List.append_assoc]
    exact readText_pair h hq hr before cs

theorem readText_spelled {s cs : List Char} (h : Spelled s cs) (before rest : List Char) :
    readText before (cs ++ '"' :: rest) = .ok (String.ofList (before.reverse ++ s), rest) := by
  induction h generalizing before with
  | nil =>
    rw [readText.eq_def]
    simp
  | cons h _ ih => rw [List.append_assoc, readText_spelling h, ih]; simp

/-! ### Skipping -/

theorem Spelling.pieces {c : Char} {t cs : List Char} (h : Spelling c t) (hs : Pieces cs) :
    Pieces (t ++ cs) := by
  cases h with
  | plain h => exact .cons (.plain h) hs
  | letter h => exact .cons (.letter (List.mem_map_of_mem h)) hs
  | unit _ hq => exact .cons (.unit hq) hs
  | pair _ hq hr =>
    rw [List.append_assoc]
    exact .cons (.unit hq) (.cons (.unit hr) hs)

/-- A string that can be read is one that can be skipped. -/
theorem Spelled.pieces {s cs : List Char} (h : Spelled s cs) : Pieces cs := by
  induction h with
  | nil => exact .nil
  | cons h _ ih => exact h.pieces ih

theorem skipText_piece {t : List Char} (h : Piece t) (cs : List Char) :
    skipText (t ++ cs) = skipText cs := by
  cases h with
  | plain h =>
    obtain ⟨printable, notQuote, notSlash⟩ := h
    rw [skipText.eq_def]
    simp [notQuote, notSlash, Char.not_lt.2 printable]
  | letter h =>
    obtain ⟨⟨e, c⟩, mem, rfl⟩ := List.mem_map.1 h
    rw [skipText.eq_def]
    simp [ne_u_of_mem mem, letterEscape?_of_mem mem]
  | unit hq =>
    obtain ⟨k₁, k₂, k₃, k₄, rfl, value⟩ := hq.exists_hexQuad?
    rw [skipText.eq_def]
    simp [value]

theorem skipText_pieces {cs : List Char} (h : Pieces cs) (rest : List Char) :
    skipText (cs ++ '"' :: rest) = .ok rest := by
  induction h with
  | nil =>
    rw [skipText.eq_def]
    simp
  | cons h _ ih => rw [List.append_assoc, skipText_piece h, ih]

end FeedIngest.Json
