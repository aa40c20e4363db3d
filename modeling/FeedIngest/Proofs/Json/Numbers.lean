import FeedIngest.Json.Scalar
import FeedIngest.Proofs.Digits
import FeedIngest.Proofs.Json.Strings

/-! Reading integers and skipping numbers. What is written in decimal is read as that integer, up
to `2 ^ 64 - 1` and down to `-2 ^ 63`, and a number of the grammar is skipped to its end. Both
need that what stands behind the number does not go on with it. -/

namespace FeedIngest.Json

open Digits

/-- A number ends in front of such a text. -/
structure Ends (rest : List Char) : Prop where
  digit : startsWithDigit rest = false
  mark : continues rest = false

theorem ends_comma (cs : List Char) : Ends (',' :: cs) := ⟨rfl, rfl⟩

theorem ends_closing (frame : Frame) (cs : List Char) : Ends (frame.closing :: cs) := by
  cases frame <;> exact ⟨rfl, rfl⟩

theorem Ends.gap {g rest : List Char} (hg : Gap g) (h : Ends rest) : Ends (g ++ rest) := by
  cases g with
  | nil => exact h
  | cons c g =>
    obtain rfl | rfl | rfl | rfl := hg c List.mem_cons_self <;> exact ⟨rfl, rfl⟩

/-! ### Integers -/

/-- Digits of a number below `2 ^ 64` are all gathered. -/
theorem gather_append {ds rest : List Char} {n m : Nat} (h : extend? n ds = some m)
    (hm : m < 18446744073709551616) (hr : startsWithDigit rest = false) (taken : Nat) :
    gather n taken (ds ++ rest) = (m, taken + ds.length, rest) := by
  induction ds generalizing n taken with
  | nil =>
    obtain rfl : n = m := Option.some.inj h
    cases rest with
    | nil => rfl
    | cons c rest =>
      have hc : digit? c = none := by simpa [startsWithDigit, isDigit] using hr
      simp [gather, hc]
  | cons c ds ih =>
    obtain ⟨d, hd, hs⟩ := Option.bind_eq_some_iff.1 h
    have small : 10 * n + d < 18446744073709551616 := Nat.lt_of_le_of_lt (le_of_extend? hs) hm
    simp only [List.cons_append, gather, hd, small, if_true]
    rw [ih hs (taken + 1), List.length_cons]
    congr 2
    omega

theorem readNumber_write {n : Nat} (hn : n < 18446744073709551616) {rest : List Char}
    (h : startsWithDigit rest = false) (negative : Bool) :
    readNumber negative (write n ++ rest) = readShort negative n rest := by
  obtain ⟨c, cs, hw, hc, hz⟩ := exists_write_eq_cons n
  have gathered := gather_append (extend?_write n) hn h 0
  rw [hw] at gathered ⊢
  by_cases h0 : c = '0'
  · obtain ⟨rfl, rfl⟩ := hz h0
    simp [readNumber, h0, h]
  · rw [List.cons_append] at gathered ⊢
    simp [readNumber, h0, hc, gathered, h]

theorem isGap_of_isDigit {c : Char} (h : isDigit c = true) : isGap c = false := by
  cases hg : isGap c with
  | false => rfl
  | true => obtain rfl | rfl | rfl | rfl := isGap_iff.1 hg <;> cases h

/-- A number without a sign is read as far as the type accepts it. -/
theorem IntegerType.read_write_eq (t : IntegerType) {n : Nat} (hn : n < 18446744073709551616)
    {rest : List Char} (h : Ends rest) :
    t.read (write n ++ rest) = t.accept (.integer n) rest := by
  obtain ⟨c, cs, hw, hc, -⟩ := exists_write_eq_cons n
  have notMinus : c ≠ '-' := by rintro rfl; cases hc
  have number := readNumber_write hn h.digit false
  rw [hw, List.cons_append] at number ⊢
  simp [IntegerType.read, skipGap_cons (isGap_of_isDigit hc), notMinus, hc, number, readShort, h.mark]

theorem IntegerType.read_write {t : IntegerType} {n : Nat} (hn : n < 18446744073709551616)
    (hl : t.least ≤ n) (hg : n ≤ t.greatest) {rest : List Char} (h : Ends rest) :
    t.read (write n ++ rest) = .ok ((n : Int), rest) := by
  rw [t.read_write_eq hn h, IntegerType.accept]
  exact if_pos ⟨hl, hg⟩

/-- A negative number is read as an integer of a type that has it. -/
theorem IntegerType.read_minus_write {t : IntegerType} {n : Nat} (h0 : 0 < n)
    (hn : n ≤ 9223372036854775808) (hl : t.least ≤ -(n : Int)) (hg : -(n : Int) ≤ t.greatest)
    {rest : List Char} (h : Ends rest) : t.read ('-' :: (write n ++ rest)) = .ok (-(n : Int), rest) := by
  have number := readNumber_write (by omega : n < 18446744073709551616) h.digit true
  simp [IntegerType.read, skipGap_cons (c := '-') rfl, number, readShort, h.mark,
    IntegerType.accept, h0, hn, hl, hg]

/-! ### Skipping -/

theorem dropDigits_append {ds rest : List Char} (h : ∀ c ∈ ds, IsDecimal c)
    (hr : startsWithDigit rest = false) : dropDigits (ds ++ rest) = rest := by
  have digits : ∀ c ∈ ds, isDigit c = true := fun c hc => isDigit_iff.2 (h c hc)
  rw [dropDigits, List.dropWhile_append_of_pos digits]
  cases rest with
  | nil => rfl
  | cons c rest => exact List.dropWhile_cons_of_neg (by simpa [startsWithDigit] using hr)

theorem Digitstring.startsWithDigit {ds : List Char} (h : Digitstring ds) (rest : List Char) :
    startsWithDigit (ds ++ rest) = true := by
  obtain ⟨some, all⟩ := h
  cases ds with
  | nil => exact absurd rfl some
  | cons c ds => exact isDigit_iff.2 (all c List.mem_cons_self)

theorem exponentSign_append {sign ds : List Char} (hs : sign ∈ [[], ['+'], ['-']])
    (h : Digitstring ds) (rest : List Char) :
    (exponentSign (sign ++ (ds ++ rest))).2 = ds ++ rest := by
  simp only [List.mem_cons, List.not_mem_nil, or_false] at hs
  obtain rfl | rfl | rfl := hs
  · obtain ⟨some, all⟩ := h
    cases ds with
    | nil => exact absurd rfl some
    | cons c ds =>
      have hc := all c List.mem_cons_self
      rw [List.nil_append, List.cons_append, exponentSign.eq_def]
      split
      · rename_i heq
        cases heq
        exact absurd hc (by decide)
      · rename_i heq
        cases heq
        exact absurd hc (by decide)
      · rfl
  · rfl
  · rfl

theorem skipScaled_append {e rest : List Char} (he : Exponent e) (h : Ends rest) :
    skipScaled (e ++ rest) = .ok rest := by
  cases he with
  | none =>
    cases rest with
    | nil => rfl
    | cons c rest =>
      have hc := h.mark
      simp only [continues, Bool.or_eq_false_iff, decide_eq_false_iff_not] at hc
      simp [skipScaled, hc]
  | digits sign cs he hs hd =>
    rw [List.cons_append, List.append_assoc]
    simp only [skipScaled, he, if_true, skipExponent]
    rw [exponentSign_append hs hd, if_pos (hd.startsWithDigit rest), dropDigits_append hd.2 h.digit]

theorem Exponent.startsWithDigit {e rest : List Char} (he : Exponent e) (h : Ends rest) :
    startsWithDigit (e ++ rest) = false := by
  cases he with
  | none => exact h.digit
  | digits _ _ he => obtain rfl | rfl := he <;> rfl

theorem Fraction.startsWithDigit {f rest : List Char} (hf : Fraction f)
    (h : startsWithDigit rest = false) : startsWithDigit (f ++ rest) = false := by
  cases hf with
  | none => exact h
  | digits => rfl

theorem skipFraction_append {f e rest : List Char} (hf : Fraction f) (he : Exponent e)
    (h : Ends rest) : skipFraction (f ++ (e ++ rest)) = .ok rest := by
  cases hf with
  | none =>
    rw [List.nil_append, ← skipScaled_append he h]
    cases he with
    | none =>
      cases rest with
      | nil => rfl
      | cons c rest =>
        have hc := h.mark
        simp only [continues, Bool.or_eq_false_iff, decide_eq_false_iff_not] at hc
        simp [skipFraction, hc]
    | digits _ _ he => obtain rfl | rfl := he <;> rfl
  | digits hd =>
    rw [List.cons_append]
    simp only [skipFraction, if_true]
    rw [if_pos (hd.startsWithDigit _), dropDigits_append hd.2 (he.startsWithDigit h),
      skipScaled_append he h]

/-- A number is skipped to its end. -/
theorem skipNumber_append {cs rest : List Char} (hc : Unsigned cs) (h : Ends rest) :
    skipNumber (cs ++ rest) = .ok rest := by
  obtain ⟨hw, hf, he⟩ := hc
  rw [List.append_assoc, List.append_assoc]
  have behind := hf.startsWithDigit (he.startsWithDigit h)
  cases hw with
  | zero => simp [skipNumber, behind, skipFraction_append hf he h]
  | digits hz hd =>
    have digit : isDigit _ = true := isDigit_iff.2 (hd.2 _ List.mem_cons_self)
    have rest : ∀ c ∈ _, IsDecimal c := fun c hc => hd.2 c (List.mem_cons_of_mem _ hc)
    simp [skipNumber, hz, digit, dropDigits_append rest behind, skipFraction_append hf he h]

theorem unsigned_write (n : Nat) : Unsigned (write n) := by
  obtain ⟨c, cs, hw, -, zero⟩ := exists_write_eq_cons n
  have digits : ∀ d ∈ c :: cs, IsDecimal d := fun d hd =>
    isDigit_iff.1 (isDigit_of_mem_write (n := n) (hw ▸ hd))
  have whole : Whole (c :: cs) := by
    by_cases hc : c = '0'
    · obtain ⟨-, rfl⟩ := zero hc
      exact hc ▸ .zero
    · exact .digits hc ⟨List.cons_ne_nil c cs, digits⟩
  have := Unsigned.mk whole .none .none
  rwa [List.append_nil, List.append_nil, ← hw] at this

theorem Unsigned.exists_cons {cs : List Char} (h : Unsigned cs) :
    ∃ c ds, cs = c :: ds ∧ isDigit c = true := by
  obtain ⟨hw, -, -⟩ := h
  cases hw with
  | zero => exact ⟨_, _, rfl, rfl⟩
  | digits _ hd => exact ⟨_, _, rfl, isDigit_iff.2 (hd.2 _ List.mem_cons_self)⟩

end FeedIngest.Json
