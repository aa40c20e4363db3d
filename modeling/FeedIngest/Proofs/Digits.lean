import FeedIngest.Text.Digits
import Mathlib.Data.List.Induction
import Mathlib.Data.Nat.Digits.Defs

/-! Decimal digits. What is written for a number is read as that number, and begins with a zero
only if it is zero. A number is read just where digits spell it, behind at most one plus sign. -/

namespace FeedIngest.Digits

/-- What holds for the characters of all small codes holds for a character with such a code. -/
theorem of_forall_code {P : Char → Prop} {c : Char} {bound : Nat} (small : c.toNat < bound)
    (each : ∀ n < bound, P (Char.ofNat n)) : P c := by
  have own := each c.toNat small
  rwa [Char.ofNat_toNat] at own

theorem digit?_digitChar {n : Nat} (h : n < 10) : digit? n.digitChar = some n := by
  have each : ∀ n < 10, digit? n.digitChar = some n := by decide
  exact each n h

theorem isDigit_digitChar {n : Nat} (h : n < 10) : isDigit n.digitChar = true := by
  rw [isDigit, digit?_digitChar h]
  rfl

theorem isDigit_iff {c : Char} : isDigit c = true ↔ '0' ≤ c ∧ c ≤ '9' := by
  unfold isDigit digit?
  split <;> simp_all

theorem extend?_append (n : Nat) (cs ds : List Char) :
    extend? n (cs ++ ds) = (extend? n cs).bind (extend? · ds) := by
  induction cs generalizing n with
  | nil => rfl
  | cons c cs ih =>
    rw [List.cons_append, extend?_cons, extend?_cons]
    cases digit? c with
    | none => rfl
    | some d => exact ih (10 * n + d)

/-- Further digits do not make a number smaller. -/
theorem le_of_extend? {n m : Nat} {cs : List Char} (h : extend? n cs = some m) : n ≤ m := by
  induction cs generalizing n with
  | nil => exact Nat.le_of_eq (Option.some.inj h)
  | cons c cs ih =>
    obtain ⟨d, -, hd⟩ := Option.bind_eq_some_iff.1 h
    have := ih hd
    omega

theorem write_of_lt {n : Nat} (h : n < 10) : write n = [n.digitChar] := Nat.toDigits_of_lt_base h

theorem write_of_le {n : Nat} (h : 10 ≤ n) : write n = write (n / 10) ++ [(n % 10).digitChar] :=
  Nat.toDigits_of_base_le (by decide) h

theorem extend?_write (n : Nat) : extend? 0 (write n) = some n := by
  induction n using Nat.strong_induction_on with
  | _ n ih =>
    by_cases h : n < 10
    · rw [write_of_lt h, extend?_cons, digit?_digitChar h]
      simp
    · rw [write_of_le (Nat.le_of_not_lt h), extend?_append, ih (n / 10) (by omega),
        Option.bind_some, extend?_cons, digit?_digitChar (Nat.mod_lt n (by decide)),
        Option.bind_some, extend?_nil]
      exact congrArg some (by omega)

theorem isDigit_of_mem_write {n : Nat} {c : Char} (h : c ∈ write n) : isDigit c = true := by
  induction n using Nat.strong_induction_on with
  | _ n ih =>
    by_cases hn : n < 10
    · rw [write_of_lt hn, List.mem_singleton] at h
      rw [h, isDigit_digitChar hn]
    · rw [write_of_le (Nat.le_of_not_lt hn), List.mem_append, List.mem_singleton] at h
      rcases h with h | rfl
      · exact ih (n / 10) (by omega) h
      · exact isDigit_digitChar (Nat.mod_lt n (by decide))

theorem exists_write_eq_cons (n : Nat) :
    ∃ c cs, write n = c :: cs ∧ isDigit c = true ∧ (c = '0' → n = 0 ∧ cs = []) := by
  induction n using Nat.strong_induction_on with
  | _ n ih =>
    by_cases h : n < 10
    · refine ⟨n.digitChar, [], write_of_lt h, isDigit_digitChar h, fun hc => ⟨?_, rfl⟩⟩
      exact Nat.digitChar_eq_zero.1 hc
    · obtain ⟨c, cs, hw, digit, hc⟩ := ih (n / 10) (by omega)
      refine ⟨c, cs ++ [(n % 10).digitChar], ?_, digit, fun h0 => ?_⟩
      · rw [write_of_le (Nat.le_of_not_lt h), hw]
        rfl
      · have := (hc h0).1
        omega

theorem digitChar_of_digit? {c : Char} {d : Nat} (h : digit? c = some d) :
    d < 10 ∧ c = d.digitChar := by
  have small : c.toNat < 58 := by
    unfold digit? at h
    split at h
    case isTrue hc => exact Nat.lt_succ_of_le hc.2
    case isFalse => cases h
  have own : ∀ d ∈ digit? c, d < 10 ∧ c = d.digitChar := by
    apply of_forall_code small
    decide
  exact own d h

/-- Digits without a leading zero are what is written for their number. By induction from the last
digit on. -/
theorem write_of_extend? {cs : List Char} {n : Nat} (h : extend? 0 cs = some n) (there : cs ≠ [])
    (lead : cs.head? ≠ some '0') : write n = cs ∧ 0 < n := by
  induction cs using List.reverseRecOn generalizing n with
  | nil => exact absurd rfl there
  | append_singleton cs c ih =>
    rw [extend?_append] at h
    obtain ⟨k, hk, h⟩ := Option.bind_eq_some_iff.1 h
    obtain ⟨d, hd, hn⟩ := Option.bind_eq_some_iff.1 h
    obtain rfl : 10 * k + d = n := Option.some.inj hn
    obtain ⟨small, rfl⟩ := digitChar_of_digit? hd
    cases cs with
    | nil =>
      obtain rfl : 0 = k := Option.some.inj hk
      rw [Nat.mul_zero, Nat.zero_add, write_of_lt small]
      refine ⟨rfl, Nat.pos_of_ne_zero ?_⟩
      rintro rfl
      exact lead rfl
    | cons b cs =>
      obtain ⟨written, pos⟩ := ih hk (List.cons_ne_nil b cs) lead
      have tens : (10 * k + d) / 10 = k := by omega
      have ones : (10 * k + d) % 10 = d := by omega
      rw [write_of_le (by omega), tens, ones, written]
      exact ⟨rfl, by omega⟩

/-- Digits spell a number, most significant first. -/
def Spells (cs : List Char) (n : Nat) : Prop :=
  cs ≠ [] ∧ (∀ c ∈ cs, '0' ≤ c ∧ c ≤ '9') ∧
    Nat.ofDigits 10 (cs.map fun c => c.toNat - '0'.toNat).reverse = n

theorem extend?_eq_some {k n : Nat} {cs : List Char} (h : extend? k cs = some n) :
    (∀ c ∈ cs, '0' ≤ c ∧ c ≤ '9') ∧
      n = k * 10 ^ cs.length + Nat.ofDigits 10 (cs.map fun c => c.toNat - '0'.toNat).reverse := by
  induction cs generalizing k with
  | nil =>
    obtain rfl : k = n := Option.some.inj h
    simp
  | cons c cs ih =>
    obtain ⟨d, digit, later⟩ := Option.bind_eq_some_iff.1 h
    obtain ⟨digits, value⟩ := ih later
    unfold digit? at digit
    split at digit
    case isFalse => cases digit
    case isTrue decimal =>
      obtain rfl : c.toNat - '0'.toNat = d := Option.some.inj digit
      refine ⟨List.forall_mem_cons.2 ⟨decimal, digits⟩, ?_⟩
      rw [value, List.map_cons, List.reverse_cons, Nat.ofDigits_append, Nat.ofDigits_singleton,
        List.length_reverse, List.length_map, List.length_cons]
      ring

theorem exists_extend? (n : Nat) {cs : List Char} (digits : ∀ c ∈ cs, '0' ≤ c ∧ c ≤ '9') :
    ∃ m, extend? n cs = some m := by
  induction cs generalizing n with
  | nil => exact ⟨n, rfl⟩
  | cons c cs ih =>
    obtain ⟨decimal, digits⟩ := List.forall_mem_cons.1 digits
    have digit : digit? c = some (c.toNat - '0'.toNat) := if_pos decimal
    rw [extend?_cons, digit]
    exact ih _ digits

theorem spells_iff {cs : List Char} {n : Nat} : Spells cs n ↔ value? cs = some n := by
  cases cs with
  | nil => simp [Spells, value?]
  | cons c cs =>
    rw [value?]
    constructor
    · rintro ⟨-, digits, number⟩
      obtain ⟨m, value⟩ := exists_extend? 0 digits
      rw [value, (extend?_eq_some value).2, Nat.zero_mul, Nat.zero_add, number]
    · intro value
      obtain ⟨digits, number⟩ := extend?_eq_some value
      rw [Nat.zero_mul, Nat.zero_add] at number
      exact ⟨List.cons_ne_nil c cs, digits, number.symm⟩

theorem spells_write (n : Nat) : Spells (write n) n := by
  obtain ⟨c, cs, written, -, -⟩ := exists_write_eq_cons n
  rw [spells_iff, written, value?, ← written, extend?_write]

/-- What is spelled begins with no sign. -/
theorem Spells.unsigned_eq {cs : List Char} {n : Nat} (h : Spells cs n) : unsigned cs = cs := by
  obtain ⟨-, digits, -⟩ := h
  unfold unsigned
  split
  case h_1 cs => exact absurd (digits '+' List.mem_cons_self) (by decide)
  case h_2 => rfl

/-- Digits spell a number, behind at most one plus sign. -/
def SpellsSigned (cs : List Char) (n : Nat) : Prop :=
  ∃ ds, (cs = ds ∨ cs = '+' :: ds) ∧ Spells ds n

theorem spellsSigned_iff {cs : List Char} {n : Nat} :
    SpellsSigned cs n ↔ value? (unsigned cs) = some n := by
  constructor
  · rintro ⟨ds, rfl | rfl, spells⟩
    · rw [spells.unsigned_eq]
      exact spells_iff.1 spells
    · exact spells_iff.1 spells
  · intro value
    have sign : cs = unsigned cs ∨ cs = '+' :: unsigned cs := by
      unfold unsigned
      split
      · exact .inr rfl
      · exact .inl rfl
    exact ⟨unsigned cs, sign, spells_iff.2 value⟩

theorem SpellsSigned.unique {cs : List Char} {n m : Nat} (h : SpellsSigned cs n)
    (h' : SpellsSigned cs m) : n = m :=
  Option.some.inj ((spellsSigned_iff.1 h).symm.trans (spellsSigned_iff.1 h'))

theorem read?_eq_some_iff {bound n : Nat} {cs : List Char} :
    read? bound cs = some n ↔ SpellsSigned cs n ∧ n ≤ bound := by
  rw [read?, Option.filter_eq_some_iff, decide_eq_true_eq, spellsSigned_iff]

end FeedIngest.Digits
