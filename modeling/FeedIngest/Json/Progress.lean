import FeedIngest.Json.Scalar

/-! What a reader leaves is no longer than what it was given, so a loop of readers that
reads a comma or a key each time comes to an end. -/

namespace FeedIngest.Json

theorem length_of_readText {before cs r : List Char} {s : String}
    (h : readText before cs = .ok (s, r)) : r.length ≤ cs.length := by
  fun_induction readText before cs <;> simp_all <;> omega

theorem length_of_signed {negative : Bool} {size : Option Float} {cs r : List Char} {n : Number}
    (h : signed negative size cs = .ok (n, r)) : r = cs := by
  cases size with
  | none => cases h
  | some f => cases h; rfl

theorem length_gather (s taken : Nat) (cs : List Char) :
    (gather s taken cs).2.2.length ≤ cs.length := by
  fun_induction gather s taken cs <;> simp_all
  omega

theorem length_exponentDigits (e : Nat) (cs : List Char) :
    (exponentDigits e cs).2.length ≤ cs.length := by
  fun_induction exponentDigits e cs <;> simp_all
  omega

theorem length_of_readExponent {negative : Bool} {s : Nat} {e : Int} {cs r : List Char}
    {n : Number} (h : readExponent negative s e cs = .ok (n, r)) : r.length ≤ cs.length := by
  have h₁ := length_exponentSign cs
  unfold readExponent at h
  split at h
  · cases h
  case h_2 down c rest e₁ =>
    rw [e₁] at h₁
    have h₂ := length_exponentDigits 0 (c :: rest)
    split at h
    · split at h
      case h_1 _ _ rest' e₂ =>
        rw [e₂] at h₂
        have := length_of_signed h
        subst this
        exact Nat.le_trans h₂ h₁
      case h_2 _ rest' e₂ =>
        rw [e₂] at h₂
        split at h
        · cases h
        · have := length_of_signed h
          subst this
          exact Nat.le_trans (length_dropDigits _) (Nat.le_trans h₂ h₁)
    · cases h

theorem length_of_readScaled {negative : Bool} {s : Nat} {e : Int} {cs r : List Char}
    {n : Number} (h : readScaled negative s e cs = .ok (n, r)) : r.length ≤ cs.length := by
  cases cs with
  | nil => have := length_of_signed h; subst this; exact Nat.le_refl _
  | cons c rest =>
    simp only [readScaled] at h
    split at h
    · exact Nat.le_succ_of_le (length_of_readExponent h)
    · have := length_of_signed h; subst this; exact Nat.le_refl _

theorem length_of_readFraction {negative : Bool} {s : Nat} {e : Int} {cs r : List Char}
    {n : Number} (h : readFraction negative s e cs = .ok (n, r)) : r.length ≤ cs.length := by
  have h₁ := length_gather s 0 cs
  simp only [readFraction] at h
  split at h
  · exact Nat.le_trans (length_of_readScaled h) (Nat.le_trans (length_dropDigits _) h₁)
  · split at h
    · cases h
    · exact Nat.le_trans (length_of_readScaled h) h₁

theorem length_of_readFloat {negative : Bool} {s : Nat} {e : Int} {cs r : List Char}
    {n : Number} (h : readFloat negative s e cs = .ok (n, r)) : r.length ≤ cs.length := by
  cases cs with
  | nil => have := length_of_signed h; subst this; exact Nat.le_refl _
  | cons c rest =>
    simp only [readFloat] at h
    split at h
    · exact Nat.le_succ_of_le (length_of_readFraction h)
    · exact length_of_readScaled h

theorem length_of_readShort {negative : Bool} {s : Nat} {cs r : List Char} {n : Number}
    (h : readShort negative s cs = .ok (n, r)) : r.length ≤ cs.length := by
  unfold readShort at h
  split at h
  · exact length_of_readFloat h
  · split at h
    · cases h; exact Nat.le_refl _
    · split at h
      · cases h; exact Nat.le_refl _
      · have := length_of_signed h; subst this; exact Nat.le_refl _

theorem length_of_readNumber {negative : Bool} {cs r : List Char} {n : Number}
    (h : readNumber negative cs = .ok (n, r)) : r.length ≤ cs.length := by
  cases cs with
  | nil => cases h
  | cons c rest =>
    have h₁ := length_gather 0 0 (c :: rest)
    simp only [readNumber] at h
    split at h
    · split at h
      · cases h
      · exact Nat.le_succ_of_le (length_of_readShort h)
    · split at h
      · split at h
        · exact Nat.le_trans (length_of_readFloat h) (Nat.le_trans (length_dropDigits _) h₁)
        · exact Nat.le_trans (length_of_readShort h) h₁
      · cases h

theorem length_of_accept {t : IntegerType} {n : Number} {cs r : List Char} {i : Int}
    (h : t.accept n cs = .ok (i, r)) : r = cs := by
  unfold IntegerType.accept at h
  split at h
  · split at h
    · cases h; rfl
    · cases h
  · cases h

theorem length_of_readInteger {t : IntegerType} {cs r : List Char} {i : Int}
    (h : t.read cs = .ok (i, r)) : r.length ≤ cs.length := by
  have h₁ := length_skipGap cs
  unfold IntegerType.read at h
  split at h
  · cases h
  case h_2 c rest e =>
    rw [e] at h₁
    split at h
    · split at h
      · cases h
      case h_2 n rest' e' =>
        have h₂ := length_of_readNumber e'
        have := length_of_accept h
        subst this
        simp only [List.length_cons] at h₁
        omega
    · split at h
      · split at h
        · cases h
        case h_2 n rest' e' =>
          have h₂ := length_of_readNumber e'
          have := length_of_accept h
          subst this
          omega
      · cases h

theorem length_of_readString {cs r : List Char} {s : String}
    (h : readString cs = .ok (s, r)) : r.length ≤ cs.length := by
  have h₁ := length_skipGap cs
  unfold readString at h
  split at h
  · cases h
  case h_2 c rest e =>
    rw [e] at h₁
    simp only [List.length_cons] at h₁
    split at h
    · have := length_of_readText h; omega
    · cases h

theorem length_of_readOptional {α : Type} {read : List Char → Except Failure (α × List Char)}
    (hread : ∀ cs a r, read cs = .ok (a, r) → r.length ≤ cs.length)
    {cs r : List Char} {o : Option α} (h : readOptional read cs = .ok (o, r)) :
    r.length ≤ cs.length := by
  have h₁ := length_skipGap cs
  unfold readOptional at h
  split at h
  case h_1 rest e =>
    rw [e] at h₁
    have := length_of_readWord (eq_ok_of_map_pair h)
    simp only [List.length_cons] at h₁
    omega
  case h_2 =>
    obtain ⟨⟨a, rest⟩, ha, hb⟩ := map_eq_ok h
    cases hb
    exact Nat.le_trans (hread _ _ _ ha) h₁

theorem length_of_skip (cs : List Char) :
    (∀ {frames r}, skipValue frames cs = .ok r → r.length ≤ cs.length) ∧
      ∀ {frames r}, skipRest frames cs = .ok r → r.length ≤ cs.length := by
  induction cs using (measure List.length).wf.induction with
  | _ cs shorter =>
    constructor
    · intro frames r h
      rw [skipValue] at h
      split at h
      · cases h
      · next rest e =>
        have less := length_of_skipHead e
        exact Nat.le_trans ((shorter rest less).2 h) (Nat.le_of_lt less)
      · next rest e =>
        have less := length_of_skipHead e
        exact Nat.le_trans ((shorter rest less).1 h) (Nat.le_of_lt less)
    · intro frames r h
      rw [skipRest.eq_def] at h
      split at h
      · cases h; exact Nat.le_refl _
      · split at h
        · cases h
        · next rest e =>
          have less := length_of_skipBehind e
          exact Nat.le_trans ((shorter rest less).1 h) (Nat.le_of_lt less)
        · next rest e =>
          have less := length_of_skipBehind e
          exact Nat.le_trans ((shorter rest less).2 h) (Nat.le_of_lt less)

theorem length_of_skipValue {frames : List Frame} {cs r : List Char}
    (h : skipValue frames cs = .ok r) : r.length ≤ cs.length :=
  (length_of_skip cs).1 h

end FeedIngest.Json
