import FeedIngest.Proofs.Feed.Replies

/-! The greatest identifier as a body spells it: decimal digits, leading zeros included, behind at
most one plus sign and with any blanks around, of a number of 64 bits. So what is written for an
identifier is read as that identifier. Any other body is an error that quotes it. -/

namespace FeedIngest

theorem Text.isBlank_digit {c : Char} (digit : '0' ≤ c ∧ c ≤ '9') : isBlank c = false := by
  have upper : c.toNat < 58 := Nat.lt_succ_of_le digit.2
  revert digit
  apply Digits.of_forall_code upper
  decide

namespace HttpFeed

variable {body : String} {n : Nat} {id : ItemId}

theorem readMaximum_eq_ok_iff : readMaximum body = .ok id ↔
    Digits.SpellsSigned (Text.trim body.toList) id.toNat := by
  constructor
  · exact readMaximum_eq_ok
  · intro spelled
    have digits := Digits.read?_eq_some_iff.2 ⟨spelled, id.toNat_le⟩
    have number : (Digits.read? ItemId.limit (Text.trim body.toList)).bind ItemId.ofNat? =
        some id := by
      rw [digits, Option.bind_some]
      exact ItemId.ofNat?_eq_some.2 rfl
    rw [readMaximum, number]

theorem readMaximum_eq_error (refused : ∀ id, readMaximum body ≠ .ok id) :
    readMaximum body = .error (.parse (Text.quoted body ++ " is not a valid item id")) := by
  unfold readMaximum at refused ⊢
  split
  case h_1 id same => exact absurd (by rw [same]) (refused id)
  case h_2 => rfl

/-- A text that spells a number and has blanks around it. -/
def SpellsAmidBlanks (cs : List Char) (n : Nat) : Prop :=
  ∃ u ds v, (∀ c ∈ u, Text.isBlank c = true) ∧ (∀ c ∈ v, Text.isBlank c = true) ∧
    Digits.SpellsSigned ds n ∧ cs = u ++ (ds ++ v)

theorem spellsAmidBlanks_iff {cs : List Char} :
    SpellsAmidBlanks cs n ↔ Digits.SpellsSigned (Text.trim cs) n := by
  constructor
  · rintro ⟨u, ds, v, hu, hv, spelled, rfl⟩
    have solid : ∀ c ∈ ds, Text.isBlank c = false := by
      obtain ⟨ds, rfl | rfl, spells⟩ := spelled
      · exact fun c hc => Text.isBlank_digit (spells.2.1 c hc)
      · rw [List.forall_mem_cons]
        exact ⟨rfl, fun c hc => Text.isBlank_digit (spells.2.1 c hc)⟩
    rwa [Text.trim_surrounded hu hv solid]
  · intro spelled
    obtain ⟨u, v, hu, hv, same⟩ := Text.exists_trim cs
    exact ⟨u, _, v, hu, hv, spelled, same⟩

/-- A body is read as the number of 64 bits that it spells, and otherwise it is an error. -/
theorem reads_spelled_maximum :
    (∀ (body : String) n, (∃ id, readMaximum body = .ok id ∧ id.toNat = n) ↔
      SpellsAmidBlanks body.toList n ∧ n ≤ 18446744073709551615) ∧
    (∀ (id : ItemId) (u v : String), (∀ c ∈ u.toList, Text.isBlank c = true) →
      (∀ c ∈ v.toList, Text.isBlank c = true) → readMaximum (u ++ id.text ++ v) = .ok id) ∧
    ∀ body, (∀ id, readMaximum body ≠ .ok id) →
      readMaximum body = .error (.parse (Text.quoted body ++ " is not a valid item id")) := by
  refine ⟨fun body n => ⟨?_, ?_⟩, ?_, fun body => readMaximum_eq_error⟩
  · rintro ⟨id, read, rfl⟩
    exact ⟨spellsAmidBlanks_iff.2 (readMaximum_eq_ok_iff.1 read), id.toNat_le⟩
  · rintro ⟨spelled, small⟩
    have same : (ItemId.mk (UInt64.ofNat n)).toNat = n :=
      ItemId.ofNat?_eq_some.1 (if_pos small)
    rw [← same] at spelled
    exact ⟨_, readMaximum_eq_ok_iff.2 (spellsAmidBlanks_iff.1 spelled), same⟩
  · intro id u v hu hv
    refine readMaximum_eq_ok_iff.2 (spellsAmidBlanks_iff.1 ?_)
    refine ⟨u.toList, Digits.write id.toNat, v.toList, hu, hv, ?_, ?_⟩
    · exact ⟨_, .inl rfl, Digits.spells_write id.toNat⟩
    · simp [ItemId.text]

theorem reads_spelled_maximum_padded : (∀ c ∈ "\u3000\u0085".toList, Text.isBlank c = true) ∧
    (∀ c ∈ "\n".toList, Text.isBlank c = true) ∧
    readMaximum ("\u3000\u0085" ++ (ItemId.mk 18446744073709551615).text ++ "\n") =
      .ok ⟨18446744073709551615⟩ := by
  have before := List.all_eq_true.1 (rfl : "\u3000\u0085".toList.all Text.isBlank = true)
  have behind := List.all_eq_true.1 (rfl : "\n".toList.all Text.isBlank = true)
  exact ⟨before, behind, reads_spelled_maximum.2.1 _ _ _ before behind⟩

example : readMaximum " +00041882311" = .ok ⟨41882311⟩ := by
  decide

end HttpFeed
end FeedIngest
