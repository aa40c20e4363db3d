import FeedIngest.Proofs.Item.Sample

/-! How far the sample items go. An identifier has none if its sample time is beyond a signed number
of 64 bits. If it is beyond an unsigned one too, there is no sum. Otherwise there is a payload, which is
read up to its time and refused there. -/

namespace FeedIngest

open Json

namespace Header

variable {fields : Fields} {g cs behind after rest : List Char} {n : Nat}

/-- A time that does not fit is refused where it ends. -/
theorem readTime_unfit (hg : Gap g) (large : 9223372036854775807 < n)
    (small : n < 18446744073709551616) (ends : Ends rest) :
    readTime (g ++ (Digits.write n ++ rest)) = .error (.here (.wrongValue n "i64") rest) := by
  have refused : ¬ (n : Int) ≤ 9223372036854775807 := by omega
  have value : IntegerType.signed64.read (Digits.write n ++ rest) =
      .error (.here (.wrongValue n "i64") rest) := by
    rw [IntegerType.read_write_eq _ small ends, IntegerType.accept]
    exact if_neg fun range => refused range.2
  obtain ⟨c, ds, hw, hc, -⟩ := Digits.exists_write_eq_cons n
  have notNull : c ≠ 'n' := by rintro rfl; cases hc
  rw [hw, List.cons_append] at value ⊢
  rw [readTime, readOptional_eq _ hg (isGap_of_isDigit hc) notNull, value]
  rfl

theorem readMember_unfit (unseen : fields.time = none) (hs : Spelled "time".toList cs)
    (hb : Gap behind) (ha : Gap after) (large : 9223372036854775807 < n)
    (small : n < 18446744073709551616) (ends : Ends rest) :
    fields.readMember (cs ++ '"' :: (behind ++ ':' :: (after ++ (Digits.write n ++ rest)))) =
      .error (.here (.wrongValue n "i64") rest) := by
  rw [Fields.readMember, readText_spelled hs, List.reverse_nil, List.nil_append,
    String.ofList_toList]
  dsimp only
  rw [if_neg (by decide), if_neg (by decide), if_pos rfl, unseen, readOnce_none _ _ hb,
    readTime_unfit ha large small ends]
  rfl

/-- Members are read no further than to a time that does not fit. -/
theorem readAll_unfit {m : Member} (lead : Keyed (Spelled "time".toList) m.lead)
    (value : m.value = Digits.write n) (gap : Gap m.gap) (unseen : fields.time = none)
    (large : 9223372036854775807 < n) (small : n < 18446744073709551616) (hg : Gap g)
    (members : List Member) (rest : List Char) : ∃ left,
    fields.readAll false (g ++ Frame.object.behind (entries (m :: members)) rest) =
      .error (.here (.wrongValue n "i64") left) := by
  have text := joined_cons_append .object m.toEntry (entries members) rest
  have comma : g ++ Frame.object.behind (entries (m :: members)) rest = g ++ ',' :: _ :=
    congrArg (g ++ ',' :: ·) text
  have ends := (Frame.object.ends_behind (entries members) rest).gap gap
  rw [comma, value]
  generalize m.lead = l at lead ⊢
  cases lead with
  | mk before cs behind after hb hs hk ha =>
    refine ⟨_, readAll_error ?_ (readMember_unfit unseen hs hk ha large small ends)⟩
    simp [nextKey, skipGap_append hg, skipGap_append hb, skipGap_cons (c := '"') rfl,
      skipGap_cons (c := ',') rfl]

end Header

namespace Item

open Header

variable {id : ItemId}

/-- The header of a sample, its time aside. -/
def untimed (id : ItemId) : Header := ⟨id, some ("user" ++ id.text), none⟩

/-- The author and the identifier are read, and then the time is refused. -/
theorem read_unfit (large : 9223372036854775807 < sampleTime id)
    (small : sampleTime id < 18446744073709551616) :
    ∃ left, Header.read (samplePayload id (sampleTime id)).toList =
      .error (.here (.wrongValue (sampleTime id) "i64") left) := by
  let author := plainMember "by" ('"' :: (("user" ++ id.text).toList ++ ['"']))
  let number := plainMember "id" (toString id.toNat).toList
  let time := plainMember "time" (toString (sampleTime id : Int)).toList
  let others := [plainMember "type" "\"comment\"".toList]
  have fits : (untimed id).TimeFits := by simp [untimed, TimeFits]
  have fitsAuthor : author.Fits (untimed id) :=
    fits_plainMember (by decide) (.author rfl (spelled_plain (plain_author id)))
  have fitsNumber : number.Fits (untimed id) :=
    fits_plainMember (by decide) (.id (h := untimed id))
  have written : ∀ m ∈ [author, number], m.Fits (untimed id) := by
    simp only [List.forall_mem_cons]
    exact ⟨fitsAuthor, fitsNumber, List.forall_mem_nil _⟩
  have unseen : (⟨none, none, none⟩ : Fields).Open ["by", "id"] := ⟨by decide, by decide, by decide⟩
  have noGap : Gap [] := by simp [Gap]
  have first := readAll_first fits fitsAuthor unseen (number :: time :: others) []
  obtain ⟨g, hg, leading⟩ := readAll_leading fits (time :: others) written unseen noGap []
  have value : time.value = Digits.write (sampleTime id) := toList_toString (sampleTime id)
  have unseenTime : (["by", "id"].foldl (Fields.add (untimed id)) ⟨none, none, none⟩).time = none :=
    rfl
  obtain ⟨left, refused⟩ := readAll_unfit (keyed_plain [] [] (by decide) noGap noGap rfl) value noGap
    unseenTime large small hg others []
  have members : Fields.readAll ⟨none, none, none⟩ true
      (joined (entries (sampleMembers id)) ++ '\x7d' :: []) =
        .error (.here (.wrongValue (sampleTime id) "i64") left) :=
    first.trans (leading.trans refused)
  refine ⟨left, ?_⟩
  rw [toList_samplePayload, Header.read, readValue, skipGap_append noGap, skipGap_cons rfl]
  simp [readObject, members]

/-- What becomes of the sample of any identifier. -/
theorem sample_cases (id : ItemId) :
    (HasSample id ∧ sample id = .ok (specimen id)) ∨
    (ItemId.limit < sampleTime id ∧ sample id = .error .additionOverflow) ∨
    (¬ HasSample id ∧ sampleTime id ≤ ItemId.limit ∧ ∃ place, sample id =
      .error (.invalidSample (.invalid (.wrongValue (sampleTime id) "i64") place))) := by
  have time : sampleEpoch + id.toNat = sampleTime id := rfl
  by_cases fits : HasSample id
  · exact .inl ⟨fits, sample_eq fits⟩
  by_cases small : sampleTime id ≤ ItemId.limit
  · have large : 9223372036854775807 < sampleTime id := Nat.lt_of_not_le fits
    obtain ⟨rest, refused⟩ := read_unfit large (Nat.lt_succ_of_le small)
    have payload : ∃ place, parse (samplePayload id (sampleTime id)) =
        .error (.invalid (.wrongValue (sampleTime id) "i64") place) :=
      ⟨_, by rw [parse, refused]; rfl⟩
    obtain ⟨place, payload⟩ := payload
    refine .inr (.inr ⟨fits, small, place, ?_⟩)
    simp only [sample, time, if_neg (Nat.not_lt.2 small), payload]
  · have beyond : ItemId.limit < sampleTime id := Nat.lt_of_not_le small
    exact .inr (.inl ⟨beyond, if_pos beyond⟩)

theorem hasSample_iff : HasSample id ↔ id.toNat ≤ 9223372035154775807 := by
  unfold HasSample sampleTime sampleEpoch
  omega

theorem text_eq_toString (id : ItemId) : id.text = toString id.toNat := by
  apply String.toList_inj.1
  rw [toList_text, toList_toString]

theorem author_specimen (id : ItemId) :
    (specimen id).author = some ("user" ++ toString id.toNat) := by
  rw [← text_eq_toString]
  rfl

/-- The sample item of a number: all in it goes by that number, and its text is read as this item. -/
structure IsSample (n : Nat) (item : Item) : Prop where
  id : item.id.toNat = n
  author : item.author = some ("user" ++ toString n)
  time : item.time = some (1700000000 + n)
  raw : item.raw = "\x7b\"by\":\"user" ++ toString n ++ "\",\"id\":" ++ toString n ++
    ",\"time\":" ++ toString (1700000000 + n) ++ ",\"type\":\"comment\"\x7d"
  parse : parse item.raw = .ok item

theorem raw_specimen (id : ItemId) : (specimen id).raw =
    "\x7b\"by\":\"user" ++ toString id.toNat ++ "\",\"id\":" ++ toString id.toNat ++
      ",\"time\":" ++ toString (1700000000 + id.toNat) ++ ",\"type\":\"comment\"\x7d" := by
  have digits : String.ofList (Digits.write (sampleTime id)) = toString (sampleTime id) := by
    apply String.toList_inj.1
    rw [String.toList_ofList, toList_toString]
  change samplePayload id (sampleTime id) = _
  delta samplePayload
  dsimp only
  rw [digits, text_eq_toString]
  rfl

theorem isSample_specimen (h : HasSample id) : IsSample id.toNat (specimen id) :=
  ⟨rfl, author_specimen id, rfl, raw_specimen id, parse_samplePayload h⟩

/-- Samples go up to a greatest identifier. Behind that the time of a sample is refused, as it is no
number of 64 bits with a sign, and where it is none without a sign either there is no sum for it. -/
theorem sample_by_range (id : ItemId) :
    (id.toNat ≤ 9223372035154775807 ↔ ∃ item, sample id = .ok item ∧ IsSample id.toNat item) ∧
    (9223372035154775807 < id.toNat ∧ id.toNat ≤ 18446744072009551615 ↔ ∃ place, sample id =
      .error (.invalidSample (.invalid (.wrongValue (1700000000 + id.toNat : Nat) "i64") place))) ∧
    (18446744072009551615 < id.toNat ↔ sample id = .error .additionOverflow) := by
  have sum : sampleTime id = 1700000000 + id.toNat := rfl
  have top : ItemId.limit = 18446744073709551615 := rfl
  have range : HasSample id ↔ id.toNat ≤ 9223372035154775807 := hasSample_iff
  -- In each range one of the three holds, and the other two fail on both sides.
  obtain ⟨fits, result⟩ | ⟨beyond, result⟩ | ⟨large, small, place, result⟩ := sample_cases id
  · have first := range.1 fits
    refine ⟨iff_of_true first ⟨_, result, isSample_specimen fits⟩, iff_of_false (by omega) ?_,
      iff_of_false (by omega) ?_⟩
    all_goals simp [result]
  · refine ⟨iff_of_false (by omega) ?_, iff_of_false (by omega) ?_, iff_of_true (by omega) result⟩
    all_goals simp [result]
  · rw [range] at large
    refine ⟨iff_of_false (by omega) ?_, iff_of_true (by omega) ⟨place, result⟩,
      iff_of_false (by omega) ?_⟩
    all_goals simp [result]

end Item
end FeedIngest
