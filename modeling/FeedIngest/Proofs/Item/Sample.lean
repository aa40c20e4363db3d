import FeedIngest.Item.Sample
import FeedIngest.Proofs.Item.Writing

/-! Sample items. As long as its time fits a signed number of 64 bits, the payload of a sample is
an object with the header that is meant, so that the sample is that item. -/

namespace FeedIngest.Item

open Json Header

/-- The time of a sample item. -/
def sampleTime (id : ItemId) : Nat := sampleEpoch + id.toNat

/-- Whether the identifier has a sample item. -/
def HasSample (id : ItemId) : Prop := sampleTime id ≤ 9223372036854775807

instance (id : ItemId) : Decidable (HasSample id) := inferInstanceAs (Decidable (_ ≤ _))

def sampleHeader (id : ItemId) : Header :=
  ⟨id, some ("user" ++ id.text), some (sampleTime id)⟩

/-- The item that the sample of an identifier is meant to be. -/
def specimen (id : ItemId) : Item :=
  ⟨id, some ("user" ++ id.text), some (sampleTime id), samplePayload id (sampleTime id)⟩

@[simp] theorem id_specimen (id : ItemId) : (specimen id).id = id := rfl

/-- A member written without any whitespace or escape. -/
def plainMember (key : String) (value : List Char) : Member :=
  ⟨⟨'"' :: (key.toList ++ ['"', ':']), value, []⟩, key⟩

theorem fits_plainMember {h : Header} {key : String} {value : List Char}
    (plain : Plain key.toList) (holds : MemberValue h key value) :
    (plainMember key value).Fits h :=
  ⟨keyed_plain [] [] plain (by decide) (by decide) rfl, holds, List.forall_mem_nil _⟩

/-- The members of the payload of a sample item. -/
def sampleMembers (id : ItemId) : List Member :=
  [plainMember "by" ('"' :: (("user" ++ id.text).toList ++ ['"'])),
    plainMember "id" (toString id.toNat).toList,
    plainMember "time" (toString (sampleTime id : Int)).toList,
    plainMember "type" "\"comment\"".toList]

theorem toList_text (id : ItemId) : id.text.toList = Digits.write id.toNat :=
  String.toList_ofList

theorem toList_toString (n : Nat) : (toString n).toList = Digits.write n := by
  simp [Digits.write]

theorem toString_natCast (n : Nat) : toString (n : Int) = toString n := rfl

theorem toList_samplePayload (id : ItemId) : (samplePayload id (sampleTime id)).toList =
    [] ++ '\x7b' :: (joined (entries (sampleMembers id)) ++ '\x7d' :: []) := by
  simp only [sampleMembers, toString_natCast, toList_toString]
  delta samplePayload
  simp [plainMember, joined, entries, List.intercalate, toList_text]

/-- Digits are written as they are in a string. -/
theorem isPlain_of_mem_write {n : Nat} {c : Char} (h : c ∈ Digits.write n) : IsPlain c := by
  obtain ⟨hl, hu⟩ := Digits.isDigit_iff.1 (Digits.isDigit_of_mem_write h)
  refine ⟨Char.le_trans (by decide) hl, ?_, ?_⟩
  · rintro rfl
    exact absurd hl (by decide)
  · rintro rfl
    exact absurd hu (by decide)

theorem plain_author (id : ItemId) : Plain ("user" ++ id.text).toList := by
  have user : Plain "user".toList := by decide
  rw [Plain, String.toList_append, toList_text, List.forall_mem_append]
  exact ⟨user, fun c => isPlain_of_mem_write⟩

theorem written_samplePayload (id : ItemId) :
    (sampleHeader id).Written (samplePayload id (sampleTime id)).toList := by
  have comment : Value "\"comment\"".toList :=
    @Value.string "comment".toList (pieces_plain (by decide))
  have fits : ∀ m ∈ sampleMembers id, m.Fits (sampleHeader id) := by
    simp only [sampleMembers, List.forall_mem_cons]
    exact ⟨fits_plainMember (by decide) (.author rfl (spelled_plain (plain_author id))),
      fits_plainMember (by decide) .id, fits_plainMember (by decide) (.time rfl),
      fits_plainMember (by decide) (.other (by decide) (by decide) (by decide) comment),
      List.forall_mem_nil _⟩
  have keys : (sampleMembers id).map Member.key = ["by", "id", "time", "type"] := rfl
  rw [toList_samplePayload]
  refine .object (by decide) (by decide) fits ?_ ?_ ?_ (fun _ => ?_) (fun _ => ?_)
  all_goals
    rw [keys]
    decide

/-- The payload of a sample is read as the item that is meant. -/
theorem parse_samplePayload {id : ItemId} (h : HasSample id) :
    parse (samplePayload id (sampleTime id)) = .ok (specimen id) := by
  unfold HasSample at h
  have fits : (sampleHeader id).TimeFits := by
    intro t ht
    obtain rfl : (sampleTime id : Int) = t := Option.some.inj ht
    omega
  have read := read_written (written_samplePayload id) fits
  simp only [parse, read]
  rfl

theorem sample_eq {id : ItemId} (h : HasSample id) : sample id = .ok (specimen id) := by
  have time : sampleEpoch + id.toNat = sampleTime id := rfl
  have small : ¬ ItemId.limit < sampleTime id := by
    unfold HasSample at h
    unfold ItemId.limit
    omega
  simp only [sample, time, if_neg small, parse_samplePayload h]

end FeedIngest.Item
