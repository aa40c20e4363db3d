import FeedIngest.Proofs.Item.Listing

/-! Which payloads are items. Apart from lists of the three fields, a payload is one just when it is
an object with a header whose numbers fit. So an item can be keyed by what its payload has as the
one member `id`, a decimal number of 64 bits without a sign. That is more than a signed key takes.
Whatever else comes is refused as invalid. -/

namespace FeedIngest.Item

open Header

variable {raw : String} {item : Item}

theorem exists_read (accepted : parse raw = .ok item) :
    ∃ h, Header.read raw.toList = .ok h ∧ item = ⟨h.id, h.author, h.time, raw⟩ := by
  unfold parse at accepted
  dsimp only at accepted
  split at accepted
  case h_1 h read => cases accepted; exact ⟨h, read, rfl⟩
  case h_2 => cases accepted

theorem parse_eq_ok_iff : parse raw = .ok item ↔ ∃ h : Header,
    (h.Written raw.toList ∨ h.Listed raw.toList) ∧ h.TimeFits ∧
      item = ⟨h.id, h.author, h.time, raw⟩ := by
  constructor
  · intro accepted
    obtain ⟨h, read, same⟩ := exists_read accepted
    obtain ⟨there, fits⟩ := read_eq_ok_iff.1 read
    exact ⟨h, there, fits, same⟩
  · rintro ⟨h, there, fits, rfl⟩
    rw [parse, read_eq_ok_iff.2 ⟨there, fits⟩]

/-- A payload that is no item is invalid. -/
theorem parse_eq_invalid (refused : ∀ item, parse raw ≠ .ok item) :
    ∃ cause place, parse raw = .error (.invalid cause place) := by
  unfold parse at refused ⊢
  dsimp only at refused ⊢
  split
  case h_1 h read => exact absurd (by rw [read]) (refused ⟨h.id, h.author, h.time, raw⟩)
  case h_2 f read => exact ⟨_, _, rfl⟩

/-- Whether a payload is a list of the three fields, with numbers that fit. -/
def IsListed (raw : String) : Prop := ∃ h : Header, h.Listed raw.toList ∧ h.TimeFits

theorem exists_written (unlisted : ¬ IsListed raw) (accepted : parse raw = .ok item) :
    ∃ h : Header, h.Written raw.toList ∧ h.TimeFits ∧ item = ⟨h.id, h.author, h.time, raw⟩ := by
  obtain ⟨h, written | listed, fits, same⟩ := parse_eq_ok_iff.1 accepted
  · exact ⟨h, written, fits, same⟩
  · exact absurd ⟨h, listed, fits⟩ unlisted

/-- The payload of an item has the identifier as a member, and no other so named. -/
theorem exists_key (unlisted : ¬ IsListed raw) (accepted : parse raw = .ok item) :
    ∃ members, ObjectText members raw.toList ∧ (members.map Prod.fst).count "id" = 1 ∧
      ("id", (toString item.id.toNat).toList) ∈ members := by
  obtain ⟨h, written, -, rfl⟩ := exists_written unlisted accepted
  obtain ⟨members, text, carried⟩ := written.carried
  exact ⟨members, text, carried.id, carried.id_mem⟩

/-- How a payload is keyed by a member of it, or invalid. -/
structure KeyedOrInvalid (raw : String) : Prop where
  /-- The items are the objects with a header. -/
  item : ∀ item, parse raw = .ok item ↔ ∃ h : Header, h.Written raw.toList ∧ h.TimeFits ∧
    item = ⟨h.id, h.author, h.time, raw⟩
  /-- The key is the one member `id`, a decimal number of 64 bits. -/
  key : ∀ item, parse raw = .ok item → item.id.toNat ≤ 18446744073709551615 ∧
    ∃ members, ObjectText members raw.toList ∧ (members.map Prod.fst).count "id" = 1 ∧
      ("id", (toString item.id.toNat).toList) ∈ members
  invalid : (¬ ∃ h : Header, h.Written raw.toList ∧ h.TimeFits) →
    ∃ cause place, parse raw = .error (.invalid cause place)
  withoutKey : (¬ ∃ members n, ObjectText members raw.toList ∧
    ("id", (toString (n : Nat)).toList) ∈ members) →
    ∃ cause place, parse raw = .error (.invalid cause place)

/-- What is made of payloads that are no lists of the three fields. Other lists are invalid. -/
theorem keyed_or_invalid (unlisted : ¬ IsListed raw) : KeyedOrInvalid raw := by
  constructor
  case item =>
    intro item
    constructor
    · exact exists_written unlisted
    · rintro ⟨h, written, fits, same⟩
      exact parse_eq_ok_iff.2 ⟨h, .inl written, fits, same⟩
  case key => exact fun item accepted => ⟨item.id.toNat_le, exists_key unlisted accepted⟩
  case invalid =>
    intro none
    refine parse_eq_invalid fun item accepted => none ?_
    obtain ⟨h, written, fits, -⟩ := exists_written unlisted accepted
    exact ⟨h, written, fits⟩
  case withoutKey =>
    intro none
    refine parse_eq_invalid fun item accepted => none ?_
    obtain ⟨members, text, -, mem⟩ := exists_key unlisted accepted
    exact ⟨members, _, text, mem⟩

/-- A payload with an identifier beyond those of 64 bits with a sign. -/
def unsignedText : String := "\x7b\"id\":9223372036854775808\x7d"

theorem unsignedText_unlisted : ¬ IsListed unsignedText := by
  rintro ⟨h, listed, -⟩
  obtain ⟨rest, skipped⟩ := listed.skipGap
  have head : (Json.skipGap unsignedText.toList).head? = some '\x7b' := by decide
  rw [skipped] at head
  exact absurd (Option.some.inj head) (by decide)

theorem parse_unsignedText :
    parse unsignedText = .ok ⟨⟨9223372036854775808⟩, none, none, unsignedText⟩ := by
  decide +kernel

/-- Nothing is read from a list of the identifier alone. -/
theorem read_alone (h : Header) : Header.read "[1]".toList ≠ .ok h := by
  have refused : (Header.read "[1]".toList).isOk = false := by decide
  intro accepted
  rw [accepted] at refused
  cases refused

/-- An object whose key has no sign, and a list that is not of three fields. -/
theorem keyed_or_invalid_unsigned :
    ¬ IsListed unsignedText ∧ (∃ members, ObjectText members unsignedText.toList ∧
      (members.map Prod.fst).count "id" = 1 ∧
      ("id", (toString 9223372036854775808).toList) ∈ members) ∧
    ¬ IsListed "[1]" ∧ ∃ cause place, parse "[1]" = .error (.invalid cause place) := by
  have unlisted : ¬ IsListed "[1]" :=
    fun ⟨h, listed, fits⟩ => read_alone h (read_listed listed fits)
  refine ⟨unsignedText_unlisted, ?_, unlisted, ?_⟩
  · exact ((keyed_or_invalid unsignedText_unlisted).key _ parse_unsignedText).2
  · exact (keyed_or_invalid unlisted).invalid fun ⟨h, written, fits⟩ =>
      read_alone h (read_written written fits)

theorem no_object_brackets (members : List (String × List Char)) :
    ¬ ObjectText members "[1,null,null]".toList := by
  intro object
  obtain ⟨rest, skipped⟩ := skipGap_object object
  have head : (Json.skipGap "[1,null,null]".toList).head? = some '[' := by decide
  rw [skipped] at head
  exact absurd (Option.some.inj head) (by decide)

theorem key_of_unsignedText {members : List (String × List Char)} {n : Nat}
    (object : ObjectText members unsignedText.toList) (key : ("id", (toString n).toList) ∈ members) :
    n = 9223372036854775808 := by
  obtain ⟨members', object', once, mem⟩ := exists_key unsignedText_unlisted parse_unsignedText
  obtain rfl := object.unique object'
  have text (k : Nat) : (toString k).toList = Digits.write k := Json.toList_toString_natCast k
  have same := congrArg (Digits.extend? 0) (value_eq_of_count once key mem)
  rw [text, text, Digits.extend?_write, Digits.extend?_write] at same
  exact Option.some.inj same

/-- An item may have a key beyond those of 64 bits with a sign, and may be in no object at all. -/
theorem accepts_without_signed_key :
    ((∃ item, parse unsignedText = .ok item) ∧ ¬ ∃ members n, ObjectText members unsignedText.toList ∧
      ("id", (toString n).toList) ∈ members ∧ n ≤ 2 ^ 63 - 1) ∧
    (∃ item, parse "[1,null,null]" = .ok item) ∧
      ¬ ∃ members, ObjectText members "[1,null,null]".toList := by
  have list : parse "[1,null,null]" = .ok ⟨⟨1⟩, none, none, "[1,null,null]"⟩ := rfl
  refine ⟨⟨⟨_, parse_unsignedText⟩, ?_⟩, ⟨_, list⟩, ?_⟩
  · rintro ⟨members, n, object, key, small⟩
    rw [key_of_unsignedText object key] at small
    exact absurd small (by decide)
  · rintro ⟨members, object⟩
    exact no_object_brackets members object

end FeedIngest.Item
