import FeedIngest.Proofs.Digits
import FeedIngest.Proofs.Storage.Database
import Mathlib.Data.List.SplitBy

/-! A table name in the text of a statement. Statements fall apart into runs of letters, digits and
underscores, as long as they can be, and single other characters. The names that are accepted are
such runs, and no other of these characters stands beside the name in a statement. So whatever the
name is, it is one token among the same others. -/

namespace FeedIngest.Storage

/-- The characters of a run. -/
def isWord (c : Char) : Bool := c.isAlphanum || c = '_'

/-- The longest runs of word characters in a text, and the other characters one by one. -/
def tokens (cs : List Char) : List (List Char) := cs.splitBy fun a b => isWord a && isWord b

example : tokens "a_1+(b2)".toList = [['a', '_', '1'], ['+'], ['('], ['b', '2'], [')']] := by
  decide

/-- A letter or an underscore, and any number of letters, digits and underscores. -/
def IsIdentifier (name : String) : Prop :=
  ∃ c cs, name.toList = c :: cs ∧ (c.isAlpha = true ∨ c = '_') ∧
    ∀ d ∈ cs, d.isAlphanum = true ∨ d = '_'

variable {name : String}

theorem isLetter_eq (c : Char) : isLetter c = c.isAlpha := by
  have upper : (decide ('A' ≤ c) && decide (c ≤ 'Z')) = c.isUpper := (Bool.decide_and _ _).symm
  rw [isLetter, upper, Bool.or_comm]
  rfl

theorem isNameCharacter_eq (c : Char) : isNameCharacter c = isWord c := by
  have digit : Digits.isDigit c = c.isDigit := by
    rw [Bool.eq_iff_iff, Digits.isDigit_iff, Char.isDigit, Bool.and_eq_true, decide_eq_true_eq,
      decide_eq_true_eq]
    rfl
  rw [isNameCharacter, isWord, isLetter_eq, digit]
  rfl

theorem isTableName_iff : isTableName name = true ↔ IsIdentifier name := by
  unfold isTableName IsIdentifier
  cases name.toList with
  | nil => simp
  | cons c cs => simp [isLetter_eq, isNameCharacter_eq, isWord]

theorem IsIdentifier.forall_isWord (h : IsIdentifier name) : ∀ c ∈ name.toList, isWord c = true := by
  obtain ⟨c, cs, same, first, others⟩ := h
  rw [same, List.forall_mem_cons]
  constructor
  · rcases first with letter | rfl
    · simp [isWord, Char.isAlphanum, letter]
    · rfl
  · intro d hd
    simpa [isWord] using others d hd

theorem tokens_eq_singleton {cs : List Char} (there : cs ≠ [])
    (words : ∀ c ∈ cs, isWord c = true) : tokens cs = [cs] := by
  refine List.splitBy_of_isChain there (List.Pairwise.isChain ?_)
  exact List.pairwise_of_forall_mem_list fun a ha b hb => by simp [words a ha, words b hb]

/-- Texts are cut apart where the two characters do not both belong to a run. -/
theorem tokens_append {cs ds : List Char}
    (apart : ∀ a ∈ cs.getLast?, ∀ b ∈ ds.head?, isWord a = false ∨ isWord b = false) :
    tokens (cs ++ ds) = tokens cs ++ tokens ds := by
  apply List.splitBy_append
  intro a ha b hb
  rw [Bool.and_eq_false_iff]
  exact apart a ha b hb

/-- What stands around the table name in a statement, and does not go on with it. -/
structure Frames (before behind : List Char) (statement : String → String) : Prop where
  text : ∀ name, (statement name).toList = before ++ (name.toList ++ behind)
  ends : ∃ a, before.getLast? = some a ∧ isWord a = false
  begins : ∃ b, behind.head? = some b ∧ isWord b = false

theorem Frames.tokens_eq {before behind : List Char} {statement : String → String}
    (frames : Frames before behind statement) (identifier : IsIdentifier name) :
    tokens (statement name).toList = tokens before ++ name.toList :: tokens behind := by
  have there : name.toList ≠ [] := by
    obtain ⟨c, cs, same, -⟩ := identifier
    simp [same]
  obtain ⟨last, ends, apart⟩ := frames.ends
  obtain ⟨first, begins, apart'⟩ := frames.begins
  rw [frames.text, tokens_append (by simp [ends, apart]), tokens_append (by simp [begins, apart']),
    tokens_eq_singleton there identifier.forall_isWord]
  rfl

theorem frames_createTable : ∃ before behind, Frames before behind createTable :=
  ⟨_, _, fun name => by
    delta createTable
    conv_lhs => simp only [String.toList_append, List.append_assoc],
  ⟨_, rfl, rfl⟩, ⟨_, rfl, rfl⟩⟩

theorem frames_insertRow : ∃ before behind, Frames before behind insertRow :=
  ⟨_, _, fun name => by
    delta insertRow
    conv_lhs => simp only [String.toList_append, List.append_assoc],
  ⟨_, rfl, rfl⟩, ⟨_, rfl, rfl⟩⟩

/-- Identifiers are accepted, and each is the one token of either statement that depends on it. -/
theorem table_is_one_token :
    (∀ name, (∃ d, Database.open? name = .ok d) ↔ IsIdentifier name) ∧
    (∀ name, ¬ IsIdentifier name → Database.open? name = .error (.invalidTableName name)) ∧
    ∀ statement ∈ [createTable, insertRow], ∃ before behind, ∀ name, IsIdentifier name →
      tokens (statement name).toList = before ++ name.toList :: behind := by
  refine ⟨fun name => ?_, fun name refused => ?_, ?_⟩
  · rw [← isTableName_iff, Database.open?]
    split <;> simp_all
  · rw [← isTableName_iff] at refused
    exact if_neg refused
  · have framed : ∀ statement ∈ [createTable, insertRow],
        ∃ before behind, Frames before behind statement := by
      simp only [List.forall_mem_cons]
      exact ⟨frames_createTable, frames_insertRow, List.forall_mem_nil _⟩
    intro statement mem
    obtain ⟨before, behind, frames⟩ := framed statement mem
    exact ⟨tokens before, tokens behind, fun name => frames.tokens_eq⟩

end FeedIngest.Storage
