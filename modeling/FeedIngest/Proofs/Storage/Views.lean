import FeedIngest.Proofs.Storage.Simulation

/-! What the storage in memory shows of its calls. The attempts, the order of the writes, the rows
and their sorted identifiers are four views of one history: the attempts are all executions, and the
other three show the items whose execution succeeded. Which those are can be told from what the
calls came to, and what an execution comes to can be told from what was called before. -/

namespace FeedIngest.Storage

/-- The item that a call is to store. -/
def Call.item? : Call → Option Item
  | .setup => none
  | .execute _ item => some item

/-- The items of the executions that succeeded, by what the calls came to. -/
def taken (calls : List Call) (outcomes : List Outcome) : List Item :=
  (calls.zip outcomes).filterMap fun e =>
    match e.2 with
    | .ok _ => e.1.item?
    | .error _ => none

section Outcomes

variable {σ : Type} (call : σ → Call → σ × Outcome) (s : σ) (calls : List Call) (c : Call)

theorem length_outcomes : (outcomes call s calls).length = calls.length := by
  induction calls generalizing s with
  | nil => rfl
  | cons c calls ih => exact congrArg (· + 1) (ih _)

theorem outcomes_concat : outcomes call s (calls ++ [c]) =
    outcomes call s calls ++ [(call (stateAfter call s calls) c).2] := by
  induction calls generalizing s with
  | nil => rfl
  | cons d calls ih => exact congrArg (_ :: ·) (ih _)

end Outcomes

namespace Memory

variable {m : Memory} {failing : List ItemId} {calls : List Call} {statement : String}
  {item : Item} {items : List Item}

/-- The storage after some calls, with the writes of some identifiers set to fail. -/
def afterFailing (failing : List ItemId) (calls : List Call) : Memory :=
  stateAfter call (empty failing) calls

/-- The items that it has taken by then, in order. -/
def takenBy (failing : List ItemId) (calls : List Call) : List Item :=
  taken calls (outcomes call (empty failing) calls)

theorem afterFailing_concat (failing : List ItemId) (calls : List Call) (c : Call) :
    afterFailing failing (calls ++ [c]) = ((afterFailing failing calls).call c).1 :=
  stateAfter_concat call _ calls c

theorem takenBy_concat (failing : List ItemId) (calls : List Call) (c : Call) :
    takenBy failing (calls ++ [c]) = takenBy failing calls ++
      taken [c] [((afterFailing failing calls).call c).2] := by
  unfold takenBy taken
  rw [outcomes_concat, List.zip_append (length_outcomes call _ calls).symm, List.filterMap_append]
  rfl

theorem takenBy_append (failing : List ItemId) (calls more : List Call) :
    takenBy failing calls <+: takenBy failing (calls ++ more) := by
  induction more using List.reverseRecOn with
  | nil => simp
  | append_singleton more c ih =>
    rw [← List.append_assoc, takenBy_concat]
    exact ih.trans (List.prefix_append _ _)

/-- What a storage knows of its calls, of which it has taken some items. -/
structure Recorded (failing : List ItemId) (calls : List Call) (items : List Item) (m : Memory) :
    Prop where
  failing : m.failing = failing
  ready : m.ready = true ↔ .setup ∈ calls
  attempts : m.attempts = (calls.filterMap Call.item?).map (·.id)
  taken : items.Sublist (calls.filterMap Call.item?)
  writeOrder : m.writeOrder = items.map (·.id)
  row : ∀ id, m.row? id = items.find? (·.id = id)
  consistent : m.Consistent

theorem recorded_empty (failing : List ItemId) : Recorded failing [] [] (empty failing) where
  failing := rfl
  ready := by simp [empty]
  attempts := rfl
  taken := .slnil
  writeOrder := rfl
  row _ := rfl
  consistent := ⟨.nil, .refl _⟩

theorem Recorded.setup (h : Recorded failing calls items m) :
    Recorded failing (calls ++ [.setup]) items m.setup where
  failing := h.failing
  ready := by simp [Memory.setup]
  attempts := by
    rw [List.filterMap_append]
    exact h.attempts.trans (by simp [Call.item?])
  taken := by
    rw [List.filterMap_append]
    exact h.taken.trans (List.sublist_append_left _ _)
  writeOrder := h.writeOrder
  row := h.row
  consistent := ⟨h.consistent.rising, h.consistent.written⟩

theorem Recorded.attempt (h : Recorded failing calls items m) (statement : String) (item : Item) :
    Recorded failing (calls ++ [.execute statement item]) items (m.attempt item) where
  failing := h.failing
  ready := by simpa [Memory.attempt] using h.ready
  attempts := by
    rw [List.filterMap_append, List.map_append, ← h.attempts]
    rfl
  taken := by
    rw [List.filterMap_append]
    exact h.taken.trans (List.sublist_append_left _ _)
  writeOrder := h.writeOrder
  row := h.row
  consistent := ⟨h.consistent.rising, h.consistent.written⟩

/-- A row is written where there was none, so it is the first with its identifier. -/
theorem Recorded.write (h : Recorded failing calls items m) (statement : String)
    (new : item.id ∉ m.storedIds) (kept : (m.write item).Consistent) :
    Recorded failing (calls ++ [.execute statement item]) (items ++ [item]) (m.write item) where
  failing := h.failing
  ready := (h.attempt statement item).ready
  attempts := (h.attempt statement item).attempts
  taken := by
    rw [List.filterMap_append]
    exact h.taken.append (.refl _)
  writeOrder := by
    rw [List.map_append, ← h.writeOrder]
    rfl
  row id := by
    rw [row?_write new, List.find?_append, h.row, List.find?_singleton]
    by_cases same : item.id = id
    · have none : items.find? (·.id = id) = none := by
        rw [← h.row, row?_eq_none_iff, ← same]
        exact new
      simp [same, none]
    · simp [same]
  consistent := kept

theorem recorded_after (failing : List ItemId) (calls : List Call) :
    Recorded failing calls (takenBy failing calls) (afterFailing failing calls) := by
  induction calls using List.reverseRecOn with
  | nil => exact recorded_empty failing
  | append_singleton calls c ih =>
    rw [takenBy_concat, afterFailing_concat]
    cases c with
    | setup => exact (List.append_nil _).symm ▸ ih.setup
    | execute statement item =>
      have kept := ih.consistent.execute statement item
      rw [call]
      rcases execute_cases _ statement item with ⟨e, -, he⟩ | ⟨-, -, -, new, he⟩
      · rw [he]
        exact (List.append_nil _).symm ▸ ih.attempt statement item
      · rw [he] at kept ⊢
        exact ih.write statement new kept

/-- What the views of a storage tell of its calls. -/
structure Tells (failing : List ItemId) (calls : List Call) (m : Memory) : Prop where
  /-- The attempts are all executions, in order. -/
  attempts : m.attempts = (calls.filterMap Call.item?).map (·.id)
  /-- The writes are the executions that succeeded, in order. -/
  writes : m.writeOrder = (takenBy failing calls).map (·.id)
  ordered : m.writeOrder.Sublist m.attempts
  once : m.writeOrder.Nodup
  /-- There are rows for just those identifiers. -/
  keys : ∀ id, id ∈ m.writeOrder ↔ (m.row? id).isSome
  sorted : m.storedIds.Pairwise (· < ·) ∧ m.storedIds.Perm m.writeOrder
  /-- A row is that of the first execution that succeeded for its identifier. -/
  first : ∀ id, m.row? id = (takenBy failing calls).find? (·.id = id)
  kept : ∀ id item more, m.row? id = some item →
    (afterFailing failing (calls ++ more)).row? id = some item
  /-- What an execution comes to: of the errors that apply, the first. -/
  answered : ∀ statement item, (m.call (.execute statement item)).2 =
    if .setup ∉ calls ∨ statement ≠ insertItem then .error (.unknownStatement statement)
    else if item.id ∈ failing then .error (.query statement .poolTimedOut)
    else if item.id ∈ (takenBy failing calls).map (·.id) then .error (.duplicate item.id)
    else .ok ()
  refused : ∀ statement item e, (m.call (.execute statement item)).2 = .error e →
    (m.call (.execute statement item)).1.rows = m.rows ∧
      (m.call (.execute statement item)).1.writeOrder = m.writeOrder

/-- Whatever is called and whichever writes are set to fail, the views tell of the same calls. -/
theorem tells_calls (failing : List ItemId) (calls : List Call) :
    Tells failing calls (afterFailing failing calls) := by
  have h := recorded_after failing calls
  have keys (id : ItemId) : id ∈ (afterFailing failing calls).writeOrder ↔
      ((afterFailing failing calls).row? id).isSome := by
    rw [h.consistent.written.mem_iff, isSome_row?]
  constructor
  case attempts => exact h.attempts
  case writes => exact h.writeOrder
  case ordered =>
    rw [h.writeOrder, h.attempts]
    exact h.taken.map _
  case once => exact h.consistent.nodup_writeOrder
  case keys => exact keys
  case sorted => exact ⟨h.consistent.pairwise_storedIds, h.consistent.written.symm⟩
  case first => exact h.row
  case kept =>
    intro id item more held
    rw [h.row] at held
    rw [(recorded_after failing (calls ++ more)).row]
    exact (takenBy_append failing calls more).find?_eq_some held
  case answered =>
    intro statement item
    have result : ((afterFailing failing calls).execute statement item).2 =
        ((afterFailing failing calls).refusal? statement item).elim (.ok ()) .error := by
      unfold execute
      cases (afterFailing failing calls).refusal? statement item <;> rfl
    simp only [call, result, refusal?, ← keys, h.writeOrder, h.failing, ← h.ready,
      Bool.or_eq_true, Bool.not_eq_true', decide_eq_true_eq, Bool.not_eq_true]
    split_ifs <;> rfl
  case refused =>
    intro statement item e failed
    rw [call] at failed ⊢
    rcases execute_cases _ statement item with ⟨_, -, he⟩ | ⟨-, -, -, -, he⟩
    · rw [he]
      exact ⟨rfl, rfl⟩
    · rw [he] at failed
      cases failed

/-- With writes of 2 set to fail, called too early, out of order, and with an identifier twice. -/
example :
    let item (id : UInt64) : Item := ⟨⟨id⟩, none, none, ""⟩
    let m := afterFailing [⟨2⟩] [.execute insertItem (item 3), .setup, .execute insertItem (item 3),
      .execute insertItem (item 2), .execute insertItem (item 1), .execute insertItem (item 3)]
    m.attempts = [⟨3⟩, ⟨3⟩, ⟨2⟩, ⟨1⟩, ⟨3⟩] ∧ m.writeOrder = [⟨3⟩, ⟨1⟩] ∧
      m.storedIds = [⟨1⟩, ⟨3⟩] := by
  decide

end Memory
end FeedIngest.Storage
