import FeedIngest.Storage.Memory
import FeedIngest.Proofs.Span
import Mathlib.Data.List.Sort

/-! The storage in memory. Every execution is an attempt. One that is refused changes nothing
else; one that is not writes the row of an identifier that had none. So the rows stand by rising
identifier, and were written one by one. -/

namespace FeedIngest

namespace ItemId

instance : Std.Irrefl (α := ItemId) (· < ·) := ⟨fun a => Nat.lt_irrefl a.toNat⟩

instance : Std.Asymm (α := ItemId) (· < ·) := ⟨fun _ _ => Nat.lt_asymm⟩

end ItemId

namespace Storage.Memory

variable {m : Memory} {statement : String} {item : Item} {rows : List Item}

theorem perm_insertSorted (item : Item) (rows : List Item) :
    (insertSorted item rows).Perm (item :: rows) := by
  induction rows with
  | nil => exact .refl _
  | cons r rows ih =>
    unfold insertSorted
    split
    · exact .refl _
    · exact (ih.cons r).trans (.swap item r rows)

/-- Rows stand by rising identifier. -/
def Rising (rows : List Item) : Prop := rows.Pairwise fun a b => a.id < b.id

theorem rising_insertSorted (h : Rising rows) (new : ∀ r ∈ rows, r.id ≠ item.id) :
    Rising (insertSorted item rows) := by
  induction rows with
  | nil => exact List.pairwise_singleton _ _
  | cons r rows ih =>
    obtain ⟨least, rising⟩ := List.pairwise_cons.1 h
    rw [List.forall_mem_cons] at new
    unfold insertSorted
    split
    case isTrue hlt =>
      refine List.pairwise_cons.2 ⟨?_, h⟩
      rw [List.forall_mem_cons]
      exact ⟨hlt, fun s hs => Nat.lt_trans hlt (least s hs)⟩
    case isFalse hge =>
      have hlt : r.id < item.id := by
        have hne : r.id.toNat ≠ item.id.toNat := fun he => new.1 (ItemId.ext_toNat he)
        rw [ItemId.lt_iff] at hge ⊢
        omega
      refine List.pairwise_cons.2 ⟨fun s hs => ?_, ih rising new.2⟩
      rcases List.mem_cons.1 ((perm_insertSorted item rows).mem_iff.1 hs) with rfl | hs
      · exact hlt
      · exact least s hs

/-- The storage after an attempt that was refused. -/
def attempt (m : Memory) (item : Item) : Memory := { m with attempts := m.attempts ++ [item.id] }

/-- The storage after an attempt that wrote a row. -/
def write (m : Memory) (item : Item) : Memory :=
  { m.attempt item with
    rows := insertSorted item m.rows
    writeOrder := m.writeOrder ++ [item.id] }

theorem mem_storedIds {id : ItemId} : id ∈ m.storedIds ↔ ∃ item ∈ m.rows, item.id = id :=
  List.mem_map

theorem mem_storedIds_write {id : ItemId} :
    id ∈ (m.write item).storedIds ↔ id = item.id ∨ id ∈ m.storedIds := by
  have perm := (perm_insertSorted item m.rows).map (·.id)
  rw [storedIds, write, perm.mem_iff]
  exact List.mem_cons

theorem isSome_row? {id : ItemId} : (m.row? id).isSome ↔ id ∈ m.storedIds := by
  rw [row?, List.find?_isSome, mem_storedIds]
  simp

theorem row?_eq_none_iff {id : ItemId} : m.row? id = none ↔ id ∉ m.storedIds := by
  rw [← isSome_row?, Option.not_isSome_iff_eq_none]

theorem find?_insertSorted (new : ∀ r ∈ rows, r.id ≠ item.id) (id : ItemId) :
    (insertSorted item rows).find? (·.id = id) =
      if item.id = id then some item else rows.find? (·.id = id) := by
  induction rows with
  | nil => by_cases h : item.id = id <;> simp [insertSorted, h]
  | cons r rows ih =>
    obtain ⟨other, rest⟩ := List.forall_mem_cons.1 new
    unfold insertSorted
    split
    · by_cases h : item.id = id <;> simp [h]
    · rw [List.find?_cons, List.find?_cons, ih rest]
      by_cases h : item.id = id
      · simp [← h, other]
      · simp [h]

/-- A write is seen under the identifier of its item, and nowhere else. -/
theorem row?_write (new : item.id ∉ m.storedIds) (id : ItemId) :
    (m.write item).row? id = if item.id = id then some item else m.row? id :=
  find?_insertSorted (fun r hr same => new (mem_storedIds.2 ⟨r, hr, same⟩)) id

theorem execute_of_refused {e : StorageError} (h : m.refusal? statement item = some e) :
    m.execute statement item = (m.attempt item, .error e) := by
  simp only [execute, h]
  rfl

theorem execute_of_admitted (h : m.refusal? statement item = none) :
    m.execute statement item = (m.write item, .ok ()) := by
  simp only [execute, h]
  rfl

/-- An execution is refused, for the reason there is, or writes the row of an identifier that
is not set to fail and had none. -/
theorem execute_cases (m : Memory) (statement : String) (item : Item) :
    (∃ e, m.refusal? statement item = some e ∧
      m.execute statement item = (m.attempt item, .error e)) ∨
    (m.ready = true ∧ statement = insertItem ∧ item.id ∉ m.failing ∧ item.id ∉ m.storedIds ∧
      m.execute statement item = (m.write item, .ok ())) := by
  cases refusal : m.refusal? statement item with
  | some e => exact .inl ⟨e, rfl, execute_of_refused refusal⟩
  | none =>
    have why := refusal
    unfold refusal? at why
    split at why
    case isTrue => cases why
    case isFalse known =>
      split at why
      case isTrue => cases why
      case isFalse spared =>
        split at why
        case isTrue => cases why
        case isFalse fresh =>
          rw [isSome_row?] at fresh
          simp only [Bool.or_eq_true, Bool.not_eq_true', decide_eq_true_eq, not_or,
            Bool.not_eq_false, not_not] at known
          exact .inr ⟨known.1, known.2, spared, fresh, execute_of_admitted refusal⟩

/-- The rows stand by rising identifier, and each was written once. -/
structure Consistent (m : Memory) : Prop where
  rising : Rising m.rows
  written : m.writeOrder.Perm m.storedIds

theorem Consistent.execute (h : m.Consistent) (statement : String) (item : Item) :
    (m.execute statement item).1.Consistent := by
  rcases m.execute_cases statement item with ⟨e, -, he⟩ | ⟨-, -, -, new, he⟩
  · rw [he]
    exact ⟨h.rising, h.written⟩
  · rw [he]
    constructor
    · apply rising_insertSorted h.rising
      exact fun r hr hid => new (mem_storedIds.2 ⟨r, hr, hid⟩)
    · have rows := (perm_insertSorted item m.rows).map (·.id)
      exact (List.perm_append_singleton _ _).trans ((h.written.cons item.id).trans rows.symm)

theorem Consistent.pairwise_storedIds (h : m.Consistent) : m.storedIds.Pairwise (· < ·) :=
  List.pairwise_map.2 h.rising

theorem Consistent.nodup_writeOrder (h : m.Consistent) : m.writeOrder.Nodup :=
  h.written.nodup_iff.2 (ItemId.nodup_of_pairwise h.pairwise_storedIds)

end Storage.Memory
end FeedIngest
