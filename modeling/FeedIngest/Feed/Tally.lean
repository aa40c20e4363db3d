import FeedIngest.ItemId

/-! Counts by identifier, zero where none was set. -/

namespace FeedIngest

/-- Counts by identifier; the first entry of an identifier counts. -/
abbrev Tally := List (ItemId × Nat)

namespace Tally

def count (t : Tally) (id : ItemId) : Nat := ((t.find? (·.1 = id)).map (·.2)).getD 0

def set (t : Tally) (id : ItemId) (n : Nat) : Tally :=
  match t with
  | [] => [(id, n)]
  | e :: t => if e.1 = id then (id, n) :: t else e :: set t id n

def increment (t : Tally) (id : ItemId) : Tally := t.set id (t.count id + 1)

def decrement (t : Tally) (id : ItemId) : Tally := t.set id (t.count id - 1)

theorem count_set (t : Tally) (id other : ItemId) (n : Nat) :
    (t.set id n).count other = if other = id then n else t.count other := by
  induction t with
  | nil =>
    by_cases h : other = id
    · simp [set, count, h]
    · have h' : id ≠ other := fun e => h e.symm
      simp [set, count, h, h']
  | cons e t ih =>
    unfold set
    by_cases he : e.1 = id
    · by_cases h : other = id
      · simp [count, he, h]
      · have h' : id ≠ other := fun e => h e.symm
        simp [count, he, h, h']
    · by_cases ho : e.1 = other
      · have h : other ≠ id := fun h => he (ho.trans h)
        simp [count, ho, h]
      · simp only [if_neg he]
        simp only [count, List.find?_cons, ho, decide_false] at ih ⊢
        exact ih

theorem count_increment (t : Tally) (id other : ItemId) :
    (t.increment id).count other = t.count other + if other = id then 1 else 0 := by
  rw [increment, count_set]
  split <;> simp_all

theorem count_decrement_self (t : Tally) (id : ItemId) :
    (t.decrement id).count id = t.count id - 1 := by
  rw [decrement, count_set, if_pos rfl]

theorem count_decrement_other {t : Tally} {id other : ItemId} (h : other ≠ id) :
    (t.decrement id).count other = t.count other := by
  rw [decrement, count_set, if_neg h]

end Tally
end FeedIngest
