import FeedIngest.Channel

/-! What the operations of a channel do to its buffer and its flags. A sender waits only for
as long as all places are taken. -/

namespace FeedIngest.Channel

variable {c d : Channel} {id : ItemId}

/-- The channel with one more place taken. -/
def book (c : Channel) : Channel := { c with reserved := c.reserved + 1, waiting := false }

/-- The channel with one more identifier in its buffer. -/
def put (c : Channel) (id : ItemId) : Channel :=
  { c with buffer := c.buffer ++ [id], waiting := false }

/-- The channel with a sender that waits. -/
def block (c : Channel) : Channel := { c with waiting := true }

/-- The channel once the receiving end has been closed and what was left taken out. -/
def drained (c : Channel) : Channel := { c.close with buffer := [] }

/-- A sender is refused if the channel is closed, else it gets a place if there is one. -/
theorem reserve_cases (c : Channel) :
    (c.closed = true ∧ c.reserve = (c, .refused)) ∨
    (c.closed = false ∧ c.used < c.capacity ∧ c.reserve = (c.book, .accepted)) ∨
    (c.closed = false ∧ c.capacity ≤ c.used ∧ c.reserve = (c.block, .full)) := by
  unfold reserve book block
  cases hc : c.closed with
  | true => simp
  | false =>
    by_cases hl : c.used < c.capacity
    · simp [hl]
    · simp [hl, Nat.le_of_not_lt hl]

/-- A place that is filled at once is not reserved. -/
theorem push_book (c : Channel) (id : ItemId) : c.book.push id = c.put id := rfl

/-- So an identifier is refused if the channel is closed, else accepted if there is a place. -/
theorem offer_cases (c : Channel) (id : ItemId) :
    (c.closed = true ∧ c.offer id = (c, .refused)) ∨
    (c.closed = false ∧ c.used < c.capacity ∧ c.offer id = (c.put id, .accepted)) ∨
    (c.closed = false ∧ c.capacity ≤ c.used ∧ c.offer id = (c.block, .full)) := by
  unfold offer
  obtain ⟨closed, h⟩ | ⟨opened, place, h⟩ | ⟨opened, full, h⟩ := c.reserve_cases
  · exact .inl ⟨closed, by rw [h]⟩
  · exact .inr (.inl ⟨opened, place, by rw [h, ← push_book]⟩)
  · exact .inr (.inr ⟨opened, full, by rw [h]⟩)

theorem reserve_of_closed (h : c.closed = true) : c.reserve = (c, .refused) := if_pos h

theorem offer_of_closed (h : c.closed = true) (id : ItemId) : c.offer id = (c, .refused) := by
  rw [offer, reserve_of_closed h]

theorem take?_eq_some (h : c.take? = some (id, d)) :
    c.buffer = id :: d.buffer ∧ d = { c with buffer := d.buffer, waiting := false } := by
  unfold take? at h
  split at h
  case h_1 => cases h
  case h_2 hb => cases h; exact ⟨hb, rfl⟩

theorem take?_eq_none : c.take? = none ↔ c.buffer = [] := by
  unfold take?
  split <;> simp_all

@[simp] theorem buffer_put : (c.put id).buffer = c.buffer ++ [id] := rfl
@[simp] theorem buffer_block : c.block.buffer = c.buffer := rfl
@[simp] theorem buffer_abandonSending : c.abandonSending.buffer = c.buffer := rfl
@[simp] theorem buffer_drained : c.drained.buffer = [] := rfl

end FeedIngest.Channel
