import FeedIngest.Proofs.Retrying
import FeedIngest.Proofs.UnitOfWork.Moves

/-! The course of one fetch. What a fetch has done is a number of rounds, each a lookup without
the item and the wait after it, and then what the last lookup has come to so far. -/

namespace FeedIngest

namespace Event

/-- The calls for an item. -/
def asks : Event → List ItemId
  | lookupCalled id => [id]
  | _ => []

/-- What these calls were answered with. -/
def hears : Event → List (Except FeedError Lookup)
  | lookupAnswered _ result => [result]
  | _ => []

end Event

namespace Fetch

/-- The search for one item: how it is repeated, and what the feed replies, time after time. -/
structure Search where
  timer : Timer
  policy : RetryPolicy
  id : ItemId
  replies : Nat → Except FeedError Lookup

/-- A reply that does not bring the item. -/
def Without (reply : Except FeedError Lookup) : Prop := ∀ item, reply ≠ .ok (.available item)

theorem without_or_brings (reply : Except FeedError Lookup) :
    Without reply ∨ ∃ item, reply = .ok (.available item) := by
  by_cases h : Without reply
  · exact .inl h
  · unfold Without at h
    push Not at h
    exact .inr h

/-- The items asked for in a course. -/
def asked (c : Course Phase) : List ItemId := c.events.flatMap Event.asks

/-- The answers in a course. -/
def heard (c : Course Phase) : List (Except FeedError Lookup) := c.events.flatMap Event.hears

namespace Search

variable (s : Search)

/-- The answer to the call under way, if there is one: the next of the replies. -/
def answer (c : Course Phase) (t : Tick) : Option (Answer Lookup) :=
  if t.replied then some (.ok (s.replies (heard c).length)) else none

/-- One step of the search. -/
def step (c : Course Phase) (t : Tick) : Course Phase :=
  let now := c.now + t.passed
  let (phase, events) := poll s.timer s.policy s.id now t.shutdown (s.answer c t) c.phase
  c.next phase now events

/-- How the search stands after so many steps. -/
def course (ticks : Nat → Tick) : Nat → Course Phase
  | 0 => .start Fetch.start
  | i + 1 => s.step (course ticks i) (ticks i)

/-- Its lookups. -/
def lookups : Retrying Phase where
  timer := s.timer
  policy := s.policy
  call := .lookupCalled s.id
  answered k := .lookupAnswered s.id (s.replies k)
  misses k := Without (s.replies k)
  skipped := Duration.isZero
  asking := .asking
  awaiting := .awaiting
  backingOff := .backingOff
  call_quiet _ h := by cases h
  answered_quiet _ _ h := by cases h
  skipped_zero := Duration.isZero_iff.1

theorem asks_rounds (n : Nat) :
    (s.lookups.rounds n).flatMap Event.asks = List.replicate n s.id := by
  rw [s.lookups.flatMap_rounds (f := fun _ => s.id) (fun _ => rfl), List.map_const',
    List.length_range]

theorem hears_rounds (n : Nat) :
    (s.lookups.rounds n).flatMap Event.hears = (List.range n).map s.replies :=
  s.lookups.flatMap_rounds (fun _ => rfl) n

structure Found (n : Nat) (item : Item) (c : Course Phase) : Prop extends
    s.lookups.Done n [.lookupCalled s.id, .lookupAnswered s.id (.ok (.available item))] c where
  phase : c.phase = .found item
  there : s.replies n = .ok (.available item)

structure GivenUp (n : Nat) (tail : List Event) (c : Course Phase) : Prop extends
    s.lookups.Done n tail c where
  phase : c.phase = .cancelled
  part : tail <+: [.lookupCalled s.id]

/-- How a search stands that has missed the item so many times. -/
inductive Stands (n : Nat) (c : Course Phase) : Prop
  | going (h : s.lookups.Stands n c)
  | found {item} (h : s.Found n item c)
  | givenUp {tail} (h : s.GivenUp n tail c)

variable {s} {n : Nat} {tail : List Event} {c : Course Phase} {t : Tick}

theorem step_eq {phase : Phase} {events : List Event}
    (h : poll s.timer s.policy s.id (c.now + t.passed) t.shutdown (s.answer c t) c.phase =
      (phase, events)) : s.step c t = c.next phase (c.now + t.passed) events := by
  rw [step, h]

theorem step_over (h : c.phase.isOver = true) :
    s.step c t = c.next c.phase (c.now + t.passed) [] := by
  apply step_eq
  cases hc : c.phase with
  | found | cancelled | crashed => rfl
  | asking | awaiting | backingOff => rw [hc] at h; cases h

theorem step_shutdown (live : c.phase.isOver = false) (late : t.shutdown = true) :
    s.step c t = c.next .cancelled (c.now + t.passed) [] := by
  apply step_eq
  rw [late]
  cases hc : c.phase with
  | asking | awaiting | backingOff => rfl
  | found | cancelled | crashed => rw [hc] at live; cases live

/-- The call is answered with the reply that has not been heard. -/
theorem answer_eq (h : s.lookups.Awaiting n c) (replied : t.replied = true) :
    s.answer c t = some (.ok (s.replies n)) := by
  have count : (heard c).length = n := by
    rw [heard, h.events, List.flatMap_append, hears_rounds, List.length_append,
      List.length_map, List.length_range]
    rfl
  rw [answer, if_pos replied, count]

theorem follows (s : Search) (ticks : Nat → Tick) : s.lookups.Follows ticks (s.course ticks) := by
  refine ⟨fun _ => rfl, ?ask, ?stay, ?miss, ?wait, ?resume⟩
  case ask =>
    intro i a phase running
    exact step_eq (by rw [phase, running]; rfl)
  case stay =>
    intro i a since phase running unheard
    exact step_eq (by rw [phase, running, answer, unheard]; rfl)
  case miss =>
    intro i n awaiting running replied without
    obtain ⟨since, phase⟩ := awaiting.phase
    apply step_eq
    rw [phase, running, answer_eq awaiting replied]
    match hr : s.replies n with
    | .ok (.available item) => exact absurd hr (without item)
    | .ok .notAvailable | .error e =>
      dsimp only [lookups, Retrying.interval]
      rw [hr]
      rfl
  case wait =>
    intro i a due phase running early
    exact step_eq (by rw [phase, running]; exact if_neg early)
  case resume =>
    intro i a due phase running past
    exact step_eq (by rw [phase, running]; exact if_pos past)

theorem isOver_of_stands (h : s.lookups.Stands n c) : c.phase.isOver = false := by
  cases h with
  | asking h => rw [h.phase]; rfl
  | awaiting h => obtain ⟨since, phase⟩ := h.phase; rw [phase]; rfl
  | backingOff h => rw [h.phase]; rfl

theorem find (h : s.lookups.Awaiting n c) (running : t.shutdown = false)
    (replied : t.replied = true) {item : Item} (there : s.replies n = .ok (.available item)) :
    s.Found n item (s.step c t) := by
  obtain ⟨since, phase⟩ := h.phase
  have he : s.step c t = c.next (.found item) (c.now + t.passed)
      [.lookupAnswered s.id (.ok (.available item))] :=
    step_eq (by rw [phase, running, answer_eq h replied, there]; rfl)
  rw [he]
  exact ⟨h.toDone.append (h.rested _) (List.isChain_singleton _), rfl, there⟩

/-- A shutdown ends the search wherever it is. -/
theorem giveUp (h : s.lookups.Stands n c) (late : t.shutdown = true) :
    ∃ tail, s.GivenUp n tail (s.step c t) := by
  rw [step_shutdown (isOver_of_stands h) late]
  cases h with
  | asking h | backingOff h => exact ⟨[], h.toDone.same _ _, rfl, List.nil_prefix⟩
  | awaiting h => exact ⟨[.lookupCalled s.id], h.toDone.same _ _, rfl, List.prefix_refl _⟩

variable {ticks : Nat → Tick} {i : Nat}

/-- A step keeps the rounds that are done, and adds one at the most. -/
theorem Stands.step (h : s.Stands n (s.course ticks i)) :
    ∃ m, s.Stands m (s.course ticks (i + 1)) := by
  cases h with
  | found h =>
    rw [course, step_over (by rw [h.phase]; rfl)]
    exact ⟨n, .found ⟨h.toDone.same _ _, h.phase, h.there⟩⟩
  | givenUp h =>
    rw [course, step_over (by rw [h.phase]; rfl)]
    exact ⟨n, .givenUp ⟨h.toDone.same _ _, h.phase, h.part⟩⟩
  | going h =>
    cases shutdown : (ticks i).shutdown with
    | true =>
      obtain ⟨tail, givenUp⟩ := giveUp h shutdown
      exact ⟨n, .givenUp givenUp⟩
    | false =>
      rcases h.step (s.follows ticks) shutdown with ⟨m, going⟩ | ⟨awaiting, replied, brings⟩
      · exact ⟨m, .going going⟩
      · obtain ⟨item, there⟩ := (without_or_brings (s.replies n)).resolve_left brings
        exact ⟨n, .found (find awaiting shutdown replied there)⟩

/-- After any number of steps. -/
theorem exists_stands (s : Search) (ticks : Nat → Tick) (i : Nat) :
    ∃ n, s.Stands n (s.course ticks i) := by
  induction i with
  | zero => exact ⟨0, .going (.asking Retrying.asking_start)⟩
  | succ i ih =>
    obtain ⟨n, h⟩ := ih
    exact h.step

end Search
end Fetch
end FeedIngest
