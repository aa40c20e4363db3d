import FeedIngest.Proofs.Fetch.Course

/-! How a fetch returns. If time goes on and its calls are answered, it returns the first item
that a reply brings, unchanged and after just as many calls and waits as there were replies without
it. A shutdown that it sees before that ends it, without another call. It returns in no other
way. -/

namespace FeedIngest.Fetch.Search

/-- The item is in the reply after so many without it. -/
structure FirstFind (s : Search) (n : Nat) (item : Item) : Prop where
  missed : ∀ k < n, Without (s.replies k)
  there : s.replies n = .ok (.available item)

/-- No shutdown is seen while the search goes on. -/
def Undisturbed (s : Search) (ticks : Nat → Tick) : Prop :=
  ∀ i, (s.course ticks i).phase.isOver = false → (ticks i).shutdown = false

variable {s : Search} {ticks : Nat → Tick} {i j n : Nat} {item : Item}

/-- What is over stays as it is. -/
theorem course_over (h : (s.course ticks i).phase.isOver = true) (later : i ≤ j) :
    (s.course ticks j).phase = (s.course ticks i).phase ∧
      (s.course ticks j).trace = (s.course ticks i).trace := by
  induction j, later using Nat.le_induction with
  | base => exact ⟨rfl, rfl⟩
  | succ j _ ih =>
    rw [course, step_over (ih.1 ▸ h), Course.trace_next_nil]
    exact ih

theorem isOver_of_result? {phase : Phase} {result : Except FetchError Item}
    (h : phase.result? = some result) : phase.isOver = true := by
  cases phase with
  | found | cancelled | crashed => rfl
  | asking | awaiting | backingOff => cases h

/-- Whatever stands, no other item is asked for. -/
theorem Stands.asked {c : Course Phase} (h : s.Stands n c) : ∀ id ∈ asked c, id = s.id := by
  have own {n : Nat} {tail : List Event} (h : s.lookups.Done n tail c)
      (ht : ∀ id ∈ tail.flatMap Event.asks, id = s.id) : ∀ id ∈ Fetch.asked c, id = s.id := by
    intro id hid
    rw [Fetch.asked, h.events, List.flatMap_append, asks_rounds] at hid
    rcases List.mem_append.1 hid with hid | hid
    · exact List.eq_of_mem_replicate hid
    · exact ht id hid
  have called : ∀ id ∈ [Event.lookupCalled s.id].flatMap Event.asks, id = s.id := by
    intro id hid
    exact List.mem_singleton.1 hid
  cases h with
  | going h =>
    cases h with
    | asking h | backingOff h => exact own h.toDone (by intro id hid; cases hid)
    | awaiting h => exact own h.toDone called
  | found h => exact own h.toDone called
  | givenUp h =>
    refine own h.toDone ?_
    intro id hid
    obtain ⟨e, he, hid⟩ := List.mem_flatMap.1 hid
    exact called id (List.mem_flatMap.2 ⟨e, h.part.subset he, hid⟩)

theorem Stands.spaced {c : Course Phase} (h : s.Stands n c) : c.trace.IsChain (Spaced s.timer) := by
  cases h with
  | going h => cases h with | asking h | awaiting h | backingOff h => exact h.spaced
  | found h => exact h.spaced
  | givenUp h => exact h.spaced

theorem Found.firstFind {c : Course Phase} (h : s.Found n item c) : s.FirstFind n item :=
  ⟨h.missed, h.there⟩

theorem Found.asked {c : Course Phase} (h : s.Found n item c) :
    Fetch.asked c = List.replicate (n + 1) s.id := by
  rw [Fetch.asked, h.events, List.flatMap_append, asks_rounds, List.replicate_succ']
  rfl

theorem Found.waited {c : Course Phase} (h : s.Found n item c) :
    c.waited = (List.range n).map fun k => s.policy.interval (attempt (k + 1)) := by
  rw [h.toDone.waited]
  exact List.append_nil _

/-- A search that is over has found the item or was ended. -/
theorem Stands.ended {c : Course Phase} (h : s.Stands n c) (ended : c.phase.isOver = true) :
    (∃ item, s.Found n item c) ∨ c.phase = .cancelled := by
  cases h with
  | going h => rw [isOver_of_stands h] at ended; cases ended
  | found h => exact .inl ⟨_, h⟩
  | givenUp h => exact .inr h.phase

theorem found_of_result? (h : (s.course ticks i).phase.result? = some (.ok item)) :
    ∃ n, s.Found n item (s.course ticks i) := by
  obtain ⟨n, stands⟩ := s.exists_stands ticks i
  rcases stands.ended (isOver_of_result? h) with ⟨item', found⟩ | phase
  · rw [found.phase] at h
    cases h
    exact ⟨n, found⟩
  · rw [phase] at h
    cases h

/-- The first item that a reply brings is found, if the search is not disturbed. -/
theorem FirstFind.found (first : s.FirstFind n item) (calm : s.Undisturbed ticks)
    (fair : Fair ticks) : ∃ i, s.Found n item (s.course ticks i) := by
  have quiet : ∀ i n, s.lookups.Stands n (s.course ticks i) → (ticks i).shutdown = false :=
    fun i n h => calm i (isOver_of_stands h)
  have asking : s.lookups.Asking 0 (s.course ticks 0) := Retrying.asking_start
  have awaiting : s.lookups.Awaiting 0 (s.course ticks 1) :=
    asking.ask (s.follows ticks) (quiet 0 0 (.asking asking))
  obtain ⟨j, awaiting, running, replied⟩ :=
    awaiting.reaches (s.follows ticks) quiet fair first.missed (Nat.zero_add n)
  exact ⟨j + 1, find awaiting running replied first.there⟩

/-- Only a shutdown makes a search give up. -/
theorem shutdown_of_cancelled (h : (s.course ticks i).phase = .cancelled) :
    ∃ j < i, (s.course ticks j).phase.isOver = false ∧ (ticks j).shutdown = true := by
  induction i with
  | zero => cases h
  | succ i ih =>
    cases ended : (s.course ticks i).phase.isOver with
    | true =>
      rw [(course_over ended (Nat.le_succ i)).1] at h
      obtain ⟨j, hj, seen⟩ := ih h
      exact ⟨j, Nat.lt_succ_of_lt hj, seen⟩
    | false =>
      refine ⟨i, Nat.lt_succ_self i, ended, ?_⟩
      have move : Move s.timer s.policy s.id _ (ticks i).shutdown _ (s.course ticks i).phase
          (s.course ticks (i + 1)).phase _ := poll_move _
      rw [h] at move
      rcases Fetch.shutdown_of_cancelled move with late | cancelled
      · exact late
      · rw [cancelled] at ended
        cases ended

theorem backingOff_of_phase {a : UInt32} {due : Nat}
    (h : (s.course ticks i).phase = .backingOff a due) :
    ∃ n, a = attempt n ∧ s.lookups.BackingOff n due (s.course ticks i) := by
  obtain ⟨n, stands⟩ := s.exists_stands ticks i
  cases stands with
  | going stands =>
    refine ⟨n, stands.backingOff_of_phase h ?_ ?_ ?_⟩
    · rintro b ⟨⟩
    · rintro b since ⟨⟩
    · rintro b later ⟨⟩
      exact ⟨rfl, rfl⟩
  | found found => cases found.phase.symm.trans h
  | givenUp cancelled => cases cancelled.phase.symm.trans h

theorem Stands.yields {c : Course Phase} (h : s.Stands n c) {t : Nat}
    (last : c.trace.getLast? = some (t, .waiting .zero)) :
    (∃ a, c.phase = .asking a) ∨ c.phase = .cancelled := by
  have told : c.events.getLast? = some (.waiting .zero) := Course.getLast?_events last
  cases h with
  | givenUp h => exact .inr h.phase
  | found h =>
    rw [h.events, List.getLast?_append] at told
    cases told
  | going h =>
    cases h with
    | asking h => exact .inl ⟨_, h.phase⟩
    | awaiting h =>
      rw [h.events, List.getLast?_concat] at told
      cases told
    | backingOff h =>
      obtain ⟨t', last', -⟩ := h.last
      rw [last'] at last
      have empty : s.lookups.interval n = .zero := by
        injection last with pair
        injection pair with _ event
        exact Event.waiting.inj event
      have unskipped : (s.lookups.interval n).isZero = false := h.unskipped
      rw [empty] at unskipped
      cases unskipped

/-- What comes of a search that goes through these steps. -/
structure Returns (s : Search) (ticks : Nat → Tick) : Prop where
  /-- It asks for its own item only. -/
  asks : ∀ i, ∀ id ∈ asked (s.course ticks i), id = s.id
  /-- No call comes before the wait ahead of it has passed. -/
  spaced : ∀ i, (s.course ticks i).trace.IsChain (Spaced s.timer)
  /-- A wait is not empty, and it lasts until its timer is due or a shutdown is seen. -/
  waits : ∀ {i a due}, (s.course ticks i).phase = .backingOff a due →
    s.policy.interval a ≠ .zero ∧
    (∃ t, (s.course ticks i).trace.getLast? = some (t, .waiting (s.policy.interval a)) ∧
      due = s.timer.due t (s.policy.interval a)) ∧
    ((ticks i).shutdown = false → (s.course ticks (i + 1)).phase =
      if due ≤ (s.course ticks (i + 1)).now then .asking (nextAttempt a) else .backingOff a due)
  /-- With a timer that keeps time, that is the first step by which the interval has passed since
  the wait began. -/
  lasts : ∀ {i a due t}, (s.course ticks i).phase = .backingOff a due →
    (s.course ticks i).trace.getLast? = some (t, .waiting (s.policy.interval a)) →
    s.timer.Keeps t (s.policy.interval a) → (ticks i).shutdown = false →
    (s.course ticks (i + 1)).phase =
      if (s.policy.interval a).Passed t (s.course ticks (i + 1)).now then .asking (nextAttempt a)
      else .backingOff a due
  /-- The next call is made in the step after, unless a shutdown is seen. -/
  calls : ∀ {i a}, (s.course ticks i).phase = .asking a → (ticks i).shutdown = false →
    s.course ticks (i + 1) = (s.course ticks i).next (.awaiting a (s.course ticks (i + 1)).now)
      (s.course ticks (i + 1)).now [.lookupCalled s.id]
  /-- An empty wait is left out. -/
  yields : ∀ {i t}, (s.course ticks i).trace.getLast? = some (t, .waiting .zero) →
    (∃ a, (s.course ticks i).phase = .asking a) ∨ (s.course ticks i).phase = .cancelled
  /-- It finds the first item that a reply brings, if no shutdown is seen before. -/
  finds : ∀ {n item}, s.FirstFind n item → s.Undisturbed ticks → Fair ticks →
    ∃ i, (s.course ticks i).phase.result? = some (.ok item)
  /-- It finds no other item, and with as many calls as there are replies up to that one. -/
  found : ∀ {i item}, (s.course ticks i).phase.result? = some (.ok item) →
    ∃ n, s.FirstFind n item ∧ asked (s.course ticks i) = List.replicate (n + 1) s.id ∧
      (s.course ticks i).waited = (List.range n).map fun k => s.policy.interval (attempt (k + 1))
  /-- A shutdown that it sees makes it return, and it does nothing more. -/
  cancelled : ∀ {i}, (s.course ticks i).phase.isOver = false → (ticks i).shutdown = true →
    ∀ j, i < j → (s.course ticks j).phase.result? = some (.error .cancelled) ∧
      (s.course ticks j).trace = (s.course ticks i).trace
  /-- It returns in no other way. -/
  returned : ∀ {i}, (s.course ticks i).phase.isOver = true →
    (∃ item, (s.course ticks i).phase.result? = some (.ok item)) ∨
    ((s.course ticks i).phase.result? = some (.error .cancelled) ∧
      ∃ j < i, (s.course ticks j).phase.isOver = false ∧ (ticks j).shutdown = true)
  /-- Once it has returned it does nothing. -/
  rests : ∀ {i j}, (s.course ticks i).phase.isOver = true → i ≤ j →
    (s.course ticks j).phase = (s.course ticks i).phase ∧
      (s.course ticks j).trace = (s.course ticks i).trace

/-- However its calls are answered, and whenever a shutdown is asked for. -/
theorem returns_item_or_cancelled (s : Search) (ticks : Nat → Tick) : s.Returns ticks := by
  refine ⟨?asks, ?spaced, ?waits, ?lasts, (s.follows ticks).ask, ?yields, ?finds, ?found, ?cancelled,
    ?returned, course_over⟩
  case asks =>
    intro i
    obtain ⟨n, stands⟩ := s.exists_stands ticks i
    exact stands.asked
  case spaced =>
    intro i
    obtain ⟨n, stands⟩ := s.exists_stands ticks i
    exact stands.spaced
  case waits =>
    intro i a due phase
    obtain ⟨n, rfl, waiting⟩ := backingOff_of_phase phase
    refine ⟨?_, waiting.last, (s.follows ticks).timed phase⟩
    intro empty
    have zero : s.lookups.skipped (s.lookups.interval n) = true := Duration.isZero_iff.2 empty
    rw [waiting.unskipped] at zero
    cases zero
  case lasts =>
    intro i a due t phase last keeps running
    obtain ⟨n, rfl, waiting⟩ := backingOff_of_phase phase
    exact waiting.lasts (s.follows ticks) running last keeps
  case yields =>
    intro i t last
    obtain ⟨n, stands⟩ := s.exists_stands ticks i
    exact stands.yields last
  case finds =>
    intro n item first calm fair
    obtain ⟨i, found⟩ := first.found calm fair
    exact ⟨i, by rw [found.phase]; rfl⟩
  case found =>
    intro i item result
    obtain ⟨n, found⟩ := found_of_result? result
    exact ⟨n, found.firstFind, found.asked, found.waited⟩
  case cancelled =>
    intro i live late j later
    have step : s.course ticks (i + 1) =
        (s.course ticks i).next .cancelled ((s.course ticks i).now + (ticks i).passed) [] :=
      step_shutdown live late
    have ended : (s.course ticks (i + 1)).phase.isOver = true := by rw [step]; rfl
    rw [(course_over ended later).1, (course_over ended later).2, step, Course.trace_next_nil]
    exact ⟨rfl, rfl⟩
  case returned =>
    intro i ended
    obtain ⟨n, stands⟩ := s.exists_stands ticks i
    rcases stands.ended ended with ⟨item, found⟩ | phase
    · exact .inl ⟨item, by rw [found.phase]; rfl⟩
    · exact .inr ⟨by rw [phase]; rfl, shutdown_of_cancelled phase⟩

/-- Two replies are without the item, and a step is taken every other millisecond. -/
theorem returns_item_or_cancelled_third :
    let item : Item := ⟨⟨7⟩, none, none, ""⟩
    let s : Search := ⟨.wheel 0, ⟨2, .ofMillis 3, none⟩, ⟨7⟩,
      fun k => if k < 2 then .ok .notAvailable else .ok (.available item)⟩
    let ticks : Nat → Tick := fun _ => ⟨2, false, true⟩
    s.Returns ticks ∧ s.FirstFind 2 item ∧ s.Undisturbed ticks ∧ Fair ticks ∧
      s.timer.Keeps 4 (.ofMillis 3) ∧ s.timer.Keeps 12 (.ofMillis 6) ∧
      (s.course ticks 11).phase.result? = some (.ok item) ∧
      (s.course ticks 11).trace =
        [(2, .lookupCalled ⟨7⟩), (4, .lookupAnswered ⟨7⟩ (.ok .notAvailable)),
          (4, .waiting (.ofMillis 3)), (10, .lookupCalled ⟨7⟩),
          (12, .lookupAnswered ⟨7⟩ (.ok .notAvailable)), (12, .waiting (.ofMillis 6)),
          (20, .lookupCalled ⟨7⟩), (22, .lookupAnswered ⟨7⟩ (.ok (.available item)))] := by
  refine ⟨returns_item_or_cancelled _ _, ⟨?_, rfl⟩, fun _ _ => rfl, ?_,
    Timer.wheel_keeps (by decide), Timer.wheel_keeps (by decide), rfl, rfl⟩
  · intro k hk item there
    have same : Except.ok Lookup.notAvailable = .ok (.available item) :=
      (if_pos hk).symm.trans there
    cases same
  · exact ⟨fun i => ⟨i, Nat.le_refl i, by decide⟩, fun i => ⟨i, Nat.le_refl i, rfl⟩⟩

end FeedIngest.Fetch.Search
