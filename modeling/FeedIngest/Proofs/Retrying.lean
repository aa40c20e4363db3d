import FeedIngest.Proofs.Course

/-! Calls that are repeated until an answer will do. Whatever happens, what a task that repeats a
call has done is a number of rounds, each a call that missed and the wait after it, and then what
the last call has come to so far. No call comes before the wait ahead of it is over. If time goes
on and calls are answered, every round comes. -/

namespace FeedIngest

/-- The number of the attempt that is the `k`-th; it stays at the greatest number. -/
def attempt (k : Nat) : UInt32 := UInt32.ofNat (min k 4294967295)

theorem nextAttempt_attempt (k : Nat) : Fetch.nextAttempt (attempt k) = attempt (k + 1) := by
  have hk : (attempt k).toNat = min k 4294967295 :=
    UInt32.toNat_ofNat_of_lt' (Nat.lt_succ_of_le (Nat.min_le_right _ _))
  have hs : (attempt (k + 1)).toNat = min (k + 1) 4294967295 :=
    UInt32.toNat_ofNat_of_lt' (Nat.lt_succ_of_le (Nat.min_le_right _ _))
  apply UInt32.toNat_inj.1
  unfold Fetch.nextAttempt
  split
  case isTrue small =>
    rw [UInt32.toNat_add, UInt32.toNat_one, hk, hs]
    omega
  case isFalse =>
    rw [hk, hs]
    omega

/-- A call that is repeated: how it is answered each time, after which answers it is made again,
and where the task then is. A wait of no length may be left out. -/
structure Retrying (Phase : Type) where
  timer : Timer
  policy : RetryPolicy
  call : Event
  answered : Nat → Event
  misses : Nat → Prop
  skipped : Duration → Bool
  asking : UInt32 → Phase
  awaiting : UInt32 → Nat → Phase
  backingOff : UInt32 → Nat → Phase
  call_quiet : ∀ wait, call ≠ .waiting wait
  answered_quiet : ∀ k wait, answered k ≠ .waiting wait
  skipped_zero : ∀ {wait}, skipped wait = true → wait = .zero

namespace Retrying

variable {Phase : Type} (r : Retrying Phase)

/-- The wait after so many misses. -/
def interval (n : Nat) : Duration := r.policy.interval (attempt n)

/-- A call that misses, and the wait after it. -/
def round (k : Nat) : List Event := [r.call, r.answered k, .waiting (r.interval (k + 1))]

/-- The first so many rounds. -/
def rounds (n : Nat) : List Event := (List.range n).flatMap r.round

theorem rounds_succ (n : Nat) : r.rounds (n + 1) = r.rounds n ++ r.round n := by
  rw [rounds, List.range_succ, List.flatMap_append, List.flatMap_singleton]
  rfl

/-- What is told by each round is told by all. -/
theorem flatMap_rounds {β : Type} {view : Event → List β} {f : Nat → β}
    (h : ∀ k, (r.round k).flatMap view = [f k]) (n : Nat) :
    (r.rounds n).flatMap view = (List.range n).map f := by
  rw [rounds, List.flatMap_assoc, List.map_eq_flatMap]
  exact congrArg (fun g => (List.range n).flatMap g) (funext h)

theorem waits_rounds (n : Nat) :
    (r.rounds n).flatMap Event.waits = (List.range n).map fun k => r.interval (k + 1) := by
  have quiet {e : Event} (h : ∀ wait, e ≠ .waiting wait) : e.waits = [] := by
    cases e with
    | waiting wait => exact absurd rfl (h wait)
    | _ => rfl
  apply r.flatMap_rounds
  intro k
  rw [round, List.flatMap_cons, List.flatMap_cons, quiet r.call_quiet, quiet (r.answered_quiet k)]
  rfl

/-- So many rounds are done, and then some of the next. -/
structure Done (n : Nat) (tail : List Event) (c : Course Phase) : Prop where
  missed : ∀ k < n, r.misses k
  events : c.events = r.rounds n ++ tail
  spaced : c.trace.IsChain (Spaced r.timer)

/-- It calls next. -/
structure Asking (n : Nat) (c : Course Phase) : Prop extends Done r n [] c where
  phase : c.phase = r.asking (attempt (n + 1))
  rested : c.Rested r.timer c.now

structure Awaiting (n : Nat) (c : Course Phase) : Prop extends Done r n [r.call] c where
  phase : ∃ since, c.phase = r.awaiting (attempt (n + 1)) since

structure BackingOff (n due : Nat) (c : Course Phase) : Prop extends Done r n [] c where
  phase : c.phase = r.backingOff (attempt n) due
  unskipped : r.skipped (r.interval n) = false
  last : ∃ t, c.trace.getLast? = some (t, .waiting (r.interval n)) ∧
    due = r.timer.due t (r.interval n)

/-- How it stands when it has missed so many times. -/
inductive Stands (n : Nat) (c : Course Phase) : Prop
  | asking (h : r.Asking n c)
  | awaiting (h : r.Awaiting n c)
  | backingOff {due} (h : r.BackingOff n due c)

/-- A course that repeats the call as long as no shutdown has been asked for. -/
structure Follows (ticks : Nat → Tick) (c : Nat → Course Phase) : Prop where
  now : ∀ i, (c (i + 1)).now = (c i).now + (ticks i).passed
  ask : ∀ {i a}, (c i).phase = r.asking a → (ticks i).shutdown = false →
    c (i + 1) = (c i).next (r.awaiting a (c (i + 1)).now) (c (i + 1)).now [r.call]
  stay : ∀ {i a since}, (c i).phase = r.awaiting a since → (ticks i).shutdown = false →
    (ticks i).replied = false → c (i + 1) = (c i).next (r.awaiting a since) (c (i + 1)).now []
  miss : ∀ {i n}, r.Awaiting n (c i) → (ticks i).shutdown = false → (ticks i).replied = true →
    r.misses n → c (i + 1) = (c i).next
      (if r.skipped (r.interval (n + 1)) then r.asking (Fetch.nextAttempt (attempt (n + 1)))
        else r.backingOff (attempt (n + 1)) (r.timer.due (c (i + 1)).now (r.interval (n + 1))))
      (c (i + 1)).now [r.answered n, .waiting (r.interval (n + 1))]
  wait : ∀ {i a due}, (c i).phase = r.backingOff a due → (ticks i).shutdown = false →
    ¬ due ≤ (c (i + 1)).now → c (i + 1) = (c i).next (r.backingOff a due) (c (i + 1)).now []
  resume : ∀ {i a due}, (c i).phase = r.backingOff a due → (ticks i).shutdown = false →
    due ≤ (c (i + 1)).now →
    c (i + 1) = (c i).next (r.asking (Fetch.nextAttempt a)) (c (i + 1)).now []

variable {r} {n : Nat} {tail : List Event} {c : Course Phase}

theorem Done.append {events : List Event} {phase : Phase} {now : Nat} (h : r.Done n tail c)
    (past : c.Rested r.timer now)
    (inner : (events.map (Prod.mk now)).IsChain (Spaced r.timer)) :
    r.Done n (tail ++ events) (c.next phase now events) := by
  refine ⟨h.missed, ?_, Course.spaced_next h.spaced past inner⟩
  rw [Course.events_next, h.events, List.append_assoc]

/-- A step without an event changes nothing in what is done. -/
theorem Done.same (h : r.Done n tail c) (phase : Phase) (now : Nat) :
    r.Done n tail (c.next phase now []) := by
  refine ⟨h.missed, ?_, ?_⟩
  · rw [Course.events_next, List.append_nil, h.events]
  · rw [Course.trace_next_nil]
    exact h.spaced

/-- A call that missed completes its round. -/
theorem Done.round (h : r.Done n (r.round n) c) (missed : r.misses n) :
    r.Done (n + 1) [] c := by
  refine ⟨?_, ?_, h.spaced⟩
  · intro k hk
    rcases Nat.lt_succ_iff_lt_or_eq.1 hk with hk | rfl
    · exact h.missed k hk
    · exact missed
  · rw [rounds_succ, List.append_nil]
    exact h.events

theorem Done.waited (h : r.Done n tail c) : c.waited =
    ((List.range n).map fun k => r.interval (k + 1)) ++ tail.flatMap Event.waits := by
  rw [Course.waited, h.events, List.flatMap_append, waits_rounds]

/-- A call is no wait. -/
theorem Awaiting.rested (h : r.Awaiting n c) (now : Nat) : c.Rested r.timer now :=
  Course.rested_of_events h.events r.call_quiet now

theorem asking_start : r.Asking 0 (.start (r.asking (attempt 1))) := by
  refine ⟨⟨?_, rfl, List.isChain_nil⟩, rfl, ?_⟩
  · intro k hk
    exact absurd hk (Nat.not_lt_zero k)
  · intro t wait last
    cases last

/-- The phase tells that it backs off, if no other phase is like that. -/
theorem Stands.backingOff_of_phase {a : UInt32} {due : Nat} (h : r.Stands n c)
    (phase : c.phase = r.backingOff a due) (asks : ∀ b, r.asking b ≠ r.backingOff a due)
    (awaits : ∀ b since, r.awaiting b since ≠ r.backingOff a due)
    (own : ∀ b later, r.backingOff b later = r.backingOff a due → b = a ∧ later = due) :
    a = attempt n ∧ r.BackingOff n due c := by
  cases h with
  | asking h => exact absurd (h.phase.symm.trans phase) (asks _)
  | awaiting h =>
    obtain ⟨since, awaiting⟩ := h.phase
    exact absurd (awaiting.symm.trans phase) (awaits _ since)
  | backingOff h =>
    obtain ⟨same, rfl⟩ := own _ _ (h.phase.symm.trans phase)
    exact ⟨same.symm, h⟩

section Follows
variable {ticks : Nat → Tick} {c : Nat → Course Phase} {i : Nat} (follows : r.Follows ticks c)
include follows

theorem Asking.ask (h : r.Asking n (c i)) (running : (ticks i).shutdown = false) :
    r.Awaiting n (c (i + 1)) := by
  have later : (c i).now ≤ (c (i + 1)).now := by
    rw [follows.now]
    exact Nat.le_add_right _ _
  rw [follows.ask h.phase running]
  exact ⟨h.toDone.append (h.rested.mono later) (List.isChain_singleton _), _, rfl⟩

theorem Awaiting.stay (h : r.Awaiting n (c i)) (running : (ticks i).shutdown = false)
    (unheard : (ticks i).replied = false) : r.Awaiting n (c (i + 1)) := by
  obtain ⟨since, phase⟩ := h.phase
  rw [follows.stay phase running unheard]
  exact ⟨h.toDone.same _ _, since, rfl⟩

/-- After a call that missed there is a wait, or it calls next if the wait is left out. -/
theorem Awaiting.miss (h : r.Awaiting n (c i)) (running : (ticks i).shutdown = false)
    (replied : (ticks i).replied = true) (missed : r.misses n) :
    r.Asking (n + 1) (c (i + 1)) ∨ ∃ due, r.BackingOff (n + 1) due (c (i + 1)) := by
  have step := follows.miss h running replied missed
  have done : r.Done (n + 1) [] (c (i + 1)) := by
    rw [step]
    refine Done.round (h.toDone.append (h.rested _) ?_) missed
    refine List.isChain_cons_cons.2 ⟨?_, List.isChain_singleton _⟩
    intro wait answered
    exact absurd answered (r.answered_quiet n wait)
  have last : (c (i + 1)).trace.getLast? =
      some ((c (i + 1)).now, .waiting (r.interval (n + 1))) := by
    rw [step, Course.next, List.getLast?_append]
    rfl
  cases skipped : r.skipped (r.interval (n + 1)) with
  | true =>
    refine .inl ⟨done, ?_, ?_⟩
    · rw [step, Course.next, skipped, if_pos rfl, nextAttempt_attempt]
    · intro t wait seen _
      rw [last] at seen
      cases seen
      rw [r.skipped_zero skipped]
      exact Duration.passed_zero (Nat.le_refl _)
  | false =>
    refine .inr ⟨r.timer.due (c (i + 1)).now (r.interval (n + 1)), done, ?_, skipped, _, last, rfl⟩
    rw [step, Course.next, skipped]
    rfl

theorem BackingOff.wait {due : Nat} (h : r.BackingOff n due (c i))
    (running : (ticks i).shutdown = false) (early : ¬ due ≤ (c (i + 1)).now) :
    r.BackingOff n due (c (i + 1)) := by
  rw [follows.wait h.phase running early]
  refine ⟨h.toDone.same _ _, rfl, h.unskipped, ?_⟩
  rw [Course.trace_next_nil]
  exact h.last

theorem BackingOff.resume {due : Nat} (h : r.BackingOff n due (c i))
    (running : (ticks i).shutdown = false) (past : due ≤ (c (i + 1)).now) :
    r.Asking n (c (i + 1)) := by
  have step := follows.resume h.phase running past
  refine ⟨?_, ?_, ?_⟩
  · rw [step]
    exact h.toDone.same _ _
  · rw [step, Course.next, nextAttempt_attempt]
  · intro t wait last keeps
    obtain ⟨t', last', rfl⟩ := h.last
    rw [step, Course.trace_next_nil, last'] at last
    cases last
    exact (keeps _).1 past

/-- A wait lasts until its timer is due. -/
theorem Follows.timed {a : UInt32} {due : Nat} (phase : (c i).phase = r.backingOff a due)
    (running : (ticks i).shutdown = false) :
    (c (i + 1)).phase =
      if due ≤ (c (i + 1)).now then r.asking (Fetch.nextAttempt a) else r.backingOff a due := by
  split
  case isTrue past =>
    rw [follows.resume phase running past]
    rfl
  case isFalse early =>
    rw [follows.wait phase running early]
    rfl

/-- With a timer that keeps time, that is the first step by which the wait has passed. -/
theorem BackingOff.lasts {due t : Nat} (h : r.BackingOff n due (c i))
    (running : (ticks i).shutdown = false)
    (last : (c i).trace.getLast? = some (t, .waiting (r.interval n)))
    (keeps : r.timer.Keeps t (r.interval n)) :
    (c (i + 1)).phase = if (r.interval n).Passed t (c (i + 1)).now then
        r.asking (Fetch.nextAttempt (attempt n))
      else r.backingOff (attempt n) due := by
  obtain ⟨t', last', rfl⟩ := h.last
  rw [last] at last'
  cases last'
  rw [follows.timed h.phase running]
  exact if_congr (keeps _) rfl rfl

/-- A step before a shutdown makes no difference but for an answer that does not miss. -/
theorem Stands.step (h : r.Stands n (c i)) (running : (ticks i).shutdown = false) :
    (∃ m, r.Stands m (c (i + 1))) ∨
      r.Awaiting n (c i) ∧ (ticks i).replied = true ∧ ¬ r.misses n := by
  cases h with
  | asking h => exact .inl ⟨n, .awaiting (h.ask follows running)⟩
  | backingOff h =>
    rcases Nat.lt_or_ge (c (i + 1)).now _ with early | past
    · exact .inl ⟨n, .backingOff (h.wait follows running (Nat.not_le_of_lt early))⟩
    · exact .inl ⟨n, .asking (h.resume follows running past)⟩
  | awaiting h =>
    cases replied : (ticks i).replied with
    | false => exact .inl ⟨n, .awaiting (h.stay follows running replied)⟩
    | true =>
      by_cases missed : r.misses n
      · rcases h.miss follows running replied missed with asking | ⟨due, waiting⟩
        · exact .inl ⟨n + 1, .asking asking⟩
        · exact .inl ⟨n + 1, .backingOff waiting⟩
      · exact .inr ⟨h, rfl, missed⟩

theorem Follows.monotone_now : Monotone fun i => (c i).now := by
  apply monotone_nat_of_le_succ
  intro i
  rw [follows.now]
  exact Nat.le_add_right _ _

/-- Every moment passes. -/
theorem Follows.reaches (fair : Fair ticks) (i moment : Nat) :
    ∃ j, i ≤ j ∧ moment ≤ (c (j + 1)).now := by
  induction moment with
  | zero => exact ⟨i, Nat.le_refl i, Nat.zero_le _⟩
  | succ moment ih =>
    obtain ⟨j, hij, hj⟩ := ih
    obtain ⟨k, hjk, passed⟩ := fair.passing (j + 1)
    have mono : (c (j + 1)).now ≤ (c k).now := follows.monotone_now hjk
    refine ⟨k, by omega, ?_⟩
    rw [follows.now]
    omega

section Undisturbed
variable (calm : ∀ i n, r.Stands n (c i) → (ticks i).shutdown = false) (fair : Fair ticks)
include calm fair

/-- A wait comes to its end. -/
theorem BackingOff.calls {due : Nat} (h : r.BackingOff n due (c i)) :
    ∃ j, r.Awaiting n (c j) := by
  obtain ⟨j, later, past⟩ := follows.reaches fair i due
  obtain ⟨k, waiting, past⟩ := exists_until (P := fun k => r.BackingOff n due (c k))
    (R := fun k => due ≤ (c (k + 1)).now) h
    (fun k hk early => hk.wait follows (calm k n (.backingOff hk)) early) later past
  have asking : r.Asking n (c (k + 1)) :=
    waiting.resume follows (calm k n (.backingOff waiting)) past
  exact ⟨k + 2, asking.ask follows (calm (k + 1) n (.asking asking))⟩

/-- A call is answered. -/
theorem Awaiting.hears (h : r.Awaiting n (c i)) :
    ∃ j, r.Awaiting n (c j) ∧ (ticks j).shutdown = false ∧ (ticks j).replied = true := by
  obtain ⟨j, later, replied⟩ := fair.replying i
  obtain ⟨k, awaiting, replied⟩ := exists_until
    (P := fun k => r.Awaiting n (c k)) (R := fun k => (ticks k).replied = true) h
    (fun k hk unheard =>
      hk.stay follows (calm k n (.awaiting hk)) (eq_false_of_ne_true unheard)) later replied
  exact ⟨k, awaiting, calm k n (.awaiting awaiting), replied⟩

/-- Every call comes that only misses come before, and it is answered. By induction on how many of
them are still to come. -/
theorem Awaiting.reaches {total : Nat} (missed : ∀ k < total, r.misses k)
    (h : r.Awaiting n (c i)) {left : Nat} (count : n + left = total) :
    ∃ j, r.Awaiting total (c j) ∧ (ticks j).shutdown = false ∧ (ticks j).replied = true := by
  induction left generalizing n i with
  | zero =>
    obtain rfl : n = total := count
    exact h.hears follows calm fair
  | succ left ih =>
    obtain ⟨j, awaiting, running, replied⟩ := h.hears follows calm fair
    have again : ∃ k, r.Awaiting (n + 1) (c k) := by
      rcases awaiting.miss follows running replied (missed n (by omega)) with
        asking | ⟨due, waiting⟩
      · exact ⟨j + 2, asking.ask follows (calm (j + 1) (n + 1) (.asking asking))⟩
      · exact waiting.calls follows calm fair
    obtain ⟨k, awaiting⟩ := again
    exact ih awaiting (by omega)

end Undisturbed
end Follows
end Retrying
end FeedIngest
