import FeedIngest.Proofs.Backpressure
import FeedIngest.Proofs.Discovery.Moves
import FeedIngest.Proofs.Retrying

/-! The first reading of the maximum, and how discovery ends. Until it has a maximum, what
discovery has done is a number of rounds, each a reading that failed and the wait after it, and then
the reading under way. Each way to end has its own cause, and a closed channel is none as long as
there is nothing to announce. -/

namespace FeedIngest.Discovery

/-- What the loops are set to, and what the feed answers when it is asked for its maximum, time
after time. -/
structure Watch where
  loops : Loops
  replies : Nat → Except FeedError ItemId

/-- A reply that is no maximum. -/
def Failed (reply : Except FeedError ItemId) : Prop := ∃ e, reply = .error e

theorem ok_of_not_failed {reply : Except FeedError ItemId} (h : ¬ Failed reply) :
    ∃ max, reply = .ok max := by
  cases reply with
  | ok max => exact ⟨max, rfl⟩
  | error e => exact absurd ⟨e, rfl⟩ h

/-- The answers in a course. -/
def heard (c : Course Phase) : List (Except FeedError ItemId) := c.events.flatMap Event.answers

namespace Phase

/-- A shutdown is seen where there is something to wait for. -/
def heeds : Phase → Bool
  | polling _ | awaitingPoll _ _ | pausing _ _ => true
  | phase => phase.hasNext

theorem heeds_of_hasNext {phase : Phase} (h : phase.hasNext = true) : phase.heeds = true := by
  cases phase with
  | announcing => exact h
  | _ => cases h

theorem isOver_of_heeds {phase : Phase} (h : phase.heeds = true) : phase.isOver = false := by
  cases phase with
  | ended | crashed => cases h
  | _ => rfl

theorem isOver_of_isStarting {phase : Phase} (h : phase.isStarting = true) :
    phase.isOver = false := by
  cases phase with
  | asking | awaiting | backingOff => rfl
  | _ => cases h

end Phase

namespace Watch

variable (w : Watch)

/-- The answer to the call under way, if there is one: the next of the replies. -/
def answer (c : Course Phase) (t : Tick) : Option (Answer ItemId) :=
  if t.replied then some (.ok (w.replies (heard c).length)) else none

/-- What discovery does in a step, with the channel as it then is. -/
def turn (c : Course Phase) (t : Tick) (channel : Channel) : Step :=
  poll w.loops (c.now + t.passed) t.shutdown (w.answer c t) channel c.phase

/-- How discovery stands after so many steps. -/
def course (ticks : Nat → Tick) (channels : Nat → Channel) : Nat → Course Phase
  | 0 => .start Discovery.start
  | i + 1 =>
    let c := course ticks channels i
    let s := w.turn c (ticks i) (channels i)
    c.next s.phase (c.now + (ticks i).passed) s.events

/-- Its first readings. -/
def readings : Retrying Phase where
  timer := w.loops.timer
  policy := w.loops.policy
  call := .maximumCalled
  answered k := .maximumAnswered (w.replies k)
  misses k := Failed (w.replies k)
  skipped _ := false
  asking := .asking
  awaiting := .awaiting
  backingOff := .backingOff
  call_quiet _ h := by cases h
  answered_quiet _ _ h := by cases h
  skipped_zero h := by cases h

/-- Reading number so many is the first that does not fail. -/
structure FirstRead (n : Nat) (max : ItemId) : Prop where
  failed : ∀ k < n, Failed (w.replies k)
  read : w.replies n = .ok max

/-- Discovery has its first maximum, and has done nothing but read it. -/
structure Begun (n : Nat) (max : ItemId) (c : Course Phase) : Prop extends
    w.readings.Done n [.maximumCalled, .maximumAnswered (.ok max), .measured (.watermark max)] c
    where
  phase : c.phase = .reporting ⟨max⟩
  read : w.replies n = .ok max

variable {w} {ticks : Nat → Tick} {channels : Nat → Channel} {c : Course Phase} {t : Tick}
  {channel : Channel} {i j n : Nat} {max : ItemId}

theorem course_succ {phase : Phase} {events : List Event}
    (h : w.turn (w.course ticks channels i) (ticks i) (channels i) = ⟨phase, channel, events⟩) :
    w.course ticks channels (i + 1) = (w.course ticks channels i).next phase
      ((w.course ticks channels i).now + (ticks i).passed) events := by
  rw [course, h]

/-- The call is answered with the reply that has not been heard. -/
theorem answer_eq (h : w.readings.Awaiting n c) (replied : t.replied = true) :
    w.answer c t = some (.ok (w.replies n)) := by
  have count : (heard c).length = n := by
    rw [heard, h.events, List.flatMap_append,
      w.readings.flatMap_rounds (f := w.replies) (fun _ => rfl), List.length_append,
      List.length_map, List.length_range]
    rfl
  rw [answer, if_pos replied, count]

theorem follows (w : Watch) (ticks : Nat → Tick) (channels : Nat → Channel) :
    w.readings.Follows ticks (w.course ticks channels) := by
  refine ⟨fun _ => rfl, ?ask, ?stay, ?miss, ?wait, ?resume⟩
  case ask =>
    intro i a phase running
    exact course_succ (by rw [turn, phase, running]; rfl)
  case stay =>
    intro i a since phase running unheard
    exact course_succ (by rw [turn, phase, running, answer, unheard]; rfl)
  case miss =>
    intro i n awaiting running replied failed
    obtain ⟨since, phase⟩ := awaiting.phase
    obtain ⟨e, failed⟩ := failed
    apply course_succ
    rw [turn, phase, running, answer_eq awaiting replied]
    dsimp only [readings]
    rw [failed]
    rfl
  case wait =>
    intro i a due phase running early
    exact course_succ (by rw [turn, phase, running]; exact if_neg early)
  case resume =>
    intro i a due phase running past
    exact course_succ (by rw [turn, phase, running]; exact if_pos past)

theorem isStarting_of_stands (h : w.readings.Stands n c) : c.phase.isStarting = true := by
  cases h with
  | asking h => rw [h.phase]; rfl
  | awaiting h => obtain ⟨since, phase⟩ := h.phase; rw [phase]; rfl
  | backingOff h => rw [h.phase]; rfl

/-- A shutdown that is seen before there is a maximum. -/
theorem turn_decline (early : c.phase.isStarting = true) (late : t.shutdown = true) :
    w.turn c t channel = finish channel (some .cancelledBeforeStart) := by
  rw [turn, late]
  cases hc : c.phase with
  | asking | awaiting | backingOff => rfl
  | _ => rw [hc] at early; cases early

theorem turn_stop (heeds : c.phase.heeds = true) (late : t.shutdown = true) :
    w.turn c t channel = finish channel none := by
  rw [turn, late]
  cases hc : c.phase with
  | polling | awaitingPoll | pausing => rfl
  | announcing mark before rest =>
    rw [hc] at heeds
    obtain ⟨next, left⟩ := Option.isSome_iff_exists.1 heeds
    unfold poll announce
    simp only [left, if_true]
  | _ => rw [hc] at heeds; cases heeds

theorem turn_refuse (more : c.phase.hasNext = true) (running : t.shutdown = false)
    (closed : channel.closed = true) :
    w.turn c t channel = finish channel (some .channelClosed) := by
  rw [turn, running]
  cases hc : c.phase with
  | announcing mark before rest =>
    rw [hc] at more
    obtain ⟨next, left⟩ := Option.isSome_iff_exists.1 more
    unfold poll announce
    simp only [left, Bool.false_eq_true, if_false, Channel.offer_of_closed closed]
  | _ => rw [hc] at more; cases more

theorem turn_over (ended : c.phase.isOver = true) : w.turn c t channel = ⟨c.phase, channel, []⟩ := by
  rw [turn]
  cases hc : c.phase with
  | ended | crashed => rfl
  | _ => rw [hc] at ended; cases ended

/-- What is done and where it leads does not depend on the channel where nothing is announced. -/
theorem turn_quiet (quiet : c.phase.hasNext = false) (other : Channel) :
    (w.turn c t channel).phase = (w.turn c t other).phase ∧
      (w.turn c t channel).events = (w.turn c t other).events := by
  unfold turn poll
  cases hc : c.phase with
  | announcing mark before rest =>
    rw [hc] at quiet
    have left : rest.next? = none := Option.not_isSome_iff_eq_none.1 (ne_true_of_eq_false quiet)
    unfold announce
    dsimp only
    rw [left]
    cases discovered? mark before <;> exact ⟨rfl, rfl⟩
  | reporting mark =>
    unfold report
    dsimp only
    cases (w.loops.clock (c.now + t.passed)).add w.loops.deadline <;> exact ⟨rfl, rfl⟩
  | awaiting | awaitingPoll =>
    dsimp only
    cases t.shutdown with
    | true => exact ⟨rfl, rfl⟩
    | false => rcases w.answer c t with - | - | - | - <;> exact ⟨rfl, rfl⟩
  | backingOff _ due | pausing _ due =>
    dsimp only
    cases t.shutdown with
    | true => exact ⟨rfl, rfl⟩
    | false => by_cases past : due ≤ c.now + t.passed <;> simp [past]
  | asking | polling => cases t.shutdown <;> exact ⟨rfl, rfl⟩
  | ended | crashed => exact ⟨rfl, rfl⟩

/-- Nor is the channel touched, as long as discovery goes on. -/
theorem channel_turn (quiet : c.phase.hasNext = false)
    (live : (w.turn c t channel).phase.isOver = false) :
    (w.turn c t channel).channel = channel := by
  have move : Move w.loops (c.now + t.passed) t.shutdown (w.answer c t) channel c.phase
      (w.turn c t channel) := poll_move c.phase
  generalize w.turn c t channel = s at move live
  generalize c.phase = phase at move quiet
  cases move with
  | announce _ left | block _ left =>
    rw [Phase.hasNext, left] at quiet
    cases quiet
  | decline | callFails | stop | reportFails | announceLast | overflow | refuse | underflow =>
    cases live
  | _ => rfl

/-- What makes discovery end so. -/
def Cause (c : Course Phase) (t : Tick) (channel : Channel) : Option DiscoveryError → Prop
  | none => c.phase.heeds = true ∧ t.shutdown = true
  | some .cancelledBeforeStart => c.phase.isStarting = true ∧ t.shutdown = true
  | some .channelClosed => c.phase.hasNext = true ∧ t.shutdown = false ∧ channel.closed = true

theorem isOver_of_cause {error : Option DiscoveryError} (h : Cause c t channel error) :
    c.phase.isOver = false := by
  match error, h with
  | none, h => exact Phase.isOver_of_heeds h.1
  | some .cancelledBeforeStart, h => exact Phase.isOver_of_isStarting h.1
  | some .channelClosed, h => exact Phase.isOver_of_heeds (Phase.heeds_of_hasNext h.1)

/-- Where a shutdown makes it end without an error, it was waiting. -/
theorem heeds_of_stop {mark : Watermark} (late : c.phase.mark? = some mark)
    (h : (w.turn c t channel).phase = .ended none) : c.phase.heeds = true := by
  unfold turn poll at h
  cases hc : c.phase with
  | polling | awaitingPoll | pausing => rfl
  | reporting mark =>
    rw [hc] at h
    unfold report at h
    dsimp only at h
    split at h <;> cases h
  | announcing mark before rest =>
    cases left : rest.next? with
    | some next =>
      show rest.next?.isSome = true
      rw [left]
      rfl
    | none =>
      rw [hc] at h
      unfold announce at h
      simp only [left] at h
      split at h <;> cases h
  | _ => rw [hc] at late; cases late

/-- Each end has its cause, and nothing else makes discovery end. -/
theorem turn_ended_iff {error : Option DiscoveryError} (live : c.phase.isOver = false) :
    (w.turn c t channel).phase = .ended error ↔ Cause c t channel error := by
  constructor
  · intro h
    have move : Move w.loops (c.now + t.passed) t.shutdown (w.answer c t) channel c.phase
        (w.turn c t channel) := poll_move c.phase
    have stopped {mark : Watermark} (late : c.phase.mark? = some mark) :
        (w.turn c t channel).phase = .ended none → c.phase.heeds = true := heeds_of_stop late
    generalize w.turn c t channel = s at move h stopped
    generalize hp : c.phase = phase at move live stopped
    cases move with
    | rest => rw [show phase = .ended error from h] at live; cases live
    | decline early shutdown => cases h; exact ⟨hp ▸ early, shutdown⟩
    | refuse running left closed =>
      cases h
      refine ⟨?_, running, closed⟩
      rw [hp, Phase.hasNext, left]
      rfl
    | stop late shutdown =>
      cases h
      exact ⟨hp ▸ stopped late rfl, shutdown⟩
    | _ => cases h
  · intro h
    match error, h with
    | none, h => rw [turn_stop h.1 h.2]; rfl
    | some .cancelledBeforeStart, h => rw [turn_decline h.1 h.2]; rfl
    | some .channelClosed, h => rw [turn_refuse h.1 h.2.1 h.2.2]; rfl

end Watch
end FeedIngest.Discovery
