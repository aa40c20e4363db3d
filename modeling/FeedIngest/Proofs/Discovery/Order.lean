import FeedIngest.Proofs.Discovery.Announcing
import FeedIngest.Proofs.Moves

/-! What a whole run tells of discovery. Only its own steps tell anything of it, so what its
moves keep holds after any inputs: a receiver at any pace, other senders, a shutdown, or a
channel that is closed. -/

namespace FeedIngest

variable {loops : Loops} {now : Nat} {cancelled : Bool}

theorem Event.ofDiscovery_of_isOf {a : Actor} {e : Event} (h : e.isOf a = true)
    (ha : a ≠ .discovery) : e.ofDiscovery = false := by
  cases a with
  | discovery => exact absurd rfl ha
  | _ => cases e <;> first | rfl | cases h

/-- Every move is one of discovery, or discovery rests and nothing is told of it. -/
theorem Pipeline.Move.discovery_cases {p q : Pipeline} {i : Input} {events : List Event}
    (m : Move loops p i q events) :
    (∃ answer s, Discovery.Move loops p.now p.cancelled answer p.channel p.discovery s ∧
      q.discovery = s.phase ∧ q.channel = s.channel ∧ events = s.events) ∨
    (q.discovery = p.discovery ∧ ∀ e ∈ events, e.ofDiscovery = false) := by
  have silent (ha : i.actor ≠ .discovery) : ∀ e ∈ events, e.ofDiscovery = false :=
    fun e he => Event.ofDiscovery_of_isOf (m.isOf e he) ha
  cases m with
  | discovery task => exact .inl ⟨_, _, task, rfl, rfl, rfl⟩
  | dispatch | unit => exact .inr ⟨rfl, silent (by simp [Input.actor])⟩
  | _ => exact .inr ⟨rfl, by simp [Event.ofDiscovery]⟩

namespace Discovery

/-- What is told of discovery fits its phase after every move of the pipeline. -/
theorem Tracks.step {p q : Pipeline} {i : Pipeline.Input} {es events : List Event}
    (h : Tracks es p.discovery) (m : Pipeline.Move loops p i q events) :
    Tracks (es ++ events) q.discovery := by
  obtain ⟨answer, s, task, hd, -, rfl⟩ | ⟨hd, hs⟩ := m.discovery_cases
  · rw [hd]
    exact h.move task
  · rw [hd]
    exact h.append_silent hs

theorem tracks_run {p : Pipeline} (h : p.discovery = start) (inputs : List Pipeline.Input) :
    Tracks (p.run loops inputs).events (p.run loops inputs).pipeline.discovery := by
  apply Pipeline.run_induction (P := fun q es => Tracks es q.discovery)
  · rw [h]
    exact ⟨rfl, rfl, rfl⟩
  · intro p i q events es _ m ht
    exact ht.step m

section Step
variable {answer : Option (Answer ItemId)} {channel : Channel} {phase : Phase} {s : Step}
  {es tail : List Event}

/-- What discovery announces is what it puts on the channel. -/
theorem Move.buffer_eq (m : Move loops now cancelled answer channel phase s) :
    s.channel.buffer = channel.buffer ++ s.events.flatMap Event.announces := by
  cases m <;> simp [Event.announces, finish, crash, pause]

/-- An answer by itself does nothing to the channel. -/
theorem Move.channel_eq (m : Move loops now cancelled answer channel phase s)
    (ha : s.events.flatMap Event.answers ≠ []) : s.channel = channel := by
  cases m with
  | retry | learn | see | miss => rfl
  | _ => simp [Event.answers, finish, crash, pause] at ha

/-- The latest answer leaves nothing to be announced. -/
def Spent (es : List Event) : Prop :=
  ∀ max, (es.flatMap Event.answers).getLast? = some (.ok max) →
    ∃ mark, es.foldl Event.moveMark none = some mark ∧ max ≤ mark.next

/-- Until the next answer, nothing is told of discovery then. -/
theorem Tracks.silent (h : Tracks es phase) (hl : Spent es)
    (m : Move loops now cancelled answer channel phase s)
    (ha : s.events.flatMap Event.answers = []) : ∀ e ∈ s.events, e.ofDiscovery = false := by
  have left {mark before rest} {next : ItemId × Span}
      (h : Tracks es (.announcing mark before rest)) : rest.next? ≠ some next := by
    intro hn
    obtain ⟨reached, hf, hr, -⟩ := h
    obtain ⟨mark', hm, hle⟩ := hl _ hr
    obtain rfl : mark' = mark := by rw [reached.told] at hm; exact (Option.some.inj hm).symm
    rw [← hf, ← Span.next?_eq_none] at hle
    rw [hle] at hn
    cases hn
  cases m with
  | retry | learn | see | miss => simp [Event.answers, pause] at ha
  | announce _ hn | announceLast _ hn | overflow _ hn => exact absurd hn (left h)
  | _ => simp [Event.ofDiscovery, finish, crash, pause]

theorem Spent.append_silent (h : Spent es) (ht : ∀ e ∈ tail, e.ofDiscovery = false) :
    Spent (es ++ tail) := by
  intro max hm
  rw [List.flatMap_append, answers_of_silent ht, List.append_nil] at hm
  rw [List.foldl_append, moveMark_of_silent ht]
  exact h max hm

end Step

/-- Nothing is told of discovery until the next answer then. -/
theorem silent_run {p : Pipeline} {es : List Event} (hl : Spent es) (ht : Tracks es p.discovery)
    (more : List Pipeline.Input) (ha : (p.run loops more).answers = []) :
    ∀ e ∈ (p.run loops more).events, e.ofDiscovery = false := by
  suffices h : (p.run loops more).answers = [] →
      Tracks (es ++ (p.run loops more).events) (p.run loops more).pipeline.discovery ∧
        ∀ e ∈ (p.run loops more).events, e.ofDiscovery = false from (h ha).2
  apply Pipeline.run_induction (P := fun q tail => tail.flatMap Event.answers = [] →
    Tracks (es ++ tail) q.discovery ∧ ∀ e ∈ tail, e.ofDiscovery = false)
  · intro _
    rw [List.append_nil]
    exact ⟨ht, by simp⟩
  · intro p i q events tail _ m ih ha
    rw [List.flatMap_append, List.append_eq_nil_iff] at ha
    obtain ⟨ht, hs⟩ := ih ha.1
    have silent : ∀ e ∈ events, e.ofDiscovery = false := by
      obtain ⟨answer, s, task, -, -, rfl⟩ | ⟨-, hq⟩ := m.discovery_cases
      · exact ht.silent (hl.append_silent hs) task ha.2
      · exact hq
    constructor
    · rw [← List.append_assoc]
      exact ht.step m
    · intro e he
      exact (List.mem_append.1 he).elim (hs e) (silent e)

/-- The watermark of a poll that has not been answered. -/
def Phase.polled? : Phase → Option Watermark
  | reporting mark | polling mark | awaitingPoll mark _ => some mark
  | _ => none

theorem Tracks.polled {es : List Event} {phase : Phase} {mark : Watermark} (h : Tracks es phase)
    (hm : phase.polled? = some mark) : IsGreatest {m | m ∈ es.flatMap Event.maxima} mark.next := by
  cases phase with
  | reporting _ | polling _ | awaitingPoll _ _ =>
    cases hm
    exact h.2
  | _ => cases hm

/-- What is told of discovery in a run, however it goes on. -/
structure InOrder (loops : Loops) (r : Pipeline.Run) : Prop where
  /-- Without a maximum there is no watermark, and nothing has been announced. -/
  unread : r.maxima = [] → r.mark? = none ∧ r.announced = []
  /-- All from the first maximum up to the watermark has been announced, in order. -/
  announced : ∀ first, r.maxima.head? = some first →
    ∃ mark, r.mark? = some mark ∧ first ≤ mark.next ∧ r.announced.map ItemId.toNat =
      List.range' first.toNat (mark.next.toNat - first.toNat)
  bounded : ∀ mark, r.mark? = some mark → ∃ max ∈ r.maxima, mark.next ≤ max
  /-- The watermark that is told is the one that discovery holds. -/
  held : ∀ mark, r.pipeline.discovery.mark? = some mark → r.mark? = some mark
  /-- A poll begins at the greatest maximum. -/
  greatest : ∀ mark, r.pipeline.discovery.polled? = some mark →
    IsGreatest {max | max ∈ r.maxima} mark.next
  /-- The watermark never moves back. -/
  monotone : ∀ more mark, r.mark? = some mark →
    ∃ later, (r.resume loops more).mark? = some later ∧ mark.next ≤ later.next
  /-- Until the next answer, one that failed or is not above the watermark has no effect. -/
  spent : ∀ more answer, r.answers.getLast? = some answer →
    (∀ max, answer = .ok max → ∃ mark, r.mark? = some mark ∧ max ≤ mark.next) →
    (r.resume loops more).answers = r.answers →
    (r.resume loops more).mark? = r.mark? ∧ (r.resume loops more).announced = r.announced
  /-- A step of discovery puts on the channel what it announces, and nothing with an answer. -/
  channel : ∀ answer, ∃ new,
    (r.step loops (.discovery answer)).announced = r.announced ++ new ∧
    (r.step loops (.discovery answer)).pipeline.channel.buffer =
      r.pipeline.channel.buffer ++ new ∧
    ((r.step loops (.discovery answer)).answers ≠ r.answers →
      (r.step loops (.discovery answer)).pipeline.channel = r.pipeline.channel)

/-- Whatever the feed answers and whatever else happens, discovery announces in order. -/
theorem announces_in_order {p : Pipeline} (h : p.discovery = start)
    (inputs : List Pipeline.Input) : InOrder loops (p.run loops inputs) := by
  have ht : Tracks (p.run loops inputs).events _ := tracks_run h inputs
  constructor
  case unread =>
    intro hm
    rcases ht.told with hu | ⟨mark, hr⟩
    · exact ⟨hu.told, hu.announced⟩
    · obtain ⟨max, hmax, -⟩ := hr.bounded
      rw [Pipeline.Run.maxima, Pipeline.Run.collect] at hm
      rw [hm] at hmax
      cases hmax
  case announced =>
    intro first hf
    rcases ht.told with hu | ⟨mark, hr⟩
    · rw [Pipeline.Run.maxima, Pipeline.Run.collect, hu.maxima] at hf
      cases hf
    · obtain ⟨first', hf', hle, ha⟩ := hr.announced
      obtain rfl : first' = first := Option.some.inj (hf'.symm.trans hf)
      refine ⟨mark, hr.told, hle, ?_⟩
      rw [Pipeline.Run.announced, Pipeline.Run.collect, ha, Span.map_toNat_toList]
      rfl
  case bounded =>
    intro mark hm
    rcases ht.told with hu | ⟨mark', hr⟩
    · cases hu.told.symm.trans hm
    · obtain rfl : mark' = mark := Option.some.inj (hr.told.symm.trans hm)
      exact hr.bounded
  case held =>
    intro mark hm
    exact (ht.reached hm).told
  case greatest =>
    intro mark hm
    exact ht.polled hm
  case monotone =>
    intro more mark hm
    unfold Pipeline.Run.mark?
    rw [Pipeline.events_resume]
    exact moveMark_mono hm _
  case spent =>
    intro more answer hl hs ha
    unfold Pipeline.Run.answers Pipeline.Run.announced Pipeline.Run.mark? Pipeline.Run.collect at *
    rw [Pipeline.events_resume] at ha ⊢
    rw [List.flatMap_append, List.append_right_eq_self] at ha
    have hspent : Spent (p.run loops inputs).events := by
      intro max hmax
      exact hs max (Option.some.inj (hl.symm.trans hmax))
    have silent := silent_run hspent ht more ha
    rw [List.foldl_append, moveMark_of_silent silent, List.flatMap_append,
      announces_of_silent silent, List.append_nil]
    exact ⟨rfl, rfl⟩
  case channel =>
    intro answer
    generalize p.run loops inputs = r
    have task : Move loops r.pipeline.now r.pipeline.cancelled answer r.pipeline.channel
      r.pipeline.discovery _ := poll_move r.pipeline.discovery
    refine ⟨_, Pipeline.Run.collect_step _, task.buffer_eq, ?_⟩
    intro ha
    apply task.channel_eq
    intro hn
    apply ha
    rw [Pipeline.Run.answers, Pipeline.Run.collect_step]
    exact (congrArg _ hn).trans (List.append_nil _)

/-- A feed at 5 that goes on to 8. -/
def sampleInputs : List Pipeline.Input :=
  [.discovery none, .discovery (some (.ok (.ok ⟨5⟩))), .discovery none, .discovery none,
    .discovery (some (.ok (.ok ⟨8⟩))), .discovery none, .discovery none, .discovery none]

/-- On a channel of two places, the third identifier waits. -/
theorem announces_in_order_sample :
    (Pipeline.start 2 1).discovery = start ∧
      InOrder .sample ((Pipeline.start 2 1).run .sample sampleInputs) ∧
      ((Pipeline.start 2 1).run .sample sampleInputs).announced = [⟨5⟩, ⟨6⟩] ∧
      ((Pipeline.start 2 1).run .sample sampleInputs).pipeline.channel.waiting = true :=
  ⟨rfl, announces_in_order rfl sampleInputs, by decide, by decide⟩

end Discovery
end FeedIngest
