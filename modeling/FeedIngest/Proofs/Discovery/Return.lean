import FeedIngest.Proofs.Discovery.Reading

/-! What comes of discovery. It begins with the first maximum that a reading brings, and has done
nothing else before. A shutdown before that, one after that, and an identifier that is refused are
the three ways it ends, and each has its own result. -/

namespace FeedIngest.Discovery.Watch

variable {w : Watch} {ticks : Nat → Tick} {channels : Nat → Channel} {i j n : Nat} {max : ItemId}

/-- No shutdown is seen before there is a maximum. -/
def Undisturbed (w : Watch) (ticks : Nat → Tick) (channels : Nat → Channel) : Prop :=
  ∀ i, (w.course ticks channels i).phase.isStarting = true → (ticks i).shutdown = false

theorem begin (h : w.readings.Awaiting n (w.course ticks channels i))
    (running : (ticks i).shutdown = false) (replied : (ticks i).replied = true)
    (read : w.replies n = .ok max) : w.Begun n max (w.course ticks channels (i + 1)) := by
  obtain ⟨since, phase⟩ := h.phase
  have step : w.course ticks channels (i + 1) = (w.course ticks channels i).next (.reporting ⟨max⟩)
      ((w.course ticks channels i).now + (ticks i).passed)
      [.maximumAnswered (.ok max), .measured (.watermark max)] := by
    apply course_succ
    rw [turn, phase, running, answer_eq h replied, read]
    rfl
  rw [step]
  refine ⟨h.toDone.append (h.rested _) ?_, rfl, read⟩
  refine List.isChain_cons_cons.2 ⟨?_, List.isChain_singleton _⟩
  rintro wait ⟨⟩

/-- What has begun does not start anew. -/
theorem isStarting_of_turn {c : Course Phase} {t : Tick} {channel : Channel}
    (h : (w.turn c t channel).phase.isStarting = true) : c.phase.isStarting = true := by
  have move : Move w.loops (c.now + t.passed) t.shutdown (w.answer c t) channel c.phase
      (w.turn c t channel) := poll_move c.phase
  generalize w.turn c t channel = s at move h
  generalize c.phase = phase at move
  cases move with
  | rest => exact h
  | ask | retry | again | learn => rfl
  | _ => cases h

/-- Until there is a maximum, only readings have been made. By induction on the steps. -/
theorem exists_stands (h : (w.course ticks channels i).phase.isStarting = true) :
    ∃ n, w.readings.Stands n (w.course ticks channels i) := by
  induction i with
  | zero => exact ⟨0, .asking Retrying.asking_start⟩
  | succ i ih =>
    have early := isStarting_of_turn h
    obtain ⟨n, stands⟩ := ih early
    cases shutdown : (ticks i).shutdown with
    | true =>
      rw [course_succ (turn_decline early shutdown)] at h
      cases h
    | false =>
      rcases stands.step (w.follows ticks channels) shutdown with more | ⟨awaiting, replied, brings⟩
      · exact more
      · obtain ⟨max, read⟩ := ok_of_not_failed brings
        rw [(begin awaiting shutdown replied read).phase] at h
        cases h

theorem backingOff_of_phase {a : UInt32} {due : Nat}
    (h : (w.course ticks channels i).phase = .backingOff a due) :
    ∃ n, a = attempt n ∧ w.readings.BackingOff n due (w.course ticks channels i) := by
  obtain ⟨n, stands⟩ := exists_stands (show _ = true by rw [h]; rfl)
  refine ⟨n, stands.backingOff_of_phase h ?_ ?_ ?_⟩
  · rintro b ⟨⟩
  · rintro b since ⟨⟩
  · rintro b later ⟨⟩
    exact ⟨rfl, rfl⟩

/-- The step that is the last of the start has a shutdown or brings the maximum. -/
theorem begun_of_leaves (early : (w.course ticks channels i).phase.isStarting = true)
    (later : (w.course ticks channels (i + 1)).phase.isStarting = false)
    (running : (ticks i).shutdown = false) :
    ∃ n max, w.Begun n max (w.course ticks channels (i + 1)) := by
  obtain ⟨n, stands⟩ := exists_stands early
  rcases stands.step (w.follows ticks channels) running with ⟨m, more⟩ | ⟨awaiting, replied, brings⟩
  · rw [isStarting_of_stands more] at later
    cases later
  · obtain ⟨max, read⟩ := ok_of_not_failed brings
    exact ⟨n, max, begin awaiting running replied read⟩

theorem Begun.firstRead {c : Course Phase} (h : w.Begun n max c) : w.FirstRead n max :=
  ⟨h.missed, h.read⟩

theorem Begun.waited {c : Course Phase} (h : w.Begun n max c) :
    c.waited = (List.range n).map fun k => w.loops.policy.interval (attempt (k + 1)) := by
  rw [h.toDone.waited]
  exact List.append_nil _

/-- The first maximum that a reading brings is what discovery begins with. -/
theorem FirstRead.begins (first : w.FirstRead n max) (calm : w.Undisturbed ticks channels)
    (fair : Fair ticks) : ∃ i, (w.course ticks channels i).phase.isStarting = true ∧
      w.Begun n max (w.course ticks channels (i + 1)) := by
  have quiet : ∀ i n, w.readings.Stands n (w.course ticks channels i) →
      (ticks i).shutdown = false := fun i n h => calm i (isStarting_of_stands h)
  have asking : w.readings.Asking 0 (w.course ticks channels 0) := Retrying.asking_start
  have awaiting : w.readings.Awaiting 0 (w.course ticks channels 1) :=
    asking.ask (w.follows ticks channels) (quiet 0 0 (.asking asking))
  obtain ⟨j, awaiting, running, replied⟩ :=
    awaiting.reaches (w.follows ticks channels) quiet fair first.failed (Nat.zero_add n)
  exact ⟨j, isStarting_of_stands (.awaiting awaiting), begin awaiting running replied first.read⟩

/-- What is over stays as it is. -/
theorem course_over (h : (w.course ticks channels i).phase.isOver = true) (later : i ≤ j) :
    (w.course ticks channels j).phase = (w.course ticks channels i).phase ∧
      (w.course ticks channels j).trace = (w.course ticks channels i).trace := by
  induction j, later using Nat.le_induction with
  | base => exact ⟨rfl, rfl⟩
  | succ j _ ih =>
    rw [course_succ (turn_over (ih.1 ▸ h)), Course.trace_next_nil]
    exact ih

theorem ended_iff {error : Option DiscoveryError} :
    (w.course ticks channels i).phase = .ended error ↔
      ∃ j < i, Cause (w.course ticks channels j) (ticks j) (channels j) error := by
  constructor
  · intro h
    induction i with
    | zero => cases h
    | succ i ih =>
      cases ended : (w.course ticks channels i).phase.isOver with
      | true =>
        rw [(course_over ended (Nat.le_succ i)).1] at h
        obtain ⟨j, hj, cause⟩ := ih h
        exact ⟨j, Nat.lt_succ_of_lt hj, cause⟩
      | false => exact ⟨i, Nat.lt_succ_self i, (turn_ended_iff ended).1 h⟩
  · rintro ⟨j, hj, cause⟩
    have ended : (w.course ticks channels (j + 1)).phase = .ended error :=
      (turn_ended_iff (isOver_of_cause cause)).2 cause
    rw [(course_over (by rw [ended]; rfl) hj).1, ended]

/-- What comes of discovery, whatever its steps find. -/
structure Returns (w : Watch) (ticks : Nat → Tick) (channels : Nat → Channel) : Prop where
  /-- Until it has a maximum, it has read in vain so many times, with the wait that is due after
  each, and has done nothing else. No call comes before the wait ahead of it has passed. -/
  reads : ∀ {i}, (w.course ticks channels i).phase.isStarting = true →
    ∃ n part, (∀ k < n, Failed (w.replies k)) ∧
      (w.course ticks channels i).events = w.readings.rounds n ++ part ∧
      part <+: [.maximumCalled] ∧
      (w.course ticks channels i).trace.IsChain (Spaced w.loops.timer)
  /-- A wait lasts until its timer is due or a shutdown is seen. -/
  waits : ∀ {i a due}, (w.course ticks channels i).phase = .backingOff a due →
    (∃ t, (w.course ticks channels i).trace.getLast? =
        some (t, .waiting (w.loops.policy.interval a)) ∧
      due = w.loops.timer.due t (w.loops.policy.interval a)) ∧
    ((ticks i).shutdown = false → (w.course ticks channels (i + 1)).phase =
      if due ≤ (w.course ticks channels (i + 1)).now then .asking (Fetch.nextAttempt a)
      else .backingOff a due)
  /-- With a timer that keeps time, that is the first step by which the interval has passed since
  the wait began. -/
  lasts : ∀ {i a due t}, (w.course ticks channels i).phase = .backingOff a due →
    (w.course ticks channels i).trace.getLast? =
      some (t, .waiting (w.loops.policy.interval a)) →
    w.loops.timer.Keeps t (w.loops.policy.interval a) → (ticks i).shutdown = false →
    (w.course ticks channels (i + 1)).phase =
      if (w.loops.policy.interval a).Passed t (w.course ticks channels (i + 1)).now then
        .asking (Fetch.nextAttempt a)
      else .backingOff a due
  /-- The next call is made in the step after, unless a shutdown is seen. -/
  calls : ∀ {i a}, (w.course ticks channels i).phase = .asking a → (ticks i).shutdown = false →
    w.course ticks channels (i + 1) = (w.course ticks channels i).next
      (.awaiting a (w.course ticks channels (i + 1)).now) (w.course ticks channels (i + 1)).now
      [.maximumCalled]
  /-- If it gets no further than that, there was a shutdown. Otherwise it goes on with the first
  maximum that was read. -/
  begins : ∀ {i}, (w.course ticks channels i).phase.isStarting = true →
    (w.course ticks channels (i + 1)).phase.isStarting = false → (ticks i).shutdown = false →
    ∃ n max, w.FirstRead n max ∧ (w.course ticks channels (i + 1)).phase = .reporting ⟨max⟩ ∧
      (w.course ticks channels (i + 1)).events = w.readings.rounds n ++
        [.maximumCalled, .maximumAnswered (.ok max), .measured (.watermark max)] ∧
      (w.course ticks channels (i + 1)).waited =
        (List.range n).map (fun k => w.loops.policy.interval (attempt (k + 1))) ∧
      (w.course ticks channels (i + 1)).trace.IsChain (Spaced w.loops.timer)
  /-- It does begin, if time goes on and it is answered and sees no shutdown before. -/
  finds : ∀ {n max}, w.FirstRead n max → w.Undisturbed ticks channels → Fair ticks →
    ∃ i, (w.course ticks channels i).phase.isStarting = true ∧
      (w.course ticks channels (i + 1)).phase = .reporting ⟨max⟩
  /-- Where nothing is announced, the channel is left alone and makes no difference. -/
  quiet : ∀ {i}, (w.course ticks channels i).phase.hasNext = false →
    (∀ other, (w.turn (w.course ticks channels i) (ticks i) other).phase =
        (w.course ticks channels (i + 1)).phase ∧
      (w.turn (w.course ticks channels i) (ticks i) other).events =
        (w.turn (w.course ticks channels i) (ticks i) (channels i)).events) ∧
    ((w.course ticks channels (i + 1)).phase.isOver = false →
      (w.turn (w.course ticks channels i) (ticks i) (channels i)).channel = channels i)
  /-- A shutdown before the first step leaves nothing to be done. -/
  uncalled : (ticks 0).shutdown = true → ∀ i, 0 < i →
    (w.course ticks channels i).events = [.discoveryEnded (some .cancelledBeforeStart)]
  /-- It is cancelled before its start where a shutdown is seen before there is a maximum. -/
  declined : ∀ {i}, (w.course ticks channels i).phase = .ended (some .cancelledBeforeStart) ↔
    ∃ j < i, (w.course ticks channels j).phase.isStarting = true ∧ (ticks j).shutdown = true
  /-- It fails where it has something to announce and the channel is closed, but for a shutdown. -/
  refused : ∀ {i}, (w.course ticks channels i).phase = .ended (some .channelClosed) ↔
    ∃ j < i, (w.course ticks channels j).phase.hasNext = true ∧ (ticks j).shutdown = false ∧
      (channels j).closed = true
  /-- It ends well where it has its maximum and sees a shutdown. -/
  stopped : ∀ {i}, (w.course ticks channels i).phase = .ended none ↔
    ∃ j < i, (w.course ticks channels j).phase.heeds = true ∧ (ticks j).shutdown = true

theorem returns_by_cause (w : Watch) (ticks : Nat → Tick) (channels : Nat → Channel) :
    w.Returns ticks channels := by
  refine ⟨?reads, ?waits, ?lasts, (w.follows ticks channels).ask, ?begins, ?finds, ?quiet,
    ?uncalled, ?declined, ?refused, ?stopped⟩
  case reads =>
    intro i early
    obtain ⟨n, stands⟩ := exists_stands early
    cases stands with
    | asking h | backingOff h => exact ⟨n, [], h.missed, h.events, List.nil_prefix, h.spaced⟩
    | awaiting h => exact ⟨n, _, h.missed, h.events, List.prefix_refl _, h.spaced⟩
  case waits =>
    intro i a due phase
    obtain ⟨n, rfl, waiting⟩ := backingOff_of_phase phase
    exact ⟨waiting.last, (w.follows ticks channels).timed phase⟩
  case lasts =>
    intro i a due t phase last keeps running
    obtain ⟨n, rfl, waiting⟩ := backingOff_of_phase phase
    exact waiting.lasts (w.follows ticks channels) running last keeps
  case begins =>
    intro i early later running
    obtain ⟨n, max, begun⟩ := begun_of_leaves early later running
    exact ⟨n, max, begun.firstRead, begun.phase, begun.events, begun.waited, begun.spaced⟩
  case finds =>
    intro n max first calm fair
    obtain ⟨i, early, begun⟩ := first.begins calm fair
    exact ⟨i, early, begun.phase⟩
  case quiet =>
    intro i hn
    exact ⟨fun other => turn_quiet hn (channels i), channel_turn hn⟩
  case uncalled =>
    intro late i later
    have step : w.course ticks channels 1 =
        (w.course ticks channels 0).next (.ended (some .cancelledBeforeStart))
          ((w.course ticks channels 0).now + (ticks 0).passed)
          [.discoveryEnded (some .cancelledBeforeStart)] :=
      course_succ (turn_decline rfl late)
    have ended : (w.course ticks channels 1).phase.isOver = true := by rw [step]; rfl
    rw [Course.events, (course_over ended later).2, step]
    rfl
  case declined | refused | stopped =>
    intro i
    rw [ended_iff]
    rfl

/-- Two readings fail, and a step is taken every other millisecond. -/
theorem returns_by_cause_third :
    let w : Watch := ⟨{ Loops.sample with policy := ⟨2, .ofMillis 3, none⟩ },
      fun k => if k < 2 then .error .timeout else .ok ⟨9⟩⟩
    let ticks : Nat → Tick := fun _ => ⟨2, false, true⟩
    let channels : Nat → Channel := fun _ => .empty 1
    w.Returns ticks channels ∧ w.FirstRead 2 ⟨9⟩ ∧ w.Undisturbed ticks channels ∧ Fair ticks ∧
      w.loops.timer.Keeps 4 (.ofMillis 3) ∧ w.loops.timer.Keeps 12 (.ofMillis 6) ∧
      (w.course ticks channels 11).phase = .reporting ⟨⟨9⟩⟩ ∧
      (w.course ticks channels 11).trace =
        [(2, .maximumCalled), (4, .maximumAnswered (.error .timeout)), (4, .waiting (.ofMillis 3)),
          (10, .maximumCalled), (12, .maximumAnswered (.error .timeout)),
          (12, .waiting (.ofMillis 6)), (20, .maximumCalled), (22, .maximumAnswered (.ok ⟨9⟩)),
          (22, .measured (.watermark ⟨9⟩))] := by
  refine ⟨returns_by_cause _ _ _, ⟨?_, rfl⟩, fun _ _ => rfl, ?_, Timer.wheel_keeps (by decide),
    Timer.wheel_keeps (by decide), rfl, rfl⟩
  · intro k hk
    exact ⟨.timeout, if_pos hk⟩
  · exact ⟨fun i => ⟨i, Nat.le_refl i, by decide⟩, fun i => ⟨i, Nat.le_refl i, rfl⟩⟩

end FeedIngest.Discovery.Watch
