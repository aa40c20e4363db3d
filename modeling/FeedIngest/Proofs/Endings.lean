import FeedIngest.Proofs.Backpressure

/-! How the loops end. Discovery ends only after a shutdown was asked for, and then without an
error, or with the one that it had no maximum yet. It never finds the channel closed: the
dispatcher closes it only after a shutdown, which discovery looks for first, or once discovery
is over. With crashes too, the sender goes when discovery ends and not before. -/

namespace FeedIngest

namespace Discovery

variable {loops : Loops} {now : Nat} {cancelled : Bool} {answer : Option (Answer ItemId)}
  {channel : Channel} {phase : Phase} {s : Step} {error : Option DiscoveryError}

/-- How discovery ends at a shutdown, by the maxima it has read. -/
def verdict (maxima : List ItemId) : Option DiscoveryError :=
  if maxima = [] then some .cancelledBeforeStart else none

theorem verdict_eq_some {maxima : List ItemId} :
    verdict maxima = some .cancelledBeforeStart ↔ maxima = [] := by
  simp [verdict]

theorem verdict_eq_none {maxima : List ItemId} : verdict maxima = none ↔ maxima ≠ [] := by
  simp [verdict]

theorem ofDiscovery?_verdict (maxima : List ItemId) :
    WorkerError.ofDiscovery? (verdict maxima) = none := by
  unfold verdict
  split <;> rfl

/-- What ends discovery is a shutdown, or a channel that was closed without one. -/
theorem Move.ended (m : Move loops now cancelled answer channel phase s)
    (h : .discoveryEnded error ∈ s.events) :
    (cancelled = true ∧ (error = some .cancelledBeforeStart ∧ phase.isStarting = true ∨
      error = none ∧ ∃ mark, phase.mark? = some mark)) ∨
    (cancelled = false ∧ channel.closed = true ∧ phase.isOver = false) := by
  cases m with
  | decline early shutdown =>
    obtain rfl : error = some .cancelledBeforeStart := by simpa [finish] using h
    exact .inl ⟨shutdown, .inl ⟨rfl, early⟩⟩
  | @stop _ mark late shutdown =>
    obtain rfl : error = none := by simpa [finish] using h
    exact .inl ⟨shutdown, .inr ⟨rfl, mark, late⟩⟩
  | refuse running _ closed => exact .inr ⟨running, closed, rfl⟩
  | _ => simp [crash, pause] at h

/-- The sender goes when discovery ends. The receiving end is not its to close. -/
theorem Move.sender (m : Move loops now cancelled answer channel phase s)
    (h : channel.senderGone = phase.isOver) :
    s.channel.senderGone = s.phase.isOver ∧ s.channel.closed = channel.closed := by
  cases m with
  | decline | reportFails | callFails | announceLast | overflow | refuse | underflow | stop =>
    exact ⟨rfl, rfl⟩
  | _ => exact ⟨h, rfl⟩

theorem Move.stays_over (m : Move loops now cancelled answer channel phase s)
    (h : phase.isOver = true) : s.phase.isOver = true := by
  cases m with
  | rest => exact h
  | decline | callFails | stop => rfl
  | _ => cases h

/-- Discovery tells of its end in the step that makes it. -/
theorem Move.tells (m : Move loops now cancelled answer channel phase s)
    (h : s.phase = .ended error) : phase = .ended error ∨ .discoveryEnded error ∈ s.events := by
  cases m with
  | rest => exact .inl h
  | decline | refuse | stop =>
    cases h
    exact .inr List.mem_cons_self
  | _ => cases h

/-- After a shutdown no maximum is read. -/
theorem Move.reads_nothing (m : Move loops now true answer channel phase s) :
    s.events.flatMap Event.maxima = [] := by
  cases m with
  | ask running | retry running | learn running | poll running | see running | miss running
  | callFails running | announce running | announceLast running | overflow running => cases running
  | _ => rfl

/-- The maxima that were read fit how discovery ends in a phase. -/
theorem Tracks.verdict_eq {es : List Event} (h : Tracks es phase)
    (he : error = some .cancelledBeforeStart ∧ phase.isStarting = true ∨
      error = none ∧ ∃ mark, phase.mark? = some mark) :
    error = verdict (es.flatMap Event.maxima) := by
  rcases he with ⟨rfl, early⟩ | ⟨rfl, mark, late⟩
  · have unread : Unread es := by
      cases phase with
      | asking _ | awaiting _ _ | backingOff _ _ => exact h
      | _ => cases early
    rw [verdict, if_pos unread.maxima]
  · obtain ⟨max, read, -⟩ := (h.reached late).bounded
    rw [verdict, if_neg (List.ne_nil_of_mem read)]

/-- Two steps after a shutdown are enough to end discovery. -/
theorem over_of_cancelled (loops : Loops) (now now' : Nat) (answer answer' : Option (Answer ItemId))
    (channel : Channel) (phase : Phase) (shutdown : cancelled = true) :
    (poll loops now' cancelled answer'
      (poll loops now cancelled answer channel phase).channel
      (poll loops now cancelled answer channel phase).phase).phase.isOver = true := by
  subst shutdown
  cases phase with
  | reporting mark =>
    simp only [poll, report]
    cases (loops.clock now).add loops.deadline <;> rfl
  | announcing mark before rest =>
    simp only [poll, announce]
    cases rest.next? with
    | some next => rfl
    | none => cases discovered? mark before <;> rfl
  | _ => rfl

end Discovery

/-- The dispatcher leaves its loop after a shutdown, or where nothing is left to come, and closes
the channel with that. -/
theorem Dispatch.Move.leaving {loops : Loops} {now : Nat} {cancelled : Bool} {channel : Channel}
    {d : Dispatch} {s : Step} (m : Move loops now cancelled channel d s) :
    s.channel.senderGone = channel.senderGone ∧
    ((s.dispatch.phase.isServing = d.phase.isServing ∧ s.channel.closed = channel.closed) ∨
      (s.dispatch.phase.isServing = false ∧ d.phase.isServing = true ∧
        (cancelled = true ∨ channel.isOver = true))) := by
  cases m with
  | leave ending closing =>
    exact ⟨rfl, .inr ⟨(Custody.closing_ended closing).1, rfl, ending.imp_right And.right⟩⟩
  | forgo shutdown closing =>
    exact ⟨rfl, .inr ⟨(Custody.closing_ended closing).1, rfl, .inl shutdown⟩⟩
  | receive _ taken =>
    obtain ⟨-, later⟩ := Channel.take?_eq_some taken
    rw [later]
    exact ⟨rfl, .inl ⟨rfl, rfl⟩⟩
  | _ => exact ⟨rfl, .inl ⟨rfl, rfl⟩⟩

namespace Pipeline

variable {loops : Loops} {p q : Pipeline} {i : Input} {inputs : List Input} {events es : List Event}
  {capacity limit : Nat}

/-- How the ends of the loops depend on a shutdown and on one another, with what was done. -/
structure Ordered (p : Pipeline) (es : List Event) : Prop where
  tracks : Discovery.Tracks es p.discovery
  sender : p.channel.senderGone = p.discovery.isOver
  /-- The channel is open for as long as it is served. -/
  opened : p.dispatch.phase.isServing = true → p.channel.closed = false
  served : p.cancelled = false → p.discovery.isOver = false → p.dispatch.phase.isServing = true
  told : ∀ error, p.discovery = .ended error → .discoveryEnded error ∈ es
  ended : ∀ error, .discoveryEnded error ∈ es →
    p.cancelled = true ∧ error = Discovery.verdict (es.flatMap Event.maxima)

theorem ordered_start (capacity limit : Nat) : (start capacity limit).Ordered [] := by
  constructor
  · exact ⟨rfl, rfl, rfl⟩
  · rfl
  · exact fun _ => rfl
  · exact fun _ _ => rfl
  · rintro error ⟨⟩
  · rintro error ⟨⟩

/-- While discovery goes on without a shutdown, the channel is open. -/
theorem Ordered.closed_eq_false (h : p.Ordered es) (running : p.cancelled = false)
    (on : p.discovery.isOver = false) : p.channel.closed = false :=
  h.opened (h.served running on)

/-- What adds no maximum after a shutdown does not change how discovery has ended. -/
theorem Ordered.verdict_append (h : p.Ordered es)
    (unread : p.cancelled = true → events.flatMap Event.maxima = []) {error : Option DiscoveryError}
    (he : .discoveryEnded error ∈ es) :
    p.cancelled = true ∧ error = Discovery.verdict ((es ++ events).flatMap Event.maxima) := by
  obtain ⟨shutdown, verdict⟩ := h.ended error he
  rw [List.flatMap_append, unread shutdown, List.append_nil]
  exact ⟨shutdown, verdict⟩

theorem Ordered.discovery {answer : Option (Answer ItemId)} {s : Discovery.Step}
    (h : p.Ordered es)
    (task : Discovery.Move loops p.now p.cancelled answer p.channel p.discovery s) :
    Ordered { p with discovery := s.phase, channel := s.channel } (es ++ s.events) := by
  obtain ⟨sender, closed⟩ := task.sender h.sender
  have unread (shutdown : p.cancelled = true) : s.events.flatMap Event.maxima = [] := by
    rw [shutdown] at task
    exact task.reads_nothing
  constructor
  · exact h.tracks.move task
  · exact sender
  · intro serving
    rw [closed]
    exact h.opened serving
  · intro running on
    apply h.served running
    cases finished : p.discovery.isOver with
    | false => rfl
    | true => exact (task.stays_over finished).symm.trans on
  · intro error he
    rcases task.tells he with he | he
    · exact List.mem_append_left _ (h.told error he)
    · exact List.mem_append_right _ he
  · intro error he
    rcases List.mem_append.1 he with he | he
    · exact h.verdict_append unread he
    · rcases task.ended he with ⟨shutdown, why⟩ | ⟨running, closed, on⟩
      · rw [List.flatMap_append, unread shutdown, List.append_nil]
        exact ⟨shutdown, h.tracks.verdict_eq why⟩
      · rw [h.closed_eq_false running on] at closed
        cases closed

theorem Ordered.dispatch {s : Dispatch.Step} (h : p.Ordered es)
    (task : Dispatch.Move loops p.now p.cancelled p.channel p.dispatch s) :
    Ordered { p with dispatch := s.dispatch, channel := s.channel } (es ++ s.events) := by
  have silent : ∀ e ∈ s.events, e.ofDiscovery = false := fun e he =>
    Event.ofDiscovery_of_isOf (Dispatch.isOf_of_move task e he) (by simp)
  obtain ⟨sender, hs⟩ := task.leaving
  constructor
  · exact h.tracks.append_silent silent
  · exact sender.trans h.sender
  · intro serving
    rcases hs with ⟨same, closed⟩ | ⟨left, -, -⟩
    · rw [closed]
      exact h.opened (same ▸ serving)
    · rw [left] at serving
      cases serving
  · intro running on
    rcases hs with ⟨same, -⟩ | ⟨-, serving, shutdown | finished⟩
    · exact same.trans (h.served running on)
    · rw [running] at shutdown
      cases shutdown
    · -- The channel is open, and its sender is there.
      rw [Channel.isOver, h.opened serving, h.sender, on] at finished
      cases finished
  · intro error he
    exact List.mem_append_left _ (h.told error he)
  · intro error he
    rcases List.mem_append.1 he with he | he
    · exact h.verdict_append (fun _ => Discovery.maxima_of_silent silent) he
    · exact Bool.noConfusion (Dispatch.isOf_of_move task _ he)

/-- What neither loop does changes nothing between them, apart from a shutdown. -/
theorem Ordered.keep (h : p.Ordered es) (discovery : q.discovery = p.discovery)
    (channel : q.channel = p.channel) (phase : q.dispatch.phase = p.dispatch.phase)
    (kept : p.cancelled = true → q.cancelled = true)
    (silent : ∀ e ∈ events, e.isOf .unit = true) : q.Ordered (es ++ events) := by
  have silent' : ∀ e ∈ events, e.ofDiscovery = false := fun e he =>
    Event.ofDiscovery_of_isOf (silent e he) (by simp)
  constructor
  · rw [discovery]
    exact h.tracks.append_silent silent'
  · rw [channel, discovery]
    exact h.sender
  · rw [channel, phase]
    exact h.opened
  · rw [discovery, phase]
    intro running
    apply h.served
    cases shutdown : p.cancelled with
    | false => rfl
    | true => exact (kept shutdown).symm.trans running
  · rw [discovery]
    intro error he
    exact List.mem_append_left _ (h.told error he)
  · intro error he
    rcases List.mem_append.1 he with he | he
    · exact (h.verdict_append (fun _ => Discovery.maxima_of_silent silent') he).imp_left kept
    · exact Bool.noConfusion (silent _ he)

theorem Ordered.move (h : p.Ordered es) (m : Move loops p i q events)
    (hi : i.isInternal = true) : q.Ordered (es ++ events) := by
  cases m with
  | discovery task => exact h.discovery task
  | dispatch task => exact h.dispatch task
  | unit _ _ task => exact h.keep rfl rfl rfl id (UnitOfWork.isOf_of_move task)
  | rest | advance => exact h.keep rfl rfl rfl id (List.forall_mem_nil _)
  | cancel => exact h.keep rfl rfl rfl (fun _ => rfl) (List.forall_mem_nil _)
  | reserve | push | send | stopSending | take | close | runAgain => cases hi

theorem ordered_run (loops : Loops) (capacity limit : Nat)
    (hi : ∀ i ∈ inputs, i.isInternal = true) :
    ((start capacity limit).run loops inputs).pipeline.Ordered
      ((start capacity limit).run loops inputs).events := by
  apply run_induction (P := Ordered) (ordered_start capacity limit)
  intro p i q events es hmem m h
  exact h.move m (hi i hmem)

/-- How the loops of a run end. -/
structure EndsWhenAsked (loops : Loops) (r : Run) : Prop where
  /-- Discovery ends after a shutdown only, and with an error only where it had no maximum. -/
  discovery : ∀ error, .discoveryEnded error ∈ r.events → r.pipeline.cancelled = true ∧
    (error = some .cancelledBeforeStart ↔ r.maxima = []) ∧ (error = none ↔ r.maxima ≠ [])
  told : ∀ error, r.pipeline.discovery = .ended error → .discoveryEnded error ∈ r.events
  /-- It never finds the channel closed. -/
  accepted : .discoveryEnded (some .channelClosed) ∉ r.events
  /-- So its end is no failure of the worker. -/
  fine : ∀ error, .discoveryEnded error ∈ r.events → WorkerError.ofDiscovery? error = none
  /-- The channel loses its sender with the end of discovery. -/
  sender : r.pipeline.channel.senderGone = r.pipeline.discovery.isOver
  /-- The dispatcher leaves its loop after a shutdown, or once there is no sender. -/
  dispatch : r.pipeline.dispatch.phase.isServing = false →
    r.pipeline.cancelled = true ∨ r.pipeline.channel.senderGone = true
  /-- A shutdown ends discovery with its second step at the latest. -/
  prompt : r.pipeline.cancelled = true → ∀ answer answer',
    ((r.step loops (.discovery answer)).step loops
      (.discovery answer')).pipeline.discovery.isOver = true

/-- In whatever order the tasks take their steps, and with crashes too, the loops end only when
they are asked to. -/
theorem ends_when_asked (hi : ∀ i ∈ inputs, i.isInternal = true) :
    EndsWhenAsked loops ((start capacity limit).run loops inputs) := by
  have ordered : Ordered ((start capacity limit).run loops inputs).pipeline _ :=
    ordered_run loops capacity limit hi
  have fine : ∀ error, .discoveryEnded error ∈ ((start capacity limit).run loops inputs).events →
      WorkerError.ofDiscovery? error = none := by
    intro error he
    obtain ⟨-, rfl⟩ := ordered.ended error he
    exact Discovery.ofDiscovery?_verdict _
  constructor
  case discovery =>
    intro error he
    obtain ⟨shutdown, rfl⟩ := ordered.ended error he
    exact ⟨shutdown, Discovery.verdict_eq_some, Discovery.verdict_eq_none⟩
  case told => exact ordered.told
  case fine => exact fine
  case accepted =>
    intro he
    cases fine _ he
  case sender => exact ordered.sender
  case dispatch =>
    intro left
    rw [ordered.sender]
    by_contra none
    rw [not_or, Bool.not_eq_true, Bool.not_eq_true] at none
    rw [ordered.served none.1 none.2] at left
    cases left
  case prompt =>
    intro shutdown answer answer'
    exact Discovery.over_of_cancelled loops _ _ answer answer' _ _ shutdown

/-- Discovery waits for a place for 6 when the shutdown comes. The dispatcher sees it first, and
has closed the channel when discovery takes its next step. -/
def blockedInputs : List Input :=
  [.discovery none, .discovery (some (.ok (.ok ⟨5⟩))), .discovery none, .discovery none,
    .discovery (some (.ok (.ok ⟨8⟩))), .discovery none, .discovery none, .dispatch, .cancel,
    .dispatch]

theorem ends_when_asked_blocked :
    (∀ i ∈ blockedInputs ++ [.discovery none], i.isInternal = true) ∧
      EndsWhenAsked .sample ((start 1 1).run .sample (blockedInputs ++ [.discovery none])) ∧
      ((start 1 1).run .sample blockedInputs).pipeline.channel.closed = true ∧
      ((start 1 1).run .sample blockedInputs).pipeline.discovery.hasNext = true ∧
      ((start 1 1).run .sample (blockedInputs ++ [.discovery none])).pipeline.discovery =
        .ended none ∧
      ((start 1 1).run .sample (blockedInputs ++ [.discovery none])).maxima = [⟨5⟩, ⟨8⟩] :=
  ⟨by decide, ends_when_asked (by decide), by decide, by decide, by decide, by decide⟩

end Pipeline
end FeedIngest
