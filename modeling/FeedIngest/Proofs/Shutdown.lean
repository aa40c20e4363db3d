import FeedIngest.Proofs.Units

/-! What still happens after a shutdown was asked for. Nothing is begun: the feed is not
called, nothing is put on the channel or taken from it for dispatch, and no unit of work is
created. An execution is called in the step that learns of its item, so that none is called
later, and one that was called is awaited to its end. -/

namespace FeedIngest

namespace Event

/-- Whether it begins something: a call of the feed, the way of an identifier from discovery to
the dispatcher, or a unit of work. -/
def begins : Event → Bool
  | maximumCalled | lookupCalled _ | announced _ | received _ | spawned _ => true
  | _ => false

/-- Each execution is called right after the answer that brought its item. -/
def Paired (events : List Event) : Prop :=
  ∀ earlier id statement item later, events = earlier ++ executeCalled id statement item :: later →
    earlier.getLast? = some (lookupAnswered id (.ok (.available item)))

theorem paired_of_executes {events : List Event} (h : events.flatMap executes = []) :
    Paired events := by
  rintro earlier id statement item later rfl
  simp [executes] at h

theorem paired_pair (id : ItemId) (statement : String) (item : Item) :
    Paired [lookupAnswered id (.ok (.available item)), executeCalled id statement item] := by
  intro earlier id' statement' item' later h
  match earlier with
  | [] => cases h
  | [e] => cases h; rfl
  | _ :: _ :: earlier => simp at h

theorem Paired.append {es events : List Event} (h : Paired es) (h' : Paired events) :
    Paired (es ++ events) := by
  intro earlier id statement item later he
  rcases List.append_eq_append_iff.1 he with ⟨tail, rfl, ht⟩ | ⟨tail, rfl, ht⟩
  · have last := h' tail id statement item later ht
    rw [List.getLast?_append, last]
    rfl
  · cases tail with
    | nil => exact absurd (h' [] id statement item later ht.symm) (by simp)
    | cons e tail =>
      obtain ⟨rfl, -⟩ := List.cons.inj ht
      exact h earlier id statement item tail rfl

end Event

theorem Fetch.quiet {timer : Timer} {policy : RetryPolicy} {id : ItemId} {now : Nat}
    {answer : Option (Answer Lookup)} {f g : Phase} {events : List Event}
    (m : Move timer policy id now true answer f g events) : events = [] := by
  cases m <;> first | rfl | contradiction

/-- After a shutdown, a unit of work neither asks the feed nor has anything stored. -/
theorem UnitOfWork.quiet {loops : Loops} {now : Nat} {reply : Option Reply} {id : ItemId}
    {before after : Phase} {events : List Event}
    (m : Move loops now true reply id before after events) (hb : before.isProper = true) :
    (∀ e ∈ events, e.begins = false) ∧ events.flatMap Event.executes = [] := by
  constructor
  · cases m with
    | fetch _ step | find step | giveUp step | fetchCrashes step =>
      rw [Fetch.quiet step]
      simp [Event.begins]
    | await | store | refuse | storeCrashes | rest => simp [Event.begins]
  · obtain none | ⟨item, running, -⟩ := m.executes_cases hb
    · exact none
    · cases running

/-- A unit of work has its item stored in the step that learns of it. -/
theorem UnitOfWork.paired {loops : Loops} {now : Nat} {cancelled : Bool} {reply : Option Reply}
    {id : ItemId} {before after : Phase} {events : List Event}
    (m : Move loops now cancelled reply id before after events) (hb : before.isProper = true) :
    Event.Paired events := by
  obtain none | ⟨item, -, -, -, rfl⟩ := m.executes_cases hb
  · exact Event.paired_of_executes none
  · exact Event.paired_pair id loops.statement item

theorem Discovery.quiet {loops : Loops} {now : Nat} {answer : Option (Answer ItemId)}
    {channel : Channel} {phase : Phase} {s : Step}
    (m : Move loops now true answer channel phase s) :
    s.channel.buffer = channel.buffer ∧ s.events.flatMap Event.enters = [] ∧
      ∀ e ∈ s.events, e.begins = false := by
  cases m with
  | rest | decline | report | reportFails | complete | underflow | stop =>
    refine ⟨rfl, rfl, ?_⟩
    simp [Event.begins, finish, crash, pause]
  | _ => contradiction

theorem Dispatch.quiet {loops : Loops} {now : Nat} {channel : Channel} {d : Dispatch} {s : Step}
    (m : Move loops now true channel d s) : s.dispatch.units = d.units ∧
      (s.channel.buffer = channel.buffer ∨ s.channel.buffer = []) ∧
      ∀ e ∈ s.events, e.begins = false := by
  have closing {p : Permits} {phase : Phase} {tail : List Event}
      (h : Closing loops now p phase tail) :
      ∀ e ∈ dropping channel.buffer ++ tail, e.begins = false := by
    rw [List.forall_mem_append]
    constructor
    · unfold dropping
      split <;> simp [Event.begins]
    · cases h <;> simp [Event.begins]
  cases m with
  | leave _ h => exact ⟨rfl, .inr rfl, closing h⟩
  | forgo _ h => exact ⟨rfl, .inr rfl, List.forall_mem_cons.2 ⟨rfl, closing h⟩⟩
  | rest | start | finish | linger | timeOut | underflow =>
    refine ⟨rfl, .inl rfl, ?_⟩
    simp [Event.begins, saturated]
  | _ => contradiction

/-- Whatever answers the execution of a unit of work ends it. -/
theorem UnitOfWork.exists_afterExecute (id : ItemId) (elapsed : Nat)
    (answer : Except Crash (Except StorageError Unit)) :
    ∃ outcome, (afterExecute id elapsed answer).1 = .ended outcome := by
  rcases answer with crash | (error | _) <;> exact ⟨_, rfl⟩

namespace Pipeline

variable {loops : Loops} {p q : Pipeline} {i : Input} {inputs more : List Input} {k : Nat}
  {u : UnitOfWork} {events : List Event}

/-- What is as before, and what is not done, from one state to a later one after a shutdown. -/
structure Keeps (p q : Pipeline) (internal : Prop) (events : List Event) : Prop where
  cancelled : q.cancelled = true
  proper : ∀ u ∈ q.dispatch.units, u.phase.isProper = true
  units : q.dispatch.units.map UnitOfWork.id = p.dispatch.units.map UnitOfWork.id
  begins : ∀ e ∈ events, e.begins = false
  executed : events.flatMap Event.executes = []
  /-- Where the channel is left to the two loops, nothing enters it. -/
  channel : internal → events.flatMap Event.enters = [] ∧
    (q.channel.buffer = p.channel.buffer ∨ q.channel.buffer = [])

theorem Move.keeps (m : Move loops p i q events) (hc : p.cancelled = true)
    (hp : ∀ u ∈ p.dispatch.units, u.phase.isProper = true) :
    Keeps p q (i.isInternal = true) events := by
  have proper := m.proper hp
  obtain ⟨now, cancelled, channel, discovery, d⟩ := p
  obtain rfl : cancelled = true := hc
  cases m with
  | rest | advance | cancel | reserve | stopSending | close =>
    exact ⟨rfl, proper, rfl, List.forall_mem_nil _, rfl, fun _ => ⟨rfl, .inl rfl⟩⟩
  | discovery task =>
    obtain ⟨buffer, entered, begins⟩ := Discovery.quiet task
    have executed := UnitOfWork.ledger_executes.discovery.flatMap (Discovery.isOf_of_move task)
    exact ⟨rfl, proper, rfl, begins, executed, fun _ => ⟨entered, .inl buffer⟩⟩
  | dispatch task =>
    obtain ⟨units, buffer, begins⟩ := Dispatch.quiet task
    have isOf := Dispatch.isOf_of_move task
    exact ⟨rfl, proper, congrArg _ units, begins, Event.executes_dispatch.flatMap isOf,
      fun _ => ⟨Event.enters_dispatch.flatMap isOf, buffer⟩⟩
  | unit there same task =>
    obtain ⟨begins, executed⟩ := UnitOfWork.quiet task (hp _ (List.mem_of_getElem? there))
    have entered := Event.enters_unit.flatMap (UnitOfWork.isOf_of_move task)
    exact ⟨rfl, proper, UnitOfWork.map_id_set there same, begins, executed,
      fun _ => ⟨entered, .inl rfl⟩⟩
  | push | send | take =>
    exact ⟨rfl, proper, rfl, List.forall_mem_singleton.2 rfl, rfl, fun h => nomatch h⟩
  | runAgain => exact ⟨rfl, proper, rfl, List.forall_mem_nil _, rfl, fun h => nomatch h⟩

theorem keeps_run (loops : Loops) (hc : p.cancelled = true)
    (hp : ∀ u ∈ p.dispatch.units, u.phase.isProper = true) (more : List Input) :
    Keeps p (p.run loops more).pipeline (∀ i ∈ more, i.isInternal = true)
      (p.run loops more).events := by
  apply run_induction (P := fun q es => Keeps p q (∀ i ∈ more, i.isInternal = true) es)
  · exact ⟨hc, hp, rfl, List.forall_mem_nil _, rfl, fun _ => ⟨rfl, .inl rfl⟩⟩
  · intro q i q' events es hi m ih
    have step := m.keeps ih.cancelled ih.proper
    constructor
    · exact step.cancelled
    · exact step.proper
    · exact step.units.trans ih.units
    · exact List.forall_mem_append.2 ⟨ih.begins, step.begins⟩
    · rw [List.flatMap_append, ih.executed, step.executed]
      rfl
    · intro internal
      obtain ⟨he, hb⟩ := ih.channel internal
      obtain ⟨he', hb'⟩ := step.channel (internal i hi)
      refine ⟨by rw [List.flatMap_append, he, he']; rfl, ?_⟩
      rcases hb' with hb' | hb'
      · rw [hb']
        exact hb
      · exact .inr hb'

theorem Move.paired (m : Move loops p i q events)
    (hp : ∀ u ∈ p.dispatch.units, u.phase.isProper = true) : Event.Paired events := by
  have isOf := m.isOf
  cases m with
  | discovery => exact Event.paired_of_executes (UnitOfWork.ledger_executes.discovery.flatMap isOf)
  | dispatch => exact Event.paired_of_executes (Event.executes_dispatch.flatMap isOf)
  | unit there same task => exact UnitOfWork.paired task (hp _ (List.mem_of_getElem? there))
  | _ => exact Event.paired_of_executes rfl

theorem paired_run (loops : Loops) (h : p.dispatch.units = []) (inputs : List Input) :
    Event.Paired (p.run loops inputs).events := by
  suffices hr : (∀ u ∈ (p.run loops inputs).pipeline.dispatch.units, u.phase.isProper = true) ∧
      Event.Paired (p.run loops inputs).events from hr.2
  apply run_induction (P := fun q es =>
    (∀ u ∈ q.dispatch.units, u.phase.isProper = true) ∧ Event.Paired es)
  · exact ⟨by rw [h]; exact List.forall_mem_nil _, Event.paired_of_executes rfl⟩
  · intro p i q events es _ m ⟨hp, paired⟩
    exact ⟨m.proper hp, paired.append (m.paired hp)⟩

theorem cancelled_step (loops : Loops) (i : Input) (hc : p.cancelled = true) :
    (p.step loops i).1.cancelled = true := by
  have m : Move loops p i _ _ := step_move p i
  generalize (p.step loops i).1 = q at m ⊢
  generalize (p.step loops i).2 = events at m
  cases m <;> first | exact hc | rfl

/-- Before its first step, a unit of work is as it was created, and has done nothing. -/
theorem unrun_run (loops : Loops) (h : p.dispatch.units = []) (inputs : List Input)
    (hu : (p.run loops inputs).pipeline.dispatch.units[k]? = some u) (unrun : u.started = none) :
    u = .create u.id ∧ p.doneBy loops (Input.isUnit k) inputs = [] := by
  apply follow (P := fun u es => u.started = none → u = .create u.id ∧ es = []) h
    (fun id _ => ⟨rfl, rfl⟩) _ hu unrun
  intro u es hu now cancelled reply hv
  -- The first step sets when it ran, and no step takes that back.
  obtain ⟨id, started, phase⟩ := u
  cases phase with
  | fetching f => cases hv
  | storing item since =>
    have hs : started = none := by
      match reply with
      | none | some (.lookup _) | some (.execute _) => exact hv
    cases (hu hs).1
  | ended outcome => cases (hu hv).1

/-- The first step of a unit of work after a shutdown is its last, and gives its item up. -/
theorem give_up_run (loops : Loops) {id : ItemId} (hc : p.cancelled = true)
    (there : p.dispatch.units[k]? = some (.create id)) (more : List Input) :
    ((p.run loops more).pipeline.dispatch.units[k]? = some (.create id) ∧
      p.doneBy loops (Input.isUnit k) more = []) ∨
    ∃ now, (p.run loops more).pipeline.dispatch.units[k]? =
        some ⟨id, some now, .ended .abandoned⟩ ∧
      p.doneBy loops (Input.isUnit k) more = [.abandoned [id]] := by
  induction more generalizing p with
  | nil => exact .inl ⟨there, rfl⟩
  | cons i more ih =>
    rw [run_cons, doneBy]
    rcases unit_step loops i there with ⟨-, hq, he⟩ | ⟨reply, -, hq, he⟩
    · rw [he]
      exact ih (cancelled_step loops i hc) hq
    · rw [hc] at hq he
      obtain ⟨hr, hd⟩ := ended_run loops hq rfl more
      rw [he, hd]
      exact .inr ⟨p.now, hr, rfl⟩

/-- What the execution of the unit of work at an index comes to. -/
def Input.execution? (index : Nat) : Input → Option (Except Crash (Except StorageError Unit))
  | unit k (some (.execute answer)) => if k = index then some answer else none
  | _ => none

theorem Input.execution?_eq_none {i : Input} (other : i.isUnit k = false) :
    i.execution? k = none := by
  cases i with
  | unit index reply =>
    rcases reply with _ | (_ | answer)
    · rfl
    · rfl
    · exact if_neg (of_decide_eq_false other)
  | _ => rfl

/-- A unit of work whose execution was called waits for the first answer to it, and ends as that
says. -/
def Awaited (u v : UnitOfWork) (answer : Option (Except Crash (Except StorageError Unit)))
    (events : List Event) : Prop :=
  match answer with
  | none => v = u ∧ events = []
  | some answer => ∃ elapsed,
    v = { u with phase := (UnitOfWork.afterExecute u.id elapsed answer).1 } ∧
      events = (UnitOfWork.afterExecute u.id elapsed answer).2

theorem awaited_run (loops : Loops) {item : Item} {since : Nat}
    (there : p.dispatch.units[k]? = some u) (storing : u.phase = .storing item since)
    (more : List Input) : ∃ v, (p.run loops more).pipeline.dispatch.units[k]? = some v ∧
      Awaited u v (more.findSome? (Input.execution? k))
        (p.doneBy loops (Input.isUnit k) more) := by
  induction more generalizing p with
  | nil => exact ⟨u, there, rfl, rfl⟩
  | cons i more ih =>
    rw [run_cons, doneBy, List.findSome?_cons]
    rcases unit_step loops i there with ⟨own, hq, he⟩ | ⟨reply, rfl, hq, he⟩
    · rw [he, Input.execution?_eq_none own]
      exact ih hq
    · obtain ⟨id, started, phase⟩ := u
      obtain rfl : phase = .storing item since := storing
      rw [he]
      rcases reply with _ | (_ | answer)
      · exact ih hq
      · exact ih hq
      · have answered : (Input.unit k (some (.execute answer))).execution? k = some answer :=
          if_pos rfl
        obtain ⟨outcome, ended⟩ :=
          UnitOfWork.exists_afterExecute id (p.now - started.getD p.now) answer
        obtain ⟨hr, hd⟩ := ended_run loops hq ended more
        rw [answered, hd, List.append_nil]
        exact ⟨_, hr, _, rfl, rfl⟩

/-- What is so from a state on in which a shutdown was asked for, whatever else happens. -/
structure Quiet (loops : Loops) (p : Pipeline) (inputs more : List Input) : Prop where
  /-- The feed is not called, no identifier is announced or received, no unit is created. -/
  begins : ∀ e ∈ ((p.run loops inputs).pipeline.run loops more).events, e.begins = false
  /-- Where the channel is left to the two loops, nothing enters it, and what was in it stays
  there or is taken out as a whole. -/
  channel : (∀ i ∈ more, i.isInternal = true) →
    ((p.run loops inputs).pipeline.run loops more).entered = [] ∧
    (((p.run loops inputs).pipeline.run loops more).pipeline.channel.buffer =
        (p.run loops inputs).pipeline.channel.buffer ∨
      ((p.run loops inputs).pipeline.run loops more).pipeline.channel.buffer = [])
  units : ((p.run loops inputs).pipeline.run loops more).pipeline.dispatch.units.map UnitOfWork.id =
    (p.run loops inputs).pipeline.dispatch.units.map UnitOfWork.id
  /-- A unit that has not run yet will do nothing but give its item up. -/
  unrun : ∀ k u, (p.run loops inputs).pipeline.dispatch.units[k]? = some u → u.started = none →
    p.doneBy loops (Input.isUnit k) (inputs ++ more) = [] ∨
    p.doneBy loops (Input.isUnit k) (inputs ++ more) = [.abandoned [u.id]]
  /-- At any time, an execution is called right after the answer that brought its item. -/
  found : Event.Paired (p.run loops (inputs ++ more)).events
  /-- So none is called any more. -/
  executed : ((p.run loops inputs).pipeline.run loops more).executed = []
  /-- One that was called before is awaited. -/
  awaited : ∀ k u item since, (p.run loops inputs).pipeline.dispatch.units[k]? = some u →
    u.phase = .storing item since →
    ∃ v, ((p.run loops inputs).pipeline.run loops more).pipeline.dispatch.units[k]? = some v ∧
      Awaited u v (more.findSome? (Input.execution? k))
        ((p.run loops inputs).pipeline.doneBy loops (Input.isUnit k) more)

/-- Whenever a shutdown is asked for, nothing begins after it. -/
theorem quiet_after_shutdown (h : p.dispatch.units = [])
    (hc : (p.run loops inputs).pipeline.cancelled = true) : Quiet loops p inputs more := by
  have keeps := keeps_run loops hc (proper_run loops h inputs) more
  constructor
  case begins => exact keeps.begins
  case channel => exact keeps.channel
  case units => exact keeps.units
  case executed => exact keeps.executed
  case found => exact paired_run loops h (inputs ++ more)
  case unrun =>
    intro k u hu unrun
    obtain ⟨created, silent⟩ := unrun_run loops h inputs hu unrun
    rw [doneBy_append, silent, List.nil_append]
    rw [created] at hu
    rcases give_up_run loops hc hu more with ⟨-, done⟩ | ⟨now, -, done⟩
    · exact .inl done
    · exact .inr done
  case awaited =>
    intro k u item since hu storing
    exact awaited_run loops hu storing more

/-- Loops that ask again without waiting. -/
def unwaiting : Loops := { Loops.sample with policy := ⟨1, .zero, none⟩ }

/-- When the shutdown is asked for, 5 is being stored, 6 is about to be asked for again, the unit
of work of 7 has not run yet and 8 is in the channel. -/
def interruptedInputs : List Input :=
  [.discovery none, .discovery (some (.ok (.ok ⟨5⟩))), .discovery none, .discovery none,
    .discovery (some (.ok (.ok ⟨9⟩))), .discovery none, .discovery none, .dispatch, .dispatch,
    .dispatch, .dispatch, .dispatch, .discovery none, .dispatch, .dispatch, .discovery none,
    .unit 0 none, .unit 0 (some (.lookup (.ok (.ok (.available ⟨⟨5⟩, none, none, ""⟩))))),
    .unit 1 none, .unit 1 (some (.lookup (.ok (.ok .notAvailable)))), .cancel]

/-- Every task takes a step, and the execution is answered. -/
def closingInputs : List Input :=
  [.unit 0 none, .unit 1 none, .unit 2 none, .discovery none, .dispatch,
    .unit 0 (some (.execute (.ok (.ok ()))))]

theorem quiet_after_shutdown_interrupted :
    (start 2 3).dispatch.units = [] ∧
      ((start 2 3).run unwaiting interruptedInputs).pipeline.cancelled = true ∧
      Quiet unwaiting (start 2 3) interruptedInputs closingInputs ∧
      ((start 2 3).run unwaiting interruptedInputs).executed = [⟨5⟩] ∧
      ((start 2 3).run unwaiting interruptedInputs).stored = [] ∧
      ((start 2 3).run unwaiting interruptedInputs).pipeline.dispatch.units.map UnitOfWork.started =
        [some 0, some 0, none] ∧
      ((start 2 3).run unwaiting interruptedInputs).pipeline.channel.buffer = [⟨8⟩] ∧
      ((start 2 3).run unwaiting (interruptedInputs ++ closingInputs)).stored = [⟨5⟩] ∧
      ((start 2 3).run unwaiting (interruptedInputs ++ closingInputs)).abandoned =
        [⟨6⟩, ⟨7⟩, ⟨8⟩] :=
  ⟨rfl, by decide, quiet_after_shutdown rfl (by decide), by decide, by decide, by decide,
    by decide, by decide, by decide⟩

end Pipeline
end FeedIngest
