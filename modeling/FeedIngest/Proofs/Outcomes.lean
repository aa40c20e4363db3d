import FeedIngest.Proofs.Accounts
import Mathlib.Algebra.GroupWithZero.Nat

/-! What becomes of every identifier that is sent. Once the dispatcher has returned and its
units of work have ended, each send has had one outcome: the item was fetched and its execution
called once, which stored it or was refused, or the identifier was abandoned. The counters
agree, and nothing is abandoned without a shutdown. Senders may be any, may repeat themselves, and
may take a place on the channel long before they fill it; nothing is to crash. What is relied on is
that closing the channel prevents anything more from being sent, so that nothing is left in it. A
sender that could fill its place all the same would leave there what it sends, and nothing else
would be missing. -/

namespace FeedIngest

namespace Event

/-- The items that were fetched. -/
def finds : Event → List (ItemId × Item)
  | lookupAnswered id (.ok (.available item)) => [(id, item)]
  | _ => []

/-- The items whose execution was called. -/
def calls : Event → List (ItemId × Item)
  | executeCalled id _ item => [(id, item)]
  | _ => []

/-- By how much an event raises the counters of stored, refused and abandoned items. -/
def settles (e : Event) : Nat :=
  match e.measure? with
  | some m =>
    match m with
    | .stored | .storeFailed _ | .abandoned _ => m.counter?.elim 0 (·.2)
    | _ => 0
  | none => 0

end Event

/-- Without a shutdown, a unit of work abandons nothing. -/
theorem UnitOfWork.abandons_nothing {loops : Loops} {now : Nat} {reply : Option Reply} {id : ItemId}
    {before after : Phase} {events : List Event}
    (m : Move loops now false reply id before after events) (hb : before.isSound = true) :
    events.flatMap Event.abandons = [] := by
  cases m with
  | fetch _ step | fetchCrashes step =>
    exact ledger_abandons.flatMap_fetch (Fetch.isFetch_of_move step)
  | find step =>
    rw [List.flatMap_append, ledger_abandons.flatMap_fetch (Fetch.isFetch_of_move step)]
    rfl
  | giveUp step =>
    rcases Fetch.shutdown_of_cancelled step with ⟨⟨⟩⟩ | rfl
    cases hb
  | await | store | refuse | storeCrashes | rest => rfl

namespace Pipeline

variable {loops : Loops} {p : Pipeline} {inputs more : List Input}

/-- Whether a sender fills a place that it has taken before. -/
def Input.fills : Input → Bool
  | push _ => true
  | _ => false

/-- What closing a channel is relied on for: it prevents anything more from being sent, also by a
sender that has taken a place. -/
def ClosingPrevents (loops : Loops) (p : Pipeline) : List Input → Prop
  | [] => True
  | i :: inputs =>
    (i.fills = true → p.channel.closed = true → p.channel.reserved = 0) ∧
      ClosingPrevents loops (p.step loops i).1 inputs

instance decidableClosingPrevents (loops : Loops) :
    (p : Pipeline) → (inputs : List Input) → Decidable (p.ClosingPrevents loops inputs)
  | _, [] => .isTrue trivial
  | p, i :: inputs =>
    have := decidableClosingPrevents loops (p.step loops i).1 inputs
    inferInstanceAs (Decidable (_ ∧ _))

theorem closingPrevents_concat {i : Input} : p.ClosingPrevents loops (inputs ++ [i]) ↔
    p.ClosingPrevents loops inputs ∧
      (i.fills = true → (p.run loops inputs).pipeline.channel.closed = true →
        (p.run loops inputs).pipeline.channel.reserved = 0) := by
  induction inputs generalizing p with
  | nil => simp [ClosingPrevents]
  | cons j inputs ih =>
    rw [List.cons_append, ClosingPrevents, ih, ClosingPrevents, run_cons, and_assoc]

/-- There is nothing to prevent where every send is made in one step. -/
theorem closingPrevents_of_fills (h : ∀ i ∈ inputs, i.fills = false) :
    p.ClosingPrevents loops inputs := by
  induction inputs generalizing p with
  | nil => trivial
  | cons i inputs ih =>
    rw [List.forall_mem_cons] at h
    refine ⟨fun fills => ?_, ih h.2⟩
    rw [h.1] at fills
    cases fills

/-- The dispatcher has closed the channel. -/
structure IsShut (p : Pipeline) : Prop where
  phase : p.dispatch.phase.isServing = false
  closed : p.channel.closed = true

/-- Then it stays closed, and nothing is taken out of it. -/
theorem Move.shut {q : Pipeline} {i : Input} {events : List Event} (m : Move loops p i q events)
    (hi : i.sparesReceiver = true) (h : p.IsShut) :
    q.IsShut ∧ q.channel.buffer = p.channel.buffer ++ events.flatMap Event.enters := by
  have opened : p.channel.closed ≠ false := by
    rw [h.closed]
    exact Bool.noConfusion
  obtain ⟨now, cancelled, channel, discovery, d⟩ := p
  cases m with
  | discovery task =>
    cases task with
    | announce _ _ ho | announceLast _ _ ho | overflow _ _ ho => exact absurd ho opened
    | _ => exact ⟨⟨h.phase, h.closed⟩, (List.append_nil _).symm⟩
  | dispatch task =>
    cases task with
    | start | receive | leave | forgo | spawn | await =>
      exact Bool.noConfusion (h.phase : true = false)
    | _ => exact ⟨⟨h.phase, h.closed⟩, (List.append_nil _).symm⟩
  | unit _ _ task =>
    rw [Event.enters_unit.flatMap (UnitOfWork.isOf_of_move task)]
    exact ⟨⟨h.phase, h.closed⟩, (List.append_nil _).symm⟩
  | push => exact ⟨⟨h.phase, h.closed⟩, rfl⟩
  | reserve ho | send ho => exact absurd ho opened
  | take | close | runAgain => cases hi
  | _ => exact ⟨⟨h.phase, h.closed⟩, (List.append_nil _).symm⟩

/-- Nothing else enters a channel that has been closed. -/
theorem Move.enters_nothing {q : Pipeline} {i : Input} {events : List Event}
    (m : Move loops p i q events) (h : p.channel.closed = true)
    (prevented : i.fills = true → p.channel.reserved = 0) :
    events.flatMap Event.enters = [] := by
  have opened : p.channel.closed ≠ false := by
    rw [h]
    exact Bool.noConfusion
  obtain ⟨now, cancelled, channel, discovery, d⟩ := p
  cases m with
  | discovery task =>
    cases task with
    | announce _ _ ho | announceLast _ _ ho | overflow _ _ ho => exact absurd ho opened
    | _ => rfl
  | dispatch task => exact Event.enters_dispatch.flatMap (Dispatch.isOf_of_move task)
  | unit _ _ task => exact Event.enters_unit.flatMap (UnitOfWork.isOf_of_move task)
  | push taken => exact absurd (prevented rfl) (Nat.ne_of_gt taken)
  | send ho => exact absurd ho opened
  | _ => rfl

/-- The step that closes the channel leaves nothing in it. -/
theorem Move.empties {q : Pipeline} {i : Input} {events : List Event} (m : Move loops p i q events)
    (serving : p.dispatch.phase.isServing = true) (left : q.dispatch.phase.isServing = false) :
    q.channel.buffer = [] := by
  obtain ⟨now, cancelled, channel, discovery, d⟩ := p
  cases m with
  | dispatch task =>
    cases task with
    | leave | forgo => rfl
    | rest => exact Bool.noConfusion (serving.symm.trans left)
    | start | receive | spawn | await => cases left
    | finish | linger | timeOut | underflow => cases serving
  | runAgain => cases left
  | _ => exact Bool.noConfusion (serving.symm.trans left)

/-- Only a shutdown makes the dispatcher or a unit of work abandon anything. -/
theorem Move.abandons_nothing {q : Pipeline} {i : Input} {events : List Event}
    (m : Move loops p i q events) (hi : i ≠ .cancel) (hc : p.cancelled = false)
    (hs : ∀ u ∈ p.dispatch.units, u.phase.isSound = true) :
    q.cancelled = false ∧ events.flatMap Event.abandons = [] := by
  obtain ⟨now, cancelled, channel, discovery, d⟩ := p
  obtain rfl : cancelled = false := hc
  cases m with
  | cancel => exact absurd rfl hi
  | discovery task =>
    exact ⟨rfl, UnitOfWork.ledger_abandons.discovery.flatMap (Discovery.isOf_of_move task)⟩
  | dispatch task =>
    cases task with
    | leave ending closing =>
      rcases ending with ⟨⟨⟩⟩ | ⟨hb, -⟩
      refine ⟨rfl, ?_⟩
      rw [List.flatMap_append, Dispatch.flatMap_dropping, hb, (Custody.closing_ended closing).2.2]
      rfl
    | forgo shutdown => cases shutdown
    | _ => exact ⟨rfl, rfl⟩
  | @unit index reply u v events there same task =>
    have hu := hs u (List.mem_of_getElem? there)
    exact ⟨rfl, UnitOfWork.abandons_nothing task hu⟩
  | _ => exact ⟨rfl, rfl⟩

theorem abandons_nothing_run (loops : Loops) (h : p.IsFresh) (hp : p.cancelled = false)
    (hc : ∀ i ∈ inputs, i.crashes = false) (hi : Input.cancel ∉ inputs) :
    (p.run loops inputs).abandoned = [] := by
  suffices hr : (p.run loops inputs).pipeline.cancelled = false ∧
      (∀ u ∈ (p.run loops inputs).pipeline.dispatch.units, u.phase.isSound = true) ∧
        (p.run loops inputs).abandoned = [] from hr.2.2
  apply run_induction (P := fun q es => q.cancelled = false ∧
    (∀ u ∈ q.dispatch.units, u.phase.isSound = true) ∧ es.flatMap Event.abandons = [])
  · refine ⟨hp, ?_, rfl⟩
    rw [h.units]
    exact fun u hu => absurd hu List.not_mem_nil
  · intro p i q events es hmem m ⟨hcancelled, hs, he⟩
    have hne : i ≠ .cancel := fun hi' => hi (hi' ▸ hmem)
    obtain ⟨hq, ha⟩ := m.abandons_nothing hne hcancelled hs
    rw [List.flatMap_append, he, ha]
    exact ⟨hq, m.sound (hc i hmem) hs, rfl⟩

/-- The dispatcher has returned, and all that it started has ended. -/
def IsDone (p : Pipeline) : Prop := p.dispatch.phase = .returned ∧ p.dispatch.running = []

theorem sends_run (loops : Loops) (h : p.IsFresh) (hi : ∀ i ∈ inputs, i.sparesReceiver = true)
    (done : (p.run loops inputs).pipeline.dispatch.phase = .returned) :
    (p.run loops inputs).pipeline.IsShut ∧ (p.run loops inputs).entered =
      (p.run loops inputs).pipeline.dispatch.units.map UnitOfWork.id ++
        (p.doneBy loops Input.isDispatch inputs).flatMap Event.abandons ++
          (p.run loops inputs).pipeline.channel.buffer := by
  have custody : Custody (p.run loops inputs).events _ _ := custody_run h hi
  have ending : (p.run loops inputs).pipeline.dispatch.phase.isServing = false := by
    rw [done]
    rfl
  refine ⟨⟨ending, custody.shut ending⟩, ?_⟩
  rw [Run.entered, Run.collect, custody.entered, done]
  simp [Dispatch.Phase.held]

/-- If closing the channel prevents what was to be sent, it is empty from then on. By induction on
the inputs: it is emptied by the step that closes it, and nothing enters it behind that. -/
theorem emptied_run (loops : Loops) (h : p.IsFresh) (hi : ∀ i ∈ inputs, i.sparesReceiver = true)
    (prevented : p.ClosingPrevents loops inputs)
    (left : (p.run loops inputs).pipeline.dispatch.phase.isServing = false) :
    (p.run loops inputs).pipeline.channel.buffer = [] := by
  induction inputs using List.reverseRecOn with
  | nil => exact h.buffer
  | append_singleton inputs i ih =>
    rw [List.forall_mem_append, List.forall_mem_singleton] at hi
    obtain ⟨before, prevented⟩ := closingPrevents_concat.1 prevented
    rw [run_concat, Run.pipeline_step] at left ⊢
    have m : Move loops _ i _ _ := step_move (p.run loops inputs).pipeline i
    cases serving : (p.run loops inputs).pipeline.dispatch.phase.isServing with
    | true => exact m.empties serving left
    | false =>
      have custody : Custody (p.run loops inputs).events _ _ := custody_run h hi.1
      have closed := custody.shut serving
      rw [(m.shut hi.2 ⟨serving, closed⟩).2, ih hi.1 before serving,
        m.enters_nothing closed fun fills => prevented fills closed]
      rfl

theorem leftover_run (loops : Loops) (h : p.IsFresh) (hi : ∀ i ∈ inputs, i.sparesReceiver = true)
    (hc : ∀ i ∈ inputs, i.crashes = false) (done : (p.run loops inputs).pipeline.IsDone) :
    (p.run loops inputs).entered.Perm
      ((p.run loops inputs).stored ++ (p.run loops inputs).refused ++
        (p.run loops inputs).abandoned ++ (p.run loops inputs).pipeline.channel.buffer) := by
  have stored : (p.run loops inputs).stored.Perm _ :=
    total_run loops UnitOfWork.ledger_stores h hc
  have refused : (p.run loops inputs).refused.Perm _ :=
    total_run loops UnitOfWork.ledger_refuses h hc
  have abandoned : (p.run loops inputs).abandoned.Perm _ :=
    total_run loops UnitOfWork.ledger_abandons h hc
  rw [doneBy_dispatch Event.stores_dispatch, List.nil_append] at stored
  rw [doneBy_dispatch Event.refuses_dispatch, List.nil_append] at refused
  have units := UnitOfWork.perm_answered (sound_run loops h hc)
  rw [List.flatMap_cons, ← Dispatch.map_id_running, done.2] at units
  rw [(sends_run loops h hi done.1).2, List.perm_iff_count]
  intro id
  have hs := stored.count_eq id
  have hr := refused.count_eq id
  have ha := abandoned.count_eq id
  have hu := units.count_eq id
  simp only [List.flatMap_cons, List.flatMap_nil, List.map_nil, List.count_append,
    List.count_nil] at hs hr ha hu ⊢
  omega

theorem settled_run (loops : Loops) (h : p.IsFresh) (hi : ∀ i ∈ inputs, i.sparesReceiver = true)
    (hc : ∀ i ∈ inputs, i.crashes = false) (prevented : p.ClosingPrevents loops inputs)
    (done : (p.run loops inputs).pipeline.IsDone) : (p.run loops inputs).entered.Perm
      ((p.run loops inputs).stored ++ (p.run loops inputs).refused ++
        (p.run loops inputs).abandoned) := by
  have perm := leftover_run loops h hi hc done
  rw [emptied_run loops h hi prevented (by rw [done.1]; rfl), List.append_nil] at perm
  exact perm

end Pipeline
end FeedIngest
