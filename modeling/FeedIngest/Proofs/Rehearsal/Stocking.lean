import FeedIngest.Proofs.Outcomes
import FeedIngest.Proofs.Rehearsal.Acts
import FeedIngest.Proofs.Storage.Memory
import FeedIngest.Proofs.Units

/-! Rehearsals without a shutdown, as long as all that is sent has a sample item. The feed finds
samples only, so that every unit of work has the sample of its own identifier stored, and the
storage counts the executions that were answered, in their order. -/

namespace FeedIngest

/-- The identifiers whose execution was answered. -/
def Event.attempts (e : Event) : List ItemId := e.stores ++ e.refuses

namespace Storage.Memory

variable {m : Memory}

/-- A storage that was set up and has been given samples only. -/
structure Stocked (m : Memory) : Prop extends m.Consistent where
  ready : m.ready = true
  samples : ∀ item ∈ m.rows, item = Item.specimen item.id
  stored : ∀ id, id ∈ m.storedIds ↔ id ∈ m.attempts ∧ id ∉ m.failing

theorem stocked_empty (failing : List ItemId) : (empty failing).setup.Stocked :=
  ⟨⟨.nil, .refl _⟩, rfl, List.forall_mem_nil _, fun _ => by simp [storedIds, empty, setup]⟩

/-- A sample is stored unless its identifier is set to fail or has a row. -/
theorem Stocked.execute (h : m.Stocked) (id : ItemId) :
    (m.execute insertItem (Item.specimen id)).1.Stocked ∧
      (m.execute insertItem (Item.specimen id)).1.failing = m.failing ∧
      (m.execute insertItem (Item.specimen id)).1.attempts = m.attempts ++ [id] := by
  have consistent := h.toConsistent.execute insertItem (Item.specimen id)
  rcases m.execute_cases insertItem (Item.specimen id) with ⟨e, refusal, he⟩ | ⟨-, -, spared, -, he⟩
  · rw [he] at consistent ⊢
    refine ⟨⟨consistent, h.ready, h.samples, fun other => ?_⟩, rfl, rfl⟩
    -- A refused identifier is set to fail or has a row already.
    have refused : id ∈ m.failing ∨ id ∈ m.storedIds := by
      unfold refusal? at refusal
      simp only [h.ready, Item.id_specimen, isSome_row?] at refusal
      by_contra hn
      rw [not_or] at hn
      simp [hn.1, hn.2] at refusal
    have mem : other ∈ (m.attempt (Item.specimen id)).attempts ↔ other ∈ m.attempts ∨ other = id :=
      List.mem_append.trans (or_congr_right List.mem_singleton)
    refine (h.stored other).trans ?_
    rw [mem]
    refine ⟨fun hs => ⟨.inl hs.1, hs.2⟩, ?_⟩
    rintro ⟨hs | rfl, hf⟩
    · exact ⟨hs, hf⟩
    · exact (h.stored other).1 (refused.resolve_left hf)
  · rw [he] at consistent ⊢
    refine ⟨⟨consistent, h.ready, fun item hi => ?_, fun other => ?_⟩, rfl, rfl⟩
    · rcases List.mem_cons.1 ((perm_insertSorted _ _).mem_iff.1 hi) with rfl | hi
      · rfl
      · exact h.samples item hi
    · have mem : other ∈ (m.write (Item.specimen id)).attempts ↔
          other ∈ m.attempts ∨ other = id :=
        List.mem_append.trans (or_congr_right List.mem_singleton)
      rw [mem_storedIds_write, h.stored, mem, Item.id_specimen]
      constructor
      · rintro (rfl | hs)
        · exact ⟨.inr rfl, spared⟩
        · exact ⟨.inl hs.1, hs.2⟩
      · rintro ⟨hs | rfl, hf⟩
        · exact .inr ⟨hs, hf⟩
        · exact .inl rfl

theorem Stocked.rows_eq (h : m.Stocked) : m.rows = m.storedIds.map Item.specimen := by
  rw [storedIds, List.map_map]
  exact (List.map_id'' (fun _ => rfl) m.rows).symm.trans (List.map_congr_left h.samples)

end Storage.Memory

/-- Only an answered execution is an attempt. -/
theorem UnitOfWork.attempts_of_move {loops : Loops} {now : Nat} {cancelled : Bool}
    {reply : Option Reply} {id : ItemId} {before after : Phase} {events : List Event}
    (m : Move loops now cancelled reply id before after events)
    (unanswered : ∀ answer, reply ≠ some (.execute answer)) :
    events.flatMap Event.attempts = [] := by
  have fetched {events : List Event} (h : ∀ e ∈ events, e.isFetch = true) :
      events.flatMap Event.attempts = [] := by
    rw [List.flatMap_eq_nil_iff]
    intro e he
    rw [Event.attempts, ledger_stores.quiet e (h e he), ledger_refuses.quiet e (h e he)]
    rfl
  cases m with
  | fetch _ step | fetchCrashes step => exact fetched (Fetch.isFetch_of_move step)
  | find step | giveUp step =>
    rw [List.flatMap_append, fetched (Fetch.isFetch_of_move step)]
    rfl
  | store answered | refuse answered => exact absurd answered (unanswered _)
  | await | storeCrashes | rest => rfl

namespace Pipeline

variable {loops : Loops} {p q : Pipeline} {i : Input} {events : List Event}

theorem Move.attempts (m : Move loops p i q events)
    (unanswered : ∀ k answer, i ≠ .unit k (some (.execute answer))) :
    events.flatMap Event.attempts = [] := by
  have silent {a : Event.Actor} (stores : Event.Silent Event.stores a)
      (refuses : Event.Silent Event.refuses a) : Event.Silent Event.attempts a := by
    intro e he
    rw [Event.attempts, stores e he, refuses e he]
    rfl
  cases m with
  | discovery task =>
    exact (silent UnitOfWork.ledger_stores.discovery UnitOfWork.ledger_refuses.discovery).flatMap
      (Discovery.isOf_of_move task)
  | dispatch task =>
    exact (silent Event.stores_dispatch Event.refuses_dispatch).flatMap
      (Dispatch.isOf_of_move task)
  | @unit index reply u v events there same task =>
    apply UnitOfWork.attempts_of_move task
    rintro answer rfl
    exact unanswered index answer rfl
  | _ => rfl

/-- Every unit of work that has its item stored has the sample of its identifier. -/
def HoldsSamples (p : Pipeline) : Prop :=
  ∀ u ∈ p.dispatch.units, ∀ item since, u.phase = .storing item since → item = .specimen u.id

theorem Move.holdsSamples (m : Move loops p i q events)
    (hp : ∀ u ∈ p.dispatch.units, u.phase.isProper = true) (h : p.HoldsSamples)
    (answered : ∀ k item, i = .unit k (some (.lookup (.ok (.ok (.available item))))) →
      ∀ u, p.dispatch.units[k]? = some u → item = .specimen u.id) : q.HoldsSamples := by
  rcases m.units_cases with ⟨fresh, hq, hf, -⟩ | ⟨k, reply, u, v, rfl, there, same, task, hq⟩
  · intro u hu item since storing
    rw [hq] at hu
    rcases List.mem_append.1 hu with hu | hu
    · exact h u hu item since storing
    · cases (hf u hu).symm.trans storing
  · have old := List.mem_of_getElem? there
    intro w hw item since storing
    rw [hq] at hw
    rcases List.mem_or_eq_of_mem_set hw with hw | rfl
    · exact h w hw item since storing
    · rw [storing] at task
      rw [same]
      rcases task.storing (hp u old) with before | rfl
      · exact h u old item since before
      · exact answered k item rfl u there

end Pipeline

namespace Rehearsal

/-! ### The feed -/

namespace Feed

variable {f : Feed}

theorem maximum_sound (healthy : f.scripted.poisoned = false) :
    f.maximum.1.scripted.poisoned = false ∧ ∃ result, f.maximum.2 = .ok result := by
  unfold maximum
  split
  · exact ⟨healthy, _, rfl⟩
  · rename_i entry rest _
    cases entry <;> simp [ScriptedFeed.maximum, healthy]
  · simp [ScriptedFeed.maximum, healthy]

/-- What is found is the sample, if there is one; else the feed would crash. -/
theorem lookup_sound (healthy : f.scripted.poisoned = false) {id : ItemId} (h : Item.HasSample id) :
    (f.lookup id).1.scripted.poisoned = false ∧ ∃ result, (f.lookup id).2 = .ok result ∧
      ∀ item, result = .ok (.available item) → item = .specimen id := by
  unfold lookup
  split
  · refine ⟨healthy, _, rfl, ?_⟩
    rintro item ⟨⟩
  · simp only [ScriptedFeed.item, healthy, Bool.false_eq_true, if_false, Item.sample_eq h]
    split
    case isTrue =>
      refine ⟨rfl, _, rfl, ?_⟩
      rintro item ⟨⟩
    case isFalse =>
      split
      case isTrue =>
        refine ⟨rfl, _, rfl, ?_⟩
        rintro item ⟨⟩
      case isFalse =>
        refine ⟨rfl, _, rfl, ?_⟩
        rintro item ⟨⟩
        rfl

end Feed

/-! ### Runs -/

/-- What is so at any time, as long as all that was sent has samples. -/
structure Stocking (loops : Loops) (p : Pipeline) (failing : List ItemId) (r : Rehearsal)
    (inputs : List Pipeline.Input) : Prop extends Plays loops p r inputs where
  spared : ∀ i ∈ inputs, i.sparesReceiver = true
  sound : ∀ i ∈ inputs, i.crashes = false
  unfilled : ∀ i ∈ inputs, i.fills = false
  running : .cancel ∉ inputs
  healthy : r.feed.scripted.poisoned = false
  samples : r.pipeline.HoldsSamples
  memory : r.storage.memory.Stocked
  failing : r.storage.memory.failing = failing
  attempts : r.storage.memory.attempts = r.events.flatMap Event.attempts

variable {loops : Loops} {p : Pipeline} {failing : List ItemId} {r s : Rehearsal}
  {inputs : List Pipeline.Input} {a : Act} {i : Pipeline.Input}

theorem Act.bare_sound (running : a ≠ .turn .cancel) : a.bare.sparesReceiver = true ∧
    a.bare.crashes = false ∧ a.bare.fills = false ∧ a.bare ≠ .cancel ∧
      ∀ k reply, a.bare ≠ .unit k (some reply) := by
  match a, running with
  | .send _, _ | .stopSending, _ | .turn (.advance _), _ | .turn .dispatch, _
  | .turn .discovery, _ | .turn (.unit _), _ =>
    exact ⟨rfl, rfl, rfl, by simp [bare], by simp [bare]⟩
  | .turn .cancel, running => exact absurd rfl running

/-- The feed answers without a crash, and finds samples only. -/
theorem Asks.sound (asks : Asks loops r a s i) (running : a ≠ .turn .cancel)
    (healthy : r.feed.scripted.poisoned = false)
    (bounded : ∀ u ∈ r.pipeline.dispatch.units, Item.HasSample u.id) :
    i.sparesReceiver = true ∧ i.crashes = false ∧ i.fills = false ∧ i ≠ .cancel ∧
      s.feed.scripted.poisoned = false ∧
      ∀ k item, i = .unit k (some (.lookup (.ok (.ok (.available item))))) →
        ∀ u, r.pipeline.dispatch.units[k]? = some u → item = .specimen u.id := by
  cases asks with
  | bare =>
    obtain ⟨spared, sound, unfilled, uncancelled, unanswered⟩ := Act.bare_sound running
    exact ⟨spared, sound, unfilled, uncancelled, healthy, fun k item hi => absurd hi (unanswered k _)⟩
  | maximum =>
    obtain ⟨healthy, result, answer⟩ := Feed.maximum_sound healthy
    rw [answer]
    exact ⟨rfl, rfl, rfl, by simp, healthy, fun k item hi => by cases hi⟩
  | @lookup k u there =>
    obtain ⟨healthy, result, answer, found⟩ :=
      Feed.lookup_sound healthy (bounded u (List.mem_of_getElem? there))
    rw [answer]
    refine ⟨rfl, rfl, rfl, by simp, healthy, ?_⟩
    rintro k item hi v hv
    cases hi
    cases there.symm.trans hv
    exact found item rfl
  | execute => exact ⟨rfl, rfl, rfl, by simp, healthy, fun k item hi => by cases hi⟩

/-- The storage is given samples only, and counts the executions that are answered. -/
theorem Asks.attempts (asks : Asks loops r a s i) (running : a ≠ .turn .cancel)
    (statement : loops.statement = Storage.insertItem) (memory : r.storage.memory.Stocked)
    (samples : r.pipeline.HoldsSamples) :
    s.storage.memory.Stocked ∧ s.storage.memory.failing = r.storage.memory.failing ∧
      s.storage.memory.attempts =
        r.storage.memory.attempts ++ (r.pipeline.step loops i).2.flatMap Event.attempts := by
  have m : Pipeline.Move loops r.pipeline i _ _ := Pipeline.step_move r.pipeline i
  cases asks with
  | bare =>
    rw [m.attempts fun k answer => (Act.bare_sound running).2.2.2.2 k _, List.append_nil]
    exact ⟨memory, rfl, rfl⟩
  | maximum | lookup =>
    rw [m.attempts (by rintro k answer ⟨⟩), List.append_nil]
    exact ⟨memory, rfl, rfl⟩
  | @execute k u item since there storing =>
    obtain rfl := samples u (List.mem_of_getElem? there) item since storing
    obtain ⟨stocked, failing, attempts⟩ := memory.execute u.id
    have answered : (r.pipeline.step loops (.unit k (some (.execute (.ok
        (r.storage.memory.execute loops.statement (.specimen u.id)).2))))).2.flatMap
          Event.attempts = [u.id] := by
      simp only [Pipeline.step, Dispatch.pollUnit, there, UnitOfWork.poll, storing]
      cases (r.storage.memory.execute loops.statement (.specimen u.id)).2 <;> rfl
    rw [answered, statement]
    exact ⟨stocked, failing, attempts⟩

/-- An input extends the run, if what is answered is as it should be. -/
theorem Stocking.extend (h : Stocking loops p failing r inputs) (fresh : p.IsFresh)
    (asks : Asks loops r a s i) (running : a ≠ .turn .cancel)
    (bounded : ∀ id ∈ (p.run loops inputs).entered, Item.HasSample id)
    (statement : loops.statement = Storage.insertItem) :
    Stocking loops p failing (s.apply loops i) (inputs ++ [i]) := by
  have plays := asks.plays h.toPlays
  have proper : ∀ u ∈ r.pipeline.dispatch.units, u.phase.isProper = true := by
    rw [h.pipeline]
    exact Pipeline.proper_run loops fresh.units inputs
  have hasSample : ∀ u ∈ r.pipeline.dispatch.units, Item.HasSample u.id := by
    have custody : Custody (p.run loops inputs).events _ _ := Pipeline.custody_run fresh h.spared
    intro u hu
    rw [h.pipeline] at hu
    apply bounded
    rw [Pipeline.Run.entered, Pipeline.Run.collect, custody.entered]
    simp only [List.mem_append]
    exact .inl (.inl (.inl (List.mem_map_of_mem hu)))
  obtain ⟨spared, sound, unfilled, uncancelled, healthy, found⟩ := asks.sound running h.healthy hasSample
  obtain ⟨stocked, failing, attempts⟩ := asks.attempts running statement h.memory h.samples
  have kept : s.pipeline = r.pipeline ∧ s.events = r.events := by
    cases asks <;> exact ⟨rfl, rfl⟩
  constructor
  case toPlays => exact plays
  case spared => exact List.forall_mem_append.2 ⟨h.spared, List.forall_mem_singleton.2 spared⟩
  case sound => exact List.forall_mem_append.2 ⟨h.sound, List.forall_mem_singleton.2 sound⟩
  case unfilled =>
    exact List.forall_mem_append.2 ⟨h.unfilled, List.forall_mem_singleton.2 unfilled⟩
  case running =>
    rw [List.mem_append, List.mem_singleton, not_or]
    exact ⟨h.running, uncancelled.symm⟩
  case healthy => exact healthy
  case samples =>
    have m : Pipeline.Move loops r.pipeline i _ _ := Pipeline.step_move r.pipeline i
    have held := m.holdsSamples proper h.samples found
    rw [← kept.1] at held
    exact held
  case memory => exact stocked
  case failing => exact failing.trans h.failing
  case attempts =>
    have events : (s.apply loops i).events = s.events ++ (s.pipeline.step loops i).2 := by
      simp [Rehearsal.events, apply, Function.comp_def]
    rw [events, List.flatMap_append, kept.1, kept.2, ← h.attempts]
    exact attempts

/-- If no shutdown is asked for and all that was sent has samples, acts keep what is so. -/
theorem stocking_perform (h : Stocking loops p failing r []) (fresh : p.IsFresh)
    (statement : loops.statement = Storage.insertItem) {acts : List Act}
    (running : .turn .cancel ∉ acts) :
    ∃ inputs, Plays loops p (r.perform loops acts) inputs ∧
      ((∀ id ∈ (p.run loops inputs).entered, Item.HasSample id) →
        Stocking loops p failing (r.perform loops acts) inputs) := by
  induction acts using List.reverseRecOn with
  | nil => exact ⟨[], h.toPlays, fun _ => h⟩
  | append_singleton acts a ih =>
    rw [List.mem_append, List.mem_singleton, not_or] at running
    obtain ⟨inputs, plays, stocking⟩ := ih running.1
    have asks := input_asks loops (r.perform loops acts) a
    rw [perform_concat]
    refine ⟨_, asks.plays plays, fun bounded => ?_⟩
    -- What had been sent before this act is among what has been sent.
    have earlier : ∀ id ∈ (p.run loops inputs).entered, Item.HasSample id := by
      intro id hid
      apply bounded
      rw [Pipeline.run_concat, Pipeline.Run.entered, Pipeline.Run.collect_step]
      exact List.mem_append_left _ hid
    exact (stocking earlier).extend fresh asks (Ne.symm running.2) earlier statement

end Rehearsal
end FeedIngest
