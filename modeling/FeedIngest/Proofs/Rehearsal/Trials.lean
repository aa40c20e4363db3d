import FeedIngest.Proofs.Rehearsal.Stocking

/-! Trials: rehearsals that are played to their end without a shutdown. What they leave in the
storage depends on what was sent and on the writes that are refused, and on nothing else. -/

namespace FeedIngest.Rehearsal

/-- A rehearsal in which no shutdown is asked for: the loops, the pipeline at its start, the
feed and the storage, and what is done in which order. -/
structure Trial where
  loops : Loops
  pipeline : Pipeline
  feed : Feed
  /-- The identifiers whose writes the storage refuses. -/
  failing : List ItemId
  /-- How long executions take. -/
  delays : List (ItemId × Duration)
  acts : List Act
  statement : loops.statement = Storage.insertItem
  fresh : pipeline.IsFresh
  uncancelled : pipeline.cancelled = false
  healthy : feed.scripted.poisoned = false
  running : .turn .cancel ∉ acts

namespace Trial

/-- The rehearsal before anything is done. -/
def start (t : Trial) : Rehearsal :=
  ⟨t.pipeline, t.feed, ⟨(Storage.Memory.empty t.failing).setup, t.delays⟩, none, []⟩

/-- The rehearsal when all has been done. -/
def finish (t : Trial) : Rehearsal := t.start.perform t.loops t.acts

def IsDone (t : Trial) : Prop := t.finish.pipeline.IsDone

/-- What was put on the channel, in order. -/
def sent (t : Trial) : List ItemId := t.finish.events.flatMap Event.enters

def memory (t : Trial) : Storage.Memory := t.finish.storage.memory

variable {t : Trial}

theorem stocking_start (t : Trial) : Stocking t.loops t.pipeline t.failing t.start [] := by
  refine ⟨⟨rfl, rfl⟩, List.forall_mem_nil _, List.forall_mem_nil _, List.forall_mem_nil _,
    List.not_mem_nil, t.healthy, ?_, Storage.Memory.stocked_empty t.failing, rfl, rfl⟩
  have none : t.start.pipeline.dispatch.units = [] := t.fresh.units
  rw [Pipeline.HoldsSamples, none]
  exact List.forall_mem_nil _

theorem stocking (t : Trial) (bounded : ∀ id ∈ t.sent, Item.HasSample id) :
    ∃ inputs, Stocking t.loops t.pipeline t.failing t.finish inputs := by
  obtain ⟨inputs, plays, stocking⟩ :=
    stocking_perform t.stocking_start t.fresh t.statement t.running
  refine ⟨inputs, stocking ?_⟩
  rw [Pipeline.Run.entered, Pipeline.Run.collect, ← plays.events]
  exact bounded

/-- Once all is done, each send was one attempt. -/
theorem perm_attempts (bounded : ∀ id ∈ t.sent, Item.HasSample id) (done : t.IsDone) :
    t.memory.Stocked ∧ t.memory.failing = t.failing ∧ t.memory.attempts.Perm t.sent := by
  obtain ⟨inputs, h⟩ := t.stocking bounded
  refine ⟨h.memory, h.failing, ?_⟩
  unfold IsDone at done
  rw [h.pipeline] at done
  have settled := Pipeline.settled_run t.loops t.fresh h.spared h.sound
    (Pipeline.closingPrevents_of_fills h.unfilled) done
  rw [Pipeline.abandons_nothing_run t.loops t.fresh t.uncancelled h.sound h.running,
    List.append_nil] at settled
  have attempts : t.memory.attempts =
      (t.pipeline.run t.loops inputs).events.flatMap Event.attempts := by
    rw [← h.events]
    exact h.attempts
  rw [attempts, sent, h.events]
  exact (List.flatMap_append_perm _ Event.stores Event.refuses).symm.trans settled.symm

/-- What a trial leaves in the storage, and how that compares with other trials. -/
structure Result (t : Trial) : Prop where
  /-- The rows are the samples of what was sent and is not set to fail, by rising identifier. -/
  rows : ∃ ids : List ItemId, ids.Pairwise (· < ·) ∧
    (∀ id, id ∈ ids ↔ id ∈ t.sent ∧ id ∉ t.failing) ∧
    t.memory.rows.map Except.ok = ids.map Item.sample
  attempts : t.memory.attempts.Perm t.sent
  writtenOnce : t.memory.writeOrder.Nodup
  written : ∀ id, id ∈ t.memory.writeOrder ↔ id ∈ t.sent ∧ id ∉ t.failing
  /-- Nothing else matters for the rows. -/
  same : ∀ other : Trial, other.IsDone → (∀ id, id ∈ other.sent ↔ id ∈ t.sent) →
    (∀ id, id ∈ other.failing ↔ id ∈ t.failing) → other.memory.rows = t.memory.rows
  /-- If one more identifier is set to fail, only its row is missing. -/
  without : ∀ (x : ItemId) (other : Trial), other.IsDone →
    (∀ id, id ∈ other.sent ↔ id ∈ t.sent) →
    (∀ id, id ∈ other.failing ↔ id = x ∨ id ∈ t.failing) →
    other.memory.rows = t.memory.rows.filter (·.id ≠ x)

theorem mem_storedIds (bounded : ∀ id ∈ t.sent, Item.HasSample id) (done : t.IsDone) (id : ItemId) :
    id ∈ t.memory.storedIds ↔ id ∈ t.sent ∧ id ∉ t.failing := by
  obtain ⟨stocked, failing, attempts⟩ := perm_attempts bounded done
  rw [stocked.stored, failing, attempts.mem_iff]

/-- Rows of samples are known by their identifiers. -/
theorem rows_eq_filter {m n : Storage.Memory} (hm : m.Stocked) (hn : n.Stocked)
    (q : ItemId → Bool) (h : ∀ id, id ∈ n.storedIds ↔ id ∈ m.storedIds ∧ q id = true) :
    n.rows = m.rows.filter fun item => q item.id := by
  have ids : n.storedIds = m.storedIds.filter q := by
    apply hn.pairwise_storedIds.eq_of_mem_iff (hm.pairwise_storedIds.filter q)
    intro id
    rw [h, List.mem_filter]
  rw [hn.rows_eq, ids, hm.rows_eq, List.filter_map]
  rfl

/-- Whatever the limit, the waits, the feed's failures and the order of all steps, the storage
ends up with the samples of what was sent. -/
theorem ends_with_samples (bounded : ∀ id ∈ t.sent, Item.HasSample id) (done : t.IsDone) :
    t.Result := by
  obtain ⟨stocked, failing, attempts⟩ := perm_attempts bounded done
  have stored := mem_storedIds bounded done
  have compare {other : Trial} (hd : other.IsDone) (hs : ∀ id, id ∈ other.sent ↔ id ∈ t.sent) :
      other.memory.Stocked ∧
        ∀ id, id ∈ other.memory.storedIds ↔ id ∈ t.sent ∧ id ∉ other.failing := by
    have hb : ∀ id ∈ other.sent, Item.HasSample id := fun id hid => bounded id ((hs id).1 hid)
    refine ⟨(perm_attempts hb hd).1, fun id => ?_⟩
    rw [mem_storedIds hb hd, hs]
  constructor
  case attempts => exact attempts
  case writtenOnce => exact stocked.nodup_writeOrder
  case rows =>
    refine ⟨t.memory.storedIds, stocked.pairwise_storedIds, stored, ?_⟩
    rw [stocked.rows_eq, List.map_map]
    apply List.map_congr_left
    intro id hid
    exact (Item.sample_eq (bounded id ((stored id).1 hid).1)).symm
  case written =>
    intro id
    rw [stocked.written.mem_iff, stored]
  case same =>
    intro other hd hs hf
    obtain ⟨hm, ids⟩ := compare hd hs
    rw [rows_eq_filter stocked hm (fun _ => true) fun id => by rw [ids, stored, hf]; simp]
    simp
  case without =>
    intro x other hd hs hf
    obtain ⟨hm, ids⟩ := compare hd hs
    apply rows_eq_filter stocked hm (fun id => decide (id ≠ x))
    intro id
    rw [ids, stored, hf, decide_eq_true_eq, not_or]
    tauto

/-- With two units of work at a time, 1 is sent twice, and 2 and 3 once. The first lookup of 1
fails, 2 is not available at first, and writes of 3 are refused. -/
def sampleTrial : Trial where
  loops := .sample
  pipeline := .dispatchOnly 4 2
  feed := ⟨.ofScript [] [(⟨1⟩, 1)] [(⟨2⟩, 1)], [], .zero, [(⟨3⟩, .ofSeconds 1)], []⟩
  failing := [⟨3⟩]
  delays := [(⟨1⟩, .ofMillis 50)]
  acts := [.send ⟨1⟩, .send ⟨3⟩, .send ⟨2⟩, .send ⟨1⟩, .stopSending] ++
    [.dispatch, .dispatch, .dispatch, .dispatch, .dispatch, .unit 0, .unit 1, .unit 0,
      .advance 1000, .unit 1, .unit 1, .unit 0, .unit 0, .dispatch, .dispatch, .dispatch,
      .unit 2, .unit 2, .unit 0, .advance 1000, .unit 0, .dispatch, .unit 3, .unit 3,
      .unit 2, .unit 2, .unit 2, .unit 2, .advance 1000, .unit 3, .dispatch, .dispatch].map .turn
  statement := rfl
  fresh := ⟨rfl, rfl, rfl⟩
  uncancelled := rfl
  healthy := rfl
  running := by decide

theorem ends_with_samples_four :
    (∀ id ∈ sampleTrial.sent, Item.HasSample id) ∧ sampleTrial.IsDone ∧ sampleTrial.Result ∧
      sampleTrial.sent = [⟨1⟩, ⟨3⟩, ⟨2⟩, ⟨1⟩] ∧
      sampleTrial.memory.attempts = [⟨3⟩, ⟨1⟩, ⟨2⟩, ⟨1⟩] ∧
      sampleTrial.memory.writeOrder = [⟨1⟩, ⟨2⟩] := by
  have run : (∀ id ∈ sampleTrial.sent, Item.HasSample id) ∧
      (sampleTrial.finish.pipeline.dispatch.phase = .returned ∧
        sampleTrial.finish.pipeline.dispatch.running = []) ∧
      sampleTrial.sent = [⟨1⟩, ⟨3⟩, ⟨2⟩, ⟨1⟩] ∧
      sampleTrial.memory.attempts = [⟨3⟩, ⟨1⟩, ⟨2⟩, ⟨1⟩] ∧
      sampleTrial.memory.writeOrder = [⟨1⟩, ⟨2⟩] := by decide +kernel
  obtain ⟨bounded, done, sent, attempts, written⟩ := run
  exact ⟨bounded, done, ends_with_samples bounded done, sent, attempts, written⟩

end Trial
end FeedIngest.Rehearsal
