import FeedIngest.Proofs.Custody
import FeedIngest.Proofs.Permits

/-! The end of a dispatcher. Having left its loop it waits for all permits, and starts no unit of
work. If it returns before the shutdown timeout is over, it has had all permits at once, so that
all units it ever started have ended, those of its earlier runs among them. -/

namespace FeedIngest

/-- Whether the dispatcher is run once more. -/
def Pipeline.Input.isAgain : Input → Bool
  | runAgain _ => true
  | _ => false

namespace Dispatch

variable {loops : Loops} {now : Nat} {cancelled : Bool} {channel : Channel} {n due : Nat}
  {d : Dispatch} {s : Step}

/-- What is spawned is a new unit of work. -/
theorem Move.spawned (m : Move loops now cancelled channel d s) :
    d.units.map UnitOfWork.id ++ s.events.flatMap Event.spawns =
      s.dispatch.units.map UnitOfWork.id := by
  cases m with
  | leave _ closing =>
    rw [Custody.closing_spawns closing]
    exact List.append_nil _
  | forgo _ closing =>
    rw [List.flatMap_cons, Custody.closing_spawns closing]
    exact List.append_nil _
  | spawn =>
    rw [List.map_append]
    rfl
  | _ => exact List.append_nil _

/-- Nothing is spawned while the dispatcher waits for its units. -/
theorem Move.unspawned (m : Move loops now cancelled channel d s) (h : d.phase = .draining due) :
    s.events.flatMap Event.spawns = [] := by
  cases m with
  | finish | linger | timeOut | underflow | rest => rfl
  | start | receive | leave | forgo | spawn | await => cases h

/-- It waits until the same time all along. -/
theorem Move.drains (m : Move loops now cancelled channel d s) (h : d.phase = .draining due)
    (live : ∀ fault, s.dispatch.phase ≠ .crashed fault) :
    s.dispatch.phase = .draining due ∨ s.dispatch.phase = .returned := by
  cases m with
  | rest | linger => exact .inl h
  | finish | timeOut => exact .inr rfl
  | underflow => exact absurd rfl (live _)
  | start | receive | leave | forgo | spawn | await => cases h

theorem Move.returned (m : Move loops now cancelled channel d s) (h : d.phase = .returned) :
    s.dispatch.phase = .returned := by
  cases m with
  | rest => exact h
  | _ => cases h

/-- Leaving its loop, it sets the time until which it waits. -/
theorem Move.closes (m : Move loops now cancelled channel d s) (h : d.phase.isServing = true)
    (left : s.dispatch.phase.isServing = false)
    (live : ∀ fault, s.dispatch.phase ≠ .crashed fault) :
    s.dispatch.phase = .draining (loops.timer.due now loops.shutdownTimeout) := by
  have closed {p : Permits} {phase : Phase} {tail : List Event}
      (closing : Closing loops now p phase tail) (live : ∀ fault, phase ≠ .crashed fault) :
      phase = .draining (loops.timer.due now loops.shutdownTimeout) := by
    cases closing with
    | wait => rfl
    | underflow => exact absurd rfl (live _)
  cases m with
  | leave _ closing | forgo _ closing => exact closed closing live
  | rest => rw [h] at left; cases left
  | start | receive | spawn | await => cases left
  | finish | linger | timeOut | underflow => cases h

/-- If it returns before that time, it has had all permits at once. -/
theorem Move.acquires (m : Move loops now cancelled channel d s) (h : d.phase = .draining due)
    (returned : s.dispatch.phase = .returned) (early : now < due) :
    ∃ p', d.permits.acquire d.permits.total = (p', true) ∧
      s.dispatch = ⟨.returned, p'.restore p'.total, d.units⟩ := by
  cases m with
  | finish got => exact ⟨_, got, rfl⟩
  | timeOut missed late => cases h; exact absurd early (Nat.not_lt_of_le late)
  | rest => rw [h] at returned; cases returned
  | leave | forgo => cases h
  | _ => cases returned

/-- The permits that are out can be counted. -/
theorem Balanced.inFlight? {p : Permits} (total : p.total = n) (sum : p.free ≤ n) :
    ∃ out, p.inFlight? = some out := by
  have le : p.available ≤ p.total := by
    unfold Permits.free at sum
    omega
  exact ⟨p.total - p.available, if_pos le⟩

theorem Balanced.free_le (h : Balanced n d) : d.permits.free ≤ n := by
  have := h.sum
  omega

/-- No count of permits makes the dispatcher crash. -/
theorem Balanced.uncrashed (h : Balanced n d) (m : Move loops now cancelled channel d s)
    (live : ∀ fault, d.phase ≠ .crashed fault) : ∀ fault, s.dispatch.phase ≠ .crashed fault := by
  have counted {p : Permits} (total : p.total = d.permits.total) (free : p.free = d.permits.free)
      (out : p.inFlight? = none) : False := by
    obtain ⟨out', ho⟩ := Balanced.inFlight? (total.trans h.total) (free ▸ h.free_le)
    rw [out] at ho
    cases ho
  have closed {p : Permits} {phase : Phase} {tail : List Event}
      (total : p.total = d.permits.total) (free : p.free = d.permits.free)
      (closing : Closing loops now p phase tail) : ∀ fault, phase ≠ .crashed fault := by
    cases closing with
    | wait => rintro fault ⟨⟩
    | underflow out => exact (counted total free out).elim
  cases m with
  | rest => exact live
  | leave _ closing => exact closed rfl rfl closing
  | @forgo p _ _ _ _ _ closing => exact closed p.total_forgo p.free_forgo closing
  | @underflow p p' units due missed late out =>
    have htotal : p.total = n := h.total
    rw [htotal] at missed
    obtain ⟨ht, -, hf, -⟩ := Permits.acquire_missed h.waits missed
    exact (counted (p'.total_forgo.trans ht) (p'.free_forgo.trans hf) out).elim
  | start | receive | spawn | await | finish | linger | timeOut => rintro fault ⟨⟩

/-- Having all permits, no unit of work is running. -/
theorem Balanced.settled {p' : Permits} (h : Balanced n d)
    (got : d.permits.acquire d.permits.total = (p', true))
    (waits : d.phase.needs n = some n) :
    d.running = [] ∧ (p'.restore p'.total).available = n ∧ (p'.restore p'.total).total = n := by
  rw [h.total] at got
  obtain ⟨ht, hw, hf⟩ := Permits.acquire_got (waits ▸ h.waits) got
  have sum := h.sum
  have total : p'.total = n := ht.trans h.total
  refine ⟨List.eq_nil_of_length_eq_zero (by omega), ?_, total⟩
  show p'.available + p'.total = n
  unfold Permits.free at hf sum
  omega

end Dispatch

namespace Pipeline

variable {loops : Loops} {p q : Pipeline} {i : Input} {inputs during : List Input}
  {events es : List Event} {n due : Nat}

/-- What was spawned is what there are units of work for. -/
theorem spawned_run (loops : Loops) (h : p.dispatch.units = []) (inputs : List Input) :
    (p.run loops inputs).spawned =
      (p.run loops inputs).pipeline.dispatch.units.map UnitOfWork.id := by
  apply run_induction
    (P := fun q es => es.flatMap Event.spawns = q.dispatch.units.map UnitOfWork.id)
  · rw [h]
    rfl
  intro p i q events es _ m h
  rw [List.flatMap_append, h]
  cases m with
  | discovery task =>
    rw [Event.spawns_discovery.flatMap (Discovery.isOf_of_move task)]
    exact List.append_nil _
  | unit there same task =>
    rw [Event.spawns_unit.flatMap (UnitOfWork.isOf_of_move task), List.append_nil]
    exact (UnitOfWork.map_id_set there same).symm
  | dispatch task => exact task.spawned
  | _ => exact List.append_nil _

theorem Move.uncrashed (m : Move loops p i q events) (h : p.dispatch.Balanced n)
    (live : ∀ fault, p.dispatch.phase ≠ .crashed fault) :
    ∀ fault, q.dispatch.phase ≠ .crashed fault := by
  cases m with
  | dispatch task => exact h.uncrashed task live
  | runAgain => rintro fault ⟨⟩
  | _ => exact live

/-- The dispatcher does not crash, whatever happens. -/
theorem uncrashed_run (loops : Loops) (h : p.dispatch.Balanced n)
    (live : ∀ fault, p.dispatch.phase ≠ .crashed fault) (inputs : List Input) :
    ∀ fault, (p.run loops inputs).pipeline.dispatch.phase ≠ .crashed fault := by
  induction inputs using List.reverseRecOn with
  | nil => exact live
  | append_singleton inputs i ih =>
    rw [run_concat, Run.pipeline_step]
    exact (step_move _ i).uncrashed (balanced_run loops h inputs) ih

theorem Move.unspawned (m : Move loops p i q events) (h : p.dispatch.phase = .draining due) :
    events.flatMap Event.spawns = [] := by
  cases m with
  | discovery task => exact Event.spawns_discovery.flatMap (Discovery.isOf_of_move task)
  | unit there same task => exact Event.spawns_unit.flatMap (UnitOfWork.isOf_of_move task)
  | dispatch task => exact task.unspawned h
  | _ => rfl

theorem Move.drains (m : Move loops p i q events) (single : i.isAgain = false)
    (live : ∀ fault, q.dispatch.phase ≠ .crashed fault)
    (h : p.dispatch.phase = .draining due ∨ p.dispatch.phase = .returned) :
    q.dispatch.phase = .draining due ∨ q.dispatch.phase = .returned := by
  cases m with
  | dispatch task =>
    rcases h with draining | returned
    · exact task.drains draining live
    · exact .inr (task.returned returned)
  | runAgain => cases single
  | _ => exact h

/-- Once it waits, it goes on waiting until the same time or returns. -/
theorem draining_run (loops : Loops) (h : p.dispatch.Balanced n)
    (hp : p.dispatch.phase = .draining due) (once : ∀ i ∈ during, i.isAgain = false) :
    (p.run loops during).pipeline.dispatch.phase = .draining due ∨
      (p.run loops during).pipeline.dispatch.phase = .returned := by
  induction during using List.reverseRecOn with
  | nil => exact .inl hp
  | append_singleton during i ih =>
    have before := ih fun j hj => once j (List.mem_append_left _ hj)
    have live : ∀ fault, (p.run loops (during ++ [i])).pipeline.dispatch.phase ≠ .crashed fault :=
      uncrashed_run loops h (by rw [hp]; rintro fault ⟨⟩) _
    rw [run_concat, Run.pipeline_step] at live ⊢
    exact (step_move _ i).drains (once i List.mem_concat_self) live before

/-- What the wait of a dispatcher, after it has been run any number of times, comes to. -/
structure Settles (loops : Loops) (limit : Nat) (p : Pipeline) (inputs : List Input) : Prop where
  /-- It can always tell how many permits are out. -/
  counted : ∃ out, (p.run loops inputs).pipeline.dispatch.permits.inFlight? = some out
  uncrashed : ∀ fault, (p.run loops inputs).pipeline.dispatch.phase ≠ .crashed fault
  /-- It starts nothing while it waits. -/
  unspawned : ∀ {due} i, (p.run loops inputs).pipeline.dispatch.phase = .draining due →
    (p.run loops (inputs ++ [i])).spawned = (p.run loops inputs).spawned
  /-- If it waits since it left its loop, with a timer that keeps time, and returns before the
  timeout has passed, then all units of work have ended and all permits are available. -/
  settled : ∀ {before during}, inputs = before ++ .dispatch :: during →
    (∀ i ∈ during, i.isAgain = false) →
    (p.run loops before).pipeline.dispatch.phase.isServing = true →
    (p.run loops (before ++ [.dispatch])).pipeline.dispatch.phase.isServing = false →
    (p.run loops inputs).pipeline.dispatch.phase ≠ .returned →
    (p.run loops (inputs ++ [.dispatch])).pipeline.dispatch.phase = .returned →
    loops.timer.Keeps (p.run loops before).pipeline.now loops.shutdownTimeout →
    ¬ loops.shutdownTimeout.Passed (p.run loops before).pipeline.now
      (p.run loops inputs).pipeline.now →
    let d := (p.run loops (inputs ++ [.dispatch])).pipeline.dispatch
    d.units.map UnitOfWork.id = (p.run loops inputs).spawned ∧ d.running = [] ∧
      d.permits.available = max 1 (min limit 4294967295) ∧
      d.permits.total = max 1 (min limit 4294967295)

variable {before : List Input}

/-- The time until which it waits is set by the step in which it leaves its loop. -/
theorem draining_since (h : p.dispatch.Balanced n)
    (live : ∀ fault, p.dispatch.phase ≠ .crashed fault)
    (once : ∀ i ∈ during, i.isAgain = false)
    (serving : (p.run loops before).pipeline.dispatch.phase.isServing = true)
    (left : (p.run loops (before ++ [.dispatch])).pipeline.dispatch.phase.isServing = false)
    (waiting : (p.run loops (before ++ .dispatch :: during)).pipeline.dispatch.phase ≠ .returned) :
    (p.run loops (before ++ .dispatch :: during)).pipeline.dispatch.phase = .draining
      (loops.timer.due (p.run loops before).pipeline.now loops.shutdownTimeout) := by
  have balanced := balanced_run loops h (before ++ [.dispatch])
  have uncrashed := uncrashed_run loops h live (before ++ [.dispatch])
  have closes : (p.run loops (before ++ [.dispatch])).pipeline.dispatch.phase = .draining
      (loops.timer.due (p.run loops before).pipeline.now loops.shutdownTimeout) := by
    rw [run_concat] at left uncrashed ⊢
    exact (Dispatch.poll_move _).closes serving left uncrashed
  rw [List.append_cons, run_append, pipeline_resume] at waiting ⊢
  exact (draining_run loops balanced closes once).resolve_right waiting

/-- However large the limit, and whatever happens in whatever order. -/
theorem settles (loops : Loops) (limit : Nat) (p : Pipeline) (inputs : List Input) :
    Settles loops limit { p with dispatch := .start limit } inputs := by
  have start : ({ p with dispatch := .start limit } : Pipeline).dispatch.Balanced
      (max 1 (min limit 4294967295)) := Dispatch.balanced_start limit
  have live : ∀ fault, ({ p with dispatch := .start limit } : Pipeline).dispatch.phase ≠
      .crashed fault := by rintro fault ⟨⟩
  have none : ({ p with dispatch := .start limit } : Pipeline).dispatch.units = [] := rfl
  generalize ({ p with dispatch := .start limit } : Pipeline) = p at start live none
  have balanced := balanced_run loops start inputs
  refine ⟨?counted, uncrashed_run loops start live inputs, ?unspawned, ?settled⟩
  case counted => exact Dispatch.Balanced.inFlight? balanced.total balanced.free_le
  case unspawned =>
    intro due i draining
    rw [run_concat, Run.spawned, Run.collect_step, (step_move _ i).unspawned draining]
    exact List.append_nil _
  case settled =>
    rintro before during rfl once serving left waiting returned keeps early
    have draining := draining_since start live once serving left waiting
    have ahead := Nat.lt_of_not_le (mt (keeps _).1 early)
    rw [run_concat] at returned ⊢
    obtain ⟨p', got, hd⟩ := (Dispatch.poll_move _).acquires draining returned ahead
    obtain ⟨ended, available, total⟩ := balanced.settled got (by rw [draining]; rfl)
    have spawned := spawned_run loops none (before ++ .dispatch :: during)
    rw [Run.pipeline_step, step, hd]
    exact ⟨spawned.symm, ended, available, total⟩

/-- A unit of work is started, and then no one else will send. -/
def loneBefore : List Input := [.send ⟨1⟩, .dispatch, .dispatch, .dispatch, .stopSending]

/-- The dispatcher is to wait for up to thirty seconds. The unit of work ends after twenty. -/
def loneDuring : List Input :=
  [.unit 0 none, .unit 0 (some (.lookup (.ok (.ok (.available ⟨⟨1⟩, none, none, ""⟩))))), .dispatch,
    .advance 20000, .unit 0 (some (.execute (.ok (.ok ()))))]

/-- It returns at once then, with its only permit back. -/
theorem settles_lone :
    let p := dispatchOnly 1 1
    let inputs := loneBefore ++ .dispatch :: loneDuring
    Settles .sample 1 p inputs ∧
      (∀ i ∈ loneDuring, i.isAgain = false) ∧
      (p.run .sample loneBefore).pipeline.dispatch.phase.isServing = true ∧
      (p.run .sample (loneBefore ++ [.dispatch])).pipeline.dispatch.phase.isServing = false ∧
      (p.run .sample inputs).pipeline.dispatch.phase ≠ .returned ∧
      (p.run .sample (inputs ++ [.dispatch])).pipeline.dispatch.phase = .returned ∧
      Loops.sample.timer.Keeps (p.run .sample loneBefore).pipeline.now
        Loops.sample.shutdownTimeout ∧
      ¬ Loops.sample.shutdownTimeout.Passed (p.run .sample loneBefore).pipeline.now
        (p.run .sample inputs).pipeline.now ∧
      (p.run .sample (inputs ++ [.dispatch])).spawned = [⟨1⟩] ∧
      (p.run .sample (inputs ++ [.dispatch])).pipeline.dispatch.permits.available = 1 :=
  ⟨settles .sample 1 (dispatchOnly 1 1) _, by decide, rfl, rfl, by decide, by decide,
    Timer.wheel_keeps (by decide), by decide, by decide, by decide⟩

end Pipeline
end FeedIngest
