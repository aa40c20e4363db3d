import FeedIngest.Proofs.Item.Sample
import FeedIngest.Proofs.Moves
import FeedIngest.Rehearsal.Timeline

/-! Rehearsals as runs of the pipeline. Besides its turns, someone else may send in a rehearsal.
Each such act gives the pipeline one input, whose answer comes from the feed or the storage, so
that the whole is the run of some inputs. Turns in any order are acts, and so is what the virtual
clock plays. -/

namespace FeedIngest.Rehearsal

/-- A turn, or what is done at the sending end of the channel. -/
inductive Act
  | turn (t : Turn)
  | send (id : ItemId)
  | stopSending
  deriving DecidableEq

namespace Act

/-- The input of an act, with the calls answered. -/
def input (loops : Loops) (r : Rehearsal) : Act → Rehearsal × Pipeline.Input
  | turn t => r.input loops t
  | send id => (r, .send id)
  | stopSending => (r, .stopSending)

/-- The input of an act, if no call is answered. -/
def bare : Act → Pipeline.Input
  | turn (.advance ticks) => .advance ticks
  | turn .cancel => .cancel
  | turn .discovery => .discovery none
  | turn .dispatch => .dispatch
  | turn (.unit index) => .unit index none
  | send id => .send id
  | stopSending => .stopSending

end Act

/-- The rehearsal after an act. -/
def act (loops : Loops) (r : Rehearsal) (a : Act) : Rehearsal :=
  let (r, i) := a.input loops r
  r.apply loops i

/-- The rehearsal after acts in any order. -/
def perform (loops : Loops) (r : Rehearsal) (acts : List Act) : Rehearsal :=
  acts.foldl (act loops) r

variable {loops : Loops} {r : Rehearsal} {a : Act} {acts : List Act}

theorem perform_concat (acts : List Act) (a : Act) :
    r.perform loops (acts ++ [a]) = (r.perform loops acts).act loops a := by
  simp [perform]

/-- Turns are acts like any others. -/
theorem run_eq_perform (turns : List Turn) :
    r.run loops turns = r.perform loops (turns.map .turn) := by
  rw [run, perform, List.foldl_map]
  rfl

theorem exists_run_of_step {s : Rehearsal} (t : Turn)
    (later : ∃ played, s = (r.step loops t).run loops played) :
    ∃ played, s = r.run loops played := by
  obtain ⟨played, same⟩ := later
  exact ⟨t :: played, same⟩

/-- What is played on the virtual clock is a run of turns, whatever limits it has. -/
theorem exists_run_play (loops : Loops) (limit : Option Nat) (stop : Rehearsal → Bool)
    (fuel : Nat) (turns : List Turn) (r : Rehearsal) :
    ∃ played, play loops limit stop fuel turns r = r.run loops played := by
  fun_induction play loops limit stop fuel turns r with
  | case1 | case2 | case5 | case6 => exact ⟨[], rfl⟩
  | case3 _ turn _ _ _ _ later => exact exists_run_of_step turn later
  | case4 _ _ _ _ _ _ later => exact later
  | case7 | case10 => exact ⟨[.advance _], rfl⟩
  | case8 _ r _ next none _ later =>
    subst none
    exact exists_run_of_step (.advance (next - r.pipeline.now)) later
  | case9 _ r _ next _ some _ _ later =>
    subst some
    exact exists_run_of_step (.advance (next - r.pipeline.now)) later

/-- An act has nothing answered, or one call by the feed or the storage. -/
inductive Asks (loops : Loops) (r : Rehearsal) : Act → Rehearsal → Pipeline.Input → Prop
  | bare {a : Act} : Asks loops r a r a.bare
  | maximum : Asks loops r (.turn .discovery) { r with feed := r.feed.maximum.1 }
      (.discovery (some r.feed.maximum.2))
  | lookup {k : Nat} {u : UnitOfWork} (there : r.pipeline.dispatch.units[k]? = some u) :
    Asks loops r (.turn (.unit k)) { r with feed := (r.feed.lookup u.id).1 }
      (.unit k (some (.lookup (r.feed.lookup u.id).2)))
  | execute {k : Nat} {u : UnitOfWork} {item : Item} {since : Nat}
    (there : r.pipeline.dispatch.units[k]? = some u) (storing : u.phase = .storing item since) :
    Asks loops r (.turn (.unit k))
      { r with storage := { r.storage with
          memory := (r.storage.memory.execute loops.statement item).1 } }
      (.unit k (some (.execute (.ok (r.storage.memory.execute loops.statement item).2))))

theorem input_asks (loops : Loops) (r : Rehearsal) (a : Act) :
    Asks loops r a (a.input loops r).1 (a.input loops r).2 := by
  match a with
  | .send id | .stopSending | .turn (.advance _) | .turn .cancel | .turn .dispatch => exact .bare
  | .turn .discovery =>
    simp only [Act.input, input, answerDiscovery]
    split
    all_goals first | exact .bare | (split <;> first | exact .maximum | exact .bare)
  | .turn (.unit k) =>
    simp only [Act.input, input]
    split
    case h_1 => exact .bare
    case h_2 u there =>
      unfold answerUnit
      split
      case h_1 =>
        split
        case isTrue => exact .lookup there
        case isFalse => exact .bare
      case h_2 storing =>
        split
        case isTrue => exact .execute there storing
        case isFalse => exact .bare
      case h_3 => exact .bare

/-- What has happened in a rehearsal is the run of some inputs. -/
structure Plays (loops : Loops) (p : Pipeline) (r : Rehearsal) (inputs : List Pipeline.Input) :
    Prop where
  pipeline : r.pipeline = (p.run loops inputs).pipeline
  events : r.events = (p.run loops inputs).events

theorem Asks.plays {p : Pipeline} {s : Rehearsal} {i : Pipeline.Input}
    {inputs : List Pipeline.Input} (asks : Asks loops r a s i) (h : Plays loops p r inputs) :
    Plays loops p (s.apply loops i) (inputs ++ [i]) := by
  have same : s.pipeline = r.pipeline ∧ s.trace = r.trace := by
    cases asks <;> exact ⟨rfl, rfl⟩
  have events : r.events = _ := h.events
  constructor
  · rw [Pipeline.run_concat, Pipeline.Run.pipeline_step, ← h.pipeline, ← same.1]
    rfl
  · rw [Pipeline.run_concat, Pipeline.Run.events_step, ← h.pipeline, ← events, ← same.1]
    simp [Rehearsal.events, apply, same.2, Function.comp_def]

end FeedIngest.Rehearsal
