import FeedIngest.Pipeline
import Mathlib.Data.List.Induction

/-! What the events of a run tell, read off one event after the other: the identifiers that
were announced, put on the channel, given to a unit of work, stored or abandoned, and the
answers that discovery has had. The watermark is told by them too, also after discovery has
ended and no longer holds it. An invariant of a run is one of its start that every step keeps. -/

namespace FeedIngest

namespace Event

/-- The identifiers that discovery puts on the channel. -/
def announces : Event → List ItemId
  | announced id => [id]
  | _ => []

/-- The identifiers that are put on the channel, by discovery or by another sender. -/
def enters : Event → List ItemId
  | announced id | sent id => [id]
  | _ => []

def spawns : Event → List ItemId
  | spawned id => [id]
  | _ => []

/-- The identifiers whose item is to be stored. -/
def executes : Event → List ItemId
  | executeCalled id _ _ => [id]
  | _ => []

def stores : Event → List ItemId
  | executeAnswered id (.ok _) => [id]
  | _ => []

/-- The identifiers whose item the storage did not take. -/
def refuses : Event → List ItemId
  | executeAnswered id (.error _) => [id]
  | _ => []

def abandons : Event → List ItemId
  | abandoned ids => ids
  | _ => []

/-- The answers to calls for the maximum. -/
def answers : Event → List (Except FeedError ItemId)
  | maximumAnswered result => [result]
  | _ => []

/-- The maxima that were read. -/
def maxima : Event → List ItemId
  | maximumAnswered (.ok max) => [max]
  | _ => []

/-- Who does things: one of the tasks, or someone outside. -/
inductive Actor
  | discovery
  | dispatch
  | unit
  | outside

/-- The events that an actor can cause. -/
def isOf : Actor → Event → Bool
  | .discovery, maximumCalled | .discovery, maximumAnswered _ | .discovery, announced _
  | .discovery, waiting _ | .discovery, reported _ | .discovery, polled _
  | .discovery, measured (.watermark _) | .discovery, discoveryEnded _
  | .discovery, crashed _ => true
  | .dispatch, received _ | .dispatch, spawned _ | .dispatch, abandoned _
  | .dispatch, measured (.saturation _) | .dispatch, dispatchEnded | .dispatch, crashed _ => true
  | .unit, lookupCalled _ | .unit, lookupAnswered _ _ | .unit, waiting _
  | .unit, executeCalled _ _ _ | .unit, executeAnswered _ _ | .unit, abandoned _
  | .unit, measured (.processed _) | .unit, crashed _ => true
  | .outside, sent _ | .outside, taken _ => true
  | _, _ => false

/-- Nothing that an actor causes is told. -/
def Silent {α : Type} (f : Event → List α) (a : Actor) : Prop := ∀ e, e.isOf a = true → f e = []

theorem Silent.flatMap {α : Type} {f : Event → List α} {a : Actor} {es : List Event}
    (h : Silent f a) (he : ∀ e ∈ es, e.isOf a = true) : es.flatMap f = [] :=
  List.flatMap_eq_nil_iff.2 fun e hm => h e (he e hm)

theorem enters_dispatch : Silent enters .dispatch := by
  intro e h
  cases e <;> first | rfl | cases h

theorem enters_unit : Silent enters .unit := by
  intro e h
  cases e <;> first | rfl | cases h

theorem spawns_discovery : Silent spawns .discovery := by
  intro e h
  cases e <;> first | rfl | cases h

theorem spawns_unit : Silent spawns .unit := by
  intro e h
  cases e <;> first | rfl | cases h

theorem executes_dispatch : Silent executes .dispatch := by
  intro e h
  cases e <;> first | rfl | cases h

theorem stores_dispatch : Silent stores .dispatch := by
  intro e h
  cases e <;> first | rfl | cases h

theorem refuses_dispatch : Silent refuses .dispatch := by
  intro e h
  cases e <;> first | rfl | cases h

/-- The first maximum is the watermark, and announcing moves it. -/
def moveMark (mark : Option Watermark) : Event → Option Watermark
  | maximumAnswered (.ok max) => some (mark.getD ⟨max⟩)
  | announced id => mark.map fun w => (w.advancePast? id).getD w
  | _ => mark

end Event

namespace Pipeline.Input

/-- Whether the receiving end is left to the dispatcher, which is run once. -/
def sparesReceiver : Input → Bool
  | take | close | runAgain _ => false
  | _ => true

/-- Whether the channel is left to the two loops. -/
def isInternal : Input → Bool
  | reserve | push _ | send _ | stopSending => false
  | i => i.sparesReceiver

/-- Whether a call of the feed or the storage is answered with a crash. -/
def crashes : Input → Bool
  | discovery (some (.error _)) => true
  | unit _ (some (.lookup (.error _))) => true
  | unit _ (some (.execute (.error _))) => true
  | _ => false

/-- Who takes a step. -/
def actor : Input → Event.Actor
  | discovery _ => .discovery
  | dispatch => .dispatch
  | unit _ _ => .unit
  | _ => .outside

theorem sparesReceiver_of_isInternal {i : Input} (h : i.isInternal) : i.sparesReceiver := by
  cases i <;> simp_all [isInternal, sparesReceiver]

end Pipeline.Input

/-- Loops for runs that are written out: a poll each second, and a calendar that stands still. -/
def Loops.sample : Loops :=
  ⟨.standard, .ofSeconds 1, .ofSeconds 30, Storage.insertItem, .ofSeconds 60, .wheel 0,
    fun _ => ⟨0⟩⟩

namespace Pipeline.Run

variable {α : Type} {loops : Loops} {r : Run} {i : Input}

/-- What all events of a run tell, in order. -/
def collect (f : Event → List α) (r : Run) : List α := r.events.flatMap f

abbrev announced (r : Run) : List ItemId := r.collect Event.announces
abbrev entered (r : Run) : List ItemId := r.collect Event.enters
abbrev spawned (r : Run) : List ItemId := r.collect Event.spawns
abbrev executed (r : Run) : List ItemId := r.collect Event.executes
abbrev stored (r : Run) : List ItemId := r.collect Event.stores
abbrev refused (r : Run) : List ItemId := r.collect Event.refuses
abbrev abandoned (r : Run) : List ItemId := r.collect Event.abandons
abbrev answers (r : Run) : List (Except FeedError ItemId) := r.collect Event.answers
abbrev maxima (r : Run) : List ItemId := r.collect Event.maxima

/-- A run that goes on. -/
def resume (loops : Loops) (r : Run) (more : List Input) : Run := more.foldl (Run.step loops) r

/-- The watermark, once there is one. -/
def mark? (r : Run) : Option Watermark := r.events.foldl Event.moveMark none

@[simp] theorem pipeline_step : (r.step loops i).pipeline = (r.pipeline.step loops i).1 := rfl

@[simp] theorem events_step :
    (r.step loops i).events = r.events ++ (r.pipeline.step loops i).2 := by
  simp [events, step, Function.comp_def]

@[simp] theorem collect_start (f : Event → List α) (p : Pipeline) : collect f ⟨p, []⟩ = [] := rfl

@[simp] theorem collect_step (f : Event → List α) :
    (r.step loops i).collect f = r.collect f ++ (r.pipeline.step loops i).2.flatMap f := by
  simp [collect]

end Pipeline.Run

namespace Pipeline

variable {loops : Loops} {p : Pipeline} {inputs : List Input} {P : Run → Prop}

theorem run_append (p : Pipeline) (inputs more : List Input) :
    p.run loops (inputs ++ more) = (p.run loops inputs).resume loops more :=
  List.foldl_append

/-- More inputs go on from where a run has got, and add to what was done. -/
theorem resume_eq (r : Run) (more : List Input) :
    r.resume loops more = ⟨(r.pipeline.run loops more).pipeline,
      r.trace ++ (r.pipeline.run loops more).trace⟩ := by
  induction more using List.reverseRecOn with
  | nil => simp [Run.resume]
  | append_singleton more i ih =>
    rw [Run.resume, List.foldl_append, run_concat]
    show (r.resume loops more).step loops i = _
    rw [ih]
    simp only [Run.step, List.append_assoc]

theorem events_resume (r : Run) (more : List Input) :
    (r.resume loops more).events = r.events ++ (r.pipeline.run loops more).events := by
  rw [resume_eq]
  exact List.map_append

theorem pipeline_resume (r : Run) (more : List Input) :
    (r.resume loops more).pipeline = (r.pipeline.run loops more).pipeline := by
  rw [resume_eq]

/-- What some of the inputs of a run did, each where it stood. -/
def doneBy (loops : Loops) (own : Input → Bool) (p : Pipeline) : List Input → List Event
  | [] => []
  | i :: inputs =>
    (if own i then (p.step loops i).2 else []) ++ doneBy loops own (p.step loops i).1 inputs

theorem run_cons (p : Pipeline) (i : Input) (inputs : List Input) :
    (p.run loops (i :: inputs)).pipeline = ((p.step loops i).1.run loops inputs).pipeline := by
  rw [← List.singleton_append, run_append, pipeline_resume]
  rfl

theorem doneBy_concat (own : Input → Bool) (p : Pipeline) (inputs : List Input) (i : Input) :
    doneBy loops own p (inputs ++ [i]) = doneBy loops own p inputs ++
      if own i then ((p.run loops inputs).pipeline.step loops i).2 else [] := by
  induction inputs generalizing p with
  | nil => exact List.append_nil _
  | cons j inputs ih => rw [List.cons_append, doneBy, ih, doneBy, run_cons, List.append_assoc]

theorem run_invariant (h0 : P ⟨p, []⟩) (hs : ∀ r i, i ∈ inputs → P r → P (r.step loops i)) :
    P (p.run loops inputs) :=
  List.foldlRecOn inputs _ h0 fun r hr i hi => hs r i hi hr

end Pipeline
end FeedIngest
