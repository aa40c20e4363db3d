import FeedIngest.Pipeline
import FeedIngest.Rehearsal.Feed
import FeedIngest.Rehearsal.Storage

/-! Rehearsals: the pipeline with a feed and a storage that stand in for the real ones. A turn
lets time pass, asks for a shutdown, or lets one task take a step, whose call is answered if
the answer is due by then. -/

namespace FeedIngest

structure Rehearsal where
  pipeline : Pipeline
  feed : Rehearsal.Feed
  storage : Rehearsal.Storage
  /-- When a shutdown will be asked for. -/
  cancelAt : Option Nat
  /-- What was done and when, latest first. -/
  trace : List (Nat × Event)

namespace Rehearsal

inductive Turn
  | advance (ticks : Nat)
  | cancel
  | discovery
  | dispatch
  | unit (index : Nat)
  deriving DecidableEq

/-- What the call of discovery comes to, if it is answered by now. -/
def answerDiscovery (r : Rehearsal) : Rehearsal × Option (Answer ItemId) :=
  let answer (since : Nat) :=
    if r.feed.maximumDue since ≤ r.pipeline.now && !r.pipeline.cancelled then
      let (feed, answer) := r.feed.maximum
      ({ r with feed }, some answer)
    else (r, none)
  match r.pipeline.discovery with
  | .awaiting _ since => answer since
  | .awaitingPoll _ since => answer since
  | _ => (r, none)

/-- What the call of a unit of work comes to, if it is answered by now. -/
def answerUnit (statement : String) (r : Rehearsal) (u : UnitOfWork) :
    Rehearsal × Option UnitOfWork.Reply :=
  match u.phase with
  | .fetching (.awaiting _ since) =>
    if r.feed.lookupDue u.id since ≤ r.pipeline.now && !r.pipeline.cancelled then
      let (feed, answer) := r.feed.lookup u.id
      ({ r with feed }, some (.lookup answer))
    else (r, none)
  | .storing item since =>
    if r.storage.executeDue item.id since ≤ r.pipeline.now then
      let (memory, answer) := r.storage.memory.execute statement item
      ({ r with storage := { r.storage with memory } }, some (.execute (.ok answer)))
    else (r, none)
  | _ => (r, none)

/-- The input of a turn, with the calls answered. -/
def input (loops : Loops) (r : Rehearsal) : Turn → Rehearsal × Pipeline.Input
  | .advance ticks => (r, .advance ticks)
  | .cancel => (r, .cancel)
  | .discovery =>
    let (r, answer) := r.answerDiscovery
    (r, .discovery answer)
  | .dispatch => (r, .dispatch)
  | .unit index =>
    match r.pipeline.dispatch.units[index]? with
    | none => (r, .unit index none)
    | some u =>
      let (r, reply) := r.answerUnit loops.statement u
      (r, .unit index reply)

/-- Lets the pipeline take an input. -/
def apply (loops : Loops) (r : Rehearsal) (i : Pipeline.Input) : Rehearsal :=
  let (pipeline, events) := r.pipeline.step loops i
  { r with
    pipeline
    trace := (events.map fun e => (pipeline.now, e)).reverse ++ r.trace }

/-- The rehearsal after a turn. -/
def step (loops : Loops) (r : Rehearsal) (t : Turn) : Rehearsal :=
  let (r, i) := r.input loops t
  r.apply loops i

/-- The rehearsal after turns in any order. -/
def run (loops : Loops) (r : Rehearsal) (turns : List Turn) : Rehearsal :=
  turns.foldl (step loops) r

/-- All that was done, in order. -/
def events (r : Rehearsal) : List Event := (r.trace.map (·.2)).reverse

end Rehearsal
end FeedIngest
