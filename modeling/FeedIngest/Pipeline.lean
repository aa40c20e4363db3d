import FeedIngest.Discovery
import FeedIngest.Dispatch

/-! Discovery and dispatch, joined by the channel, with one clock and one shutdown signal.
A run is a list of inputs, in any order: each lets time pass, asks for a shutdown, or lets
one task take a step, with the answer to its call if it is to have one. A loop can also be
run alone; the other end of the channel is then held from outside. -/

namespace FeedIngest

structure Pipeline where
  now : Nat
  cancelled : Bool
  channel : Channel
  discovery : Discovery.Phase
  dispatch : Dispatch

namespace Pipeline

inductive Input
  | advance (ticks : Nat)
  | cancel
  | discovery (answer : Option (Answer ItemId))
  | dispatch
  | unit (index : Nat) (reply : Option UnitOfWork.Reply)
  /-- Someone else takes a place on the channel. -/
  | reserve
  /-- Someone else fills a place that was taken. -/
  | push (id : ItemId)
  /-- Someone else sends, in one step. -/
  | send (id : ItemId)
  /-- No one else will send. -/
  | stopSending
  /-- Someone else receives. -/
  | take
  /-- Someone else closes the channel. -/
  | close
  /-- The dispatcher, once it has returned, is run on another channel. -/
  | runAgain (capacity : Nat)

/-- Both loops at their start. -/
def start (capacity limit : Nat) : Pipeline :=
  ⟨0, false, .empty capacity, Discovery.start, Dispatch.start limit⟩

/-- Discovery alone. -/
def discoveryOnly (capacity : Nat) : Pipeline :=
  ⟨0, false, .empty capacity, Discovery.start, ⟨.returned, .ofLimit 1, []⟩⟩

/-- Dispatch alone. -/
def dispatchOnly (capacity limit : Nat) : Pipeline :=
  ⟨0, false, .empty capacity, .ended none, Dispatch.start limit⟩

/-- The pipeline after one input, and what was done. -/
def step (loops : Loops) (p : Pipeline) : Input → Pipeline × List Event
  | .advance ticks => ({ p with now := p.now + ticks }, [])
  | .cancel => ({ p with cancelled := true }, [])
  | .discovery answer =>
    let s := Discovery.poll loops p.now p.cancelled answer p.channel p.discovery
    ({ p with discovery := s.phase, channel := s.channel }, s.events)
  | .dispatch =>
    let s := p.dispatch.poll loops p.now p.cancelled p.channel
    ({ p with dispatch := s.dispatch, channel := s.channel }, s.events)
  | .unit index reply =>
    let (dispatch, events) := p.dispatch.pollUnit loops p.now p.cancelled index reply
    ({ p with dispatch }, events)
  | .reserve =>
    match p.channel.reserve with
    | (channel, .accepted) => ({ p with channel }, [])
    | _ => (p, [])
  | .push id =>
    if 0 < p.channel.reserved then ({ p with channel := p.channel.push id }, [.sent id])
    else (p, [])
  | .send id =>
    match p.channel.offer id with
    | (channel, .accepted) => ({ p with channel }, [.sent id])
    | _ => (p, [])
  | .stopSending => ({ p with channel := p.channel.abandonSending }, [])
  | .take =>
    match p.channel.take? with
    | some (id, channel) => ({ p with channel }, [.taken id])
    | none => (p, [])
  | .close => ({ p with channel := p.channel.close }, [])
  | .runAgain capacity =>
    if p.dispatch.phase = .returned then
      ({ p with channel := .empty capacity, dispatch := { p.dispatch with phase := .starting } }, [])
    else (p, [])

/-- A pipeline, and what was done and when to get there. -/
structure Run where
  pipeline : Pipeline
  trace : List (Nat × Event)

namespace Run

def step (loops : Loops) (r : Run) (i : Input) : Run :=
  let (p, events) := r.pipeline.step loops i
  ⟨p, r.trace ++ events.map fun e => (r.pipeline.now, e)⟩

def events (r : Run) : List Event := r.trace.map (·.2)

end Run

/-- The run of a list of inputs. -/
def run (loops : Loops) (p : Pipeline) (inputs : List Input) : Run :=
  inputs.foldl (Run.step loops) ⟨p, []⟩

@[simp] theorem run_nil (loops : Loops) (p : Pipeline) : p.run loops [] = ⟨p, []⟩ := rfl

theorem run_concat (loops : Loops) (p : Pipeline) (inputs : List Input) (i : Input) :
    p.run loops (inputs ++ [i]) = (p.run loops inputs).step loops i := by
  simp [run]

end Pipeline
end FeedIngest
