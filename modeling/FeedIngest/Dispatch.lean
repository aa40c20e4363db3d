import FeedIngest.Channel
import FeedIngest.Permits
import FeedIngest.UnitOfWork

/-! Dispatch. It takes identifiers from the channel and starts a unit of work for each, which
needs a permit. It stops at a shutdown or when no sender is left: then it closes the channel,
abandons what is still in it, and waits until all permits are back, but not for longer than
the shutdown timeout. -/

namespace FeedIngest

namespace Dispatch

inductive Phase
  | starting
  | receiving
  /-- Waiting for a permit for an identifier. -/
  | acquiring (id : ItemId)
  /-- Waiting for all permits, up to a time. -/
  | draining (due : Nat)
  | returned
  | crashed (crash : Crash)
  deriving DecidableEq

end Dispatch

/-- The dispatcher, its permits, and all units of work it ever started, oldest first. -/
structure Dispatch where
  phase : Dispatch.Phase
  permits : Permits
  units : List UnitOfWork
  deriving DecidableEq

namespace Dispatch

/-- A dispatcher of so many units at a time. -/
def start (limit : Nat) : Dispatch := ⟨.starting, .ofLimit limit, []⟩

/-- The units of work that have not ended. -/
def running (d : Dispatch) : List UnitOfWork := d.units.filter UnitOfWork.isRunning

/-- A dispatcher, the channel and what was done. -/
structure Step where
  dispatch : Dispatch
  channel : Channel
  events : List Event

def saturated (p : Permits) : Event := .measured (.saturation p.saturation)

/-- Waits until no more units are running. -/
def drain (loops : Loops) (now : Nat) (d : Dispatch) (channel : Channel) (before : List Event) :
    Step :=
  let (left, channel) := channel.drain
  let events := before ++ if left.isEmpty then [] else [.abandoned left]
  match d.permits.inFlight? with
  | some _ =>
    ⟨{ d with phase := .draining (loops.timer.due now loops.shutdownTimeout) }, channel, events⟩
  | none => ⟨{ d with phase := .crashed .subtractionOverflow }, channel,
      events ++ [.crashed .subtractionOverflow]⟩

/-- One step of the dispatcher. -/
def poll (loops : Loops) (now : Nat) (cancelled : Bool) (channel : Channel) (d : Dispatch) : Step :=
  match d.phase with
  | .starting => ⟨{ d with phase := .receiving }, channel, [saturated d.permits]⟩
  | .receiving =>
    if cancelled then drain loops now d channel []
    else match channel.take? with
      | some (id, channel) => ⟨{ d with phase := .acquiring id }, channel, [.received id]⟩
      | none => if channel.isOver then drain loops now d channel [] else ⟨d, channel, []⟩
  | .acquiring id =>
    if cancelled then
      drain loops now { d with permits := d.permits.forgo } channel [.abandoned [id]]
    else match d.permits.acquire 1 with
      | (permits, true) =>
        ⟨⟨.receiving, permits, d.units ++ [.create id]⟩, channel, [.spawned id, saturated permits]⟩
      | (permits, false) => ⟨{ d with permits }, channel, []⟩
  | .draining due =>
    match d.permits.acquire d.permits.total with
    | (permits, true) =>
      ⟨⟨.returned, permits.restore permits.total, d.units⟩, channel, [.dispatchEnded]⟩
    | (permits, false) =>
      if due ≤ now then
        match permits.forgo.inFlight? with
        | some _ => ⟨⟨.returned, permits.forgo, d.units⟩, channel, [.dispatchEnded]⟩
        | none => ⟨⟨.crashed .subtractionOverflow, permits.forgo, d.units⟩, channel,
            [.crashed .subtractionOverflow]⟩
      else ⟨{ d with permits }, channel, []⟩
  | .returned => ⟨d, channel, []⟩
  | .crashed _ => ⟨d, channel, []⟩

/-- One step of a unit of work. Its permit comes back when it ends. -/
def pollUnit (loops : Loops) (now : Nat) (cancelled : Bool) (index : Nat)
    (reply : Option UnitOfWork.Reply) (d : Dispatch) : Dispatch × List Event :=
  match d.units[index]? with
  | none => (d, [])
  | some u =>
    let (v, events) := u.poll loops now cancelled reply
    let permits := if u.isRunning && !v.isRunning then d.permits.release else d.permits
    (⟨d.phase, permits, d.units.set index v⟩, events)

end Dispatch
end FeedIngest
