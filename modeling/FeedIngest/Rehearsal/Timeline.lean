import FeedIngest.Rehearsal.Stage

/-! The virtual clock of rehearsals. All that can happen at one moment happens before time
moves on, and time moves to the next moment at which something can happen. Tasks take turns
in rounds, each until it has to wait. -/

namespace FeedIngest.Rehearsal

/-- When discovery has something to do; never where it waits for others. -/
def discoveryWake (r : Rehearsal) : Option Nat :=
  let now := r.pipeline.now
  let waits (due : Nat) := some (if r.pipeline.cancelled then now else due)
  match r.pipeline.discovery with
  | .asking _ => some now
  | .awaiting _ since => waits (r.feed.maximumDue since)
  | .backingOff _ due => waits due
  | .reporting _ => some now
  | .polling _ => some now
  | .awaitingPoll _ since => waits (r.feed.maximumDue since)
  | .announcing _ _ rest =>
    if rest.next?.isSome && r.pipeline.channel.waiting && !r.pipeline.cancelled then none
    else some now
  | .pausing _ due => waits due
  | .ended _ => none
  | .crashed _ => none

/-- When the dispatcher has something to do. -/
def dispatchWake (r : Rehearsal) : Option Nat :=
  let now := r.pipeline.now
  let channel := r.pipeline.channel
  let granted := match r.pipeline.dispatch.permits.waiting with
    | some w => w.needed ≤ w.held
    | none => true
  match r.pipeline.dispatch.phase with
  | .starting => some now
  | .receiving =>
    if r.pipeline.cancelled || !channel.buffer.isEmpty || channel.isOver then some now else none
  | .acquiring _ => if r.pipeline.cancelled || granted then some now else none
  | .draining due => some (if granted then now else due)
  | .returned => none
  | .crashed _ => none

/-- When a unit of work has something to do. -/
def unitWake (r : Rehearsal) (u : UnitOfWork) : Option Nat :=
  let now := r.pipeline.now
  let waits (due : Nat) := some (if r.pipeline.cancelled then now else due)
  match u.phase with
  | .fetching (.awaiting _ since) => waits (r.feed.lookupDue u.id since)
  | .fetching (.backingOff _ due) => waits due
  | .fetching _ => some now
  | .storing item since => some (r.storage.executeDue item.id since)
  | .ended _ => none

/-- When a turn has something to do. -/
def wake (r : Rehearsal) : Turn → Option Nat
  | .advance _ => none
  | .cancel => if r.pipeline.cancelled then none else r.cancelAt
  | .discovery => r.discoveryWake
  | .dispatch => r.dispatchWake
  | .unit index => r.pipeline.dispatch.units[index]?.bind r.unitWake

/-- Every task once, the loops behind the units of work that they may wait for. -/
def round (r : Rehearsal) : List Turn :=
  let running := r.pipeline.dispatch.units.zipIdx.filter fun (u, _) => u.isRunning
  .cancel :: running.map (fun (_, index) => .unit index) ++ [.dispatch, .discovery]

/-- The next moment at which something can happen. -/
def nextWake (r : Rehearsal) : Option Nat := (r.round.filterMap r.wake).min?

/-- Lets time pass up to a moment. -/
def advanceTo (loops : Loops) (r : Rehearsal) (moment : Nat) : Rehearsal :=
  r.step loops (.advance (moment - r.pipeline.now))

/-- Plays turns, first those of a round, until the rehearsal has come to where it is to stop, or
up to a moment if one is given. Each turn uses up fuel. -/
def play (loops : Loops) (limit : Option Nat) (stop : Rehearsal → Bool) :
    (fuel : Nat) → List Turn → Rehearsal → Rehearsal
  | 0, _, r => r
  | fuel + 1, turn :: rest, r =>
    if stop r then r
    else if (r.wake turn).any (· ≤ r.pipeline.now) then
      play loops limit stop fuel (turn :: rest) (r.step loops turn)
    else play loops limit stop fuel rest r
  | fuel + 1, [], r =>
    if stop r then r
    else match r.nextWake, limit with
      | none, none => r
      | none, some moment => r.advanceTo loops moment
      | some next, none => play loops limit stop fuel r.round (r.advanceTo loops next)
      | some next, some moment =>
        if next ≤ moment then play loops limit stop fuel r.round (r.advanceTo loops next)
        else r.advanceTo loops moment

/-- Enough turns for any rehearsal that ends. -/
def fuel : Nat := 1000000000000

/-- Lets so many milliseconds pass. -/
def sleep (loops : Loops) (r : Rehearsal) (ticks : Nat) : Rehearsal :=
  play loops (some (r.pipeline.now + ticks)) (fun _ => false) fuel [] r

/-- Lets all happen that can happen at this moment. -/
def settle (loops : Loops) (r : Rehearsal) : Rehearsal := sleep loops r 0

/-- Goes on until the rehearsal has come to where it is to stop. -/
def playUntil (loops : Loops) (stop : Rehearsal → Bool) (r : Rehearsal) : Rehearsal :=
  play loops none stop fuel [] r

def cancel (loops : Loops) (r : Rehearsal) : Rehearsal := r.step loops .cancel

/-- Takes up to `n` identifiers that are in the channel. -/
def receive (loops : Loops) (r : Rehearsal) : Nat → Rehearsal × List ItemId
  | 0 => (r, [])
  | n + 1 =>
    match r.pipeline.channel.buffer with
    | [] => (r, [])
    | id :: _ =>
      let (r, ids) := receive loops (r.apply loops .take) n
      (r, id :: ids)

/-- Takes identifiers as they come, until none has come for so many milliseconds. -/
def receiveUntilQuiet (loops : Loops) (ticks : Nat) : (fuel : Nat) → Rehearsal →
    Rehearsal × List ItemId
  | 0, r => (r, [])
  | fuel + 1, r =>
    let stop (r : Rehearsal) : Bool :=
      !r.pipeline.channel.buffer.isEmpty || r.pipeline.channel.isOver
    let r := play loops (some (r.pipeline.now + ticks)) stop Rehearsal.fuel [] r
    match r.pipeline.channel.buffer with
    | [] => (r, [])
    | id :: _ =>
      let (r, ids) := receiveUntilQuiet loops ticks fuel (r.apply loops .take)
      (r, id :: ids)

end FeedIngest.Rehearsal
