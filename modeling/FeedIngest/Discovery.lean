import FeedIngest.Channel
import FeedIngest.Fetch
import FeedIngest.Health
import FeedIngest.Loops
import FeedIngest.Watermark

/-! Discovery. It reads the feed's maximum until it has one, which becomes the watermark, so
that nothing older is ever announced. Then it polls: what a new maximum leaves pending is
put on the channel, one identifier after the other, and only when all of it is there does
discovery pause until the next poll. It reports that it is healthy at the start of each
poll and with each identifier. A shutdown ends it wherever it waits. -/

namespace FeedIngest.Discovery

inductive Phase
  /-- About to read the first maximum, for the time of that number. -/
  | asking (attempt : UInt32)
  | awaiting (attempt : UInt32) (since : Nat)
  | backingOff (attempt : UInt32) (due : Nat)
  /-- At the start of a poll. -/
  | reporting (mark : Watermark)
  | polling (mark : Watermark)
  | awaitingPoll (mark : Watermark) (since : Nat)
  /-- Announcing what is left of a span, in a poll that began at a watermark. -/
  | announcing (mark before : Watermark) (rest : Span)
  | pausing (mark : Watermark) (due : Nat)
  /-- Ended, without an error if it was asked to. -/
  | ended (error : Option DiscoveryError)
  | crashed (crash : Crash)
  deriving DecidableEq

def start : Phase := .asking 1

namespace Phase

/-- The watermark, once there is one and as long as discovery goes on. -/
def mark? : Phase → Option Watermark
  | reporting mark | polling mark | awaitingPoll mark _ | announcing mark _ _ | pausing mark _ =>
    some mark
  | _ => none

def isOver : Phase → Bool
  | ended _ | crashed _ => true
  | _ => false

end Phase

/-- A phase, the channel and what was done. -/
structure Step where
  phase : Phase
  channel : Channel
  events : List Event

/-- The end of discovery, and of its sending. -/
def finish (channel : Channel) (error : Option DiscoveryError) : Step :=
  ⟨.ended error, channel.abandonSending, [.discoveryEnded error]⟩

def crash (channel : Channel) (fault : Crash) (before : List Event) : Step :=
  ⟨.crashed fault, channel.abandonSending, before ++ [.crashed fault]⟩

/-- A report of liveness, after which discovery goes on. -/
def report (loops : Loops) (now : Nat) (channel : Channel) (before : List Event)
    (next : Phase) : Step :=
  match (loops.clock now).add loops.deadline with
  | .ok moment => ⟨next, channel, before ++ [.reported moment]⟩
  | .error fault => crash channel (.calendar fault) before

/-- The end of a poll. -/
def pause (loops : Loops) (now : Nat) (channel : Channel) (mark : Watermark)
    (before : List Event) : Step :=
  ⟨.pausing mark (loops.timer.due now loops.pollInterval), channel,
    before ++ [.waiting loops.pollInterval]⟩

/-- How far the watermark has moved; never backwards. -/
def discovered? (mark before : Watermark) : Option Nat :=
  if before.next ≤ mark.next then some (mark.next.toNat - before.next.toNat) else none

/-- The next identifier of a span, or the end of the poll where there is none. -/
def announce (loops : Loops) (now : Nat) (cancelled : Bool) (channel : Channel)
    (mark before : Watermark) (rest : Span) : Step :=
  match rest.next? with
  | none =>
    match discovered? mark before with
    | some n => pause loops now channel mark [.measured (.watermark mark.next), .polled n]
    | none => crash channel .subtractionOverflow [.measured (.watermark mark.next)]
  | some (id, later) =>
    if cancelled then finish channel none
    else match channel.offer id with
      | (channel, .refused) => finish channel (some .channelClosed)
      | (channel, .full) => ⟨.announcing mark before rest, channel, []⟩
      | (channel, .accepted) =>
        match mark.advancePast? id with
        | some next =>
          report loops now channel [.announced id] (.announcing next before later)
        | none => crash channel .additionOverflow [.announced id]

/-- One step of discovery, with the answer to its call if there is one by now. -/
def poll (loops : Loops) (now : Nat) (cancelled : Bool) (answer : Option (Answer ItemId))
    (channel : Channel) : Phase → Step
  | .asking attempt =>
    if cancelled then finish channel (some .cancelledBeforeStart)
    else ⟨.awaiting attempt now, channel, [.maximumCalled]⟩
  | .awaiting attempt since =>
    if cancelled then finish channel (some .cancelledBeforeStart)
    else match answer with
      | none => ⟨.awaiting attempt since, channel, []⟩
      | some (.error fault) => crash channel fault []
      | some (.ok (.ok max)) =>
        ⟨.reporting ⟨max⟩, channel, [.maximumAnswered (.ok max), .measured (.watermark max)]⟩
      | some (.ok (.error e)) =>
        let wait := loops.policy.interval attempt
        ⟨.backingOff attempt (loops.timer.due now wait), channel,
          [.maximumAnswered (.error e), .waiting wait]⟩
  | .backingOff attempt due =>
    if cancelled then finish channel (some .cancelledBeforeStart)
    else if due ≤ now then ⟨.asking (Fetch.nextAttempt attempt), channel, []⟩
    else ⟨.backingOff attempt due, channel, []⟩
  | .reporting mark => report loops now channel [] (.polling mark)
  | .polling mark =>
    if cancelled then finish channel none
    else ⟨.awaitingPoll mark now, channel, [.maximumCalled]⟩
  | .awaitingPoll mark since =>
    if cancelled then finish channel none
    else match answer with
      | none => ⟨.awaitingPoll mark since, channel, []⟩
      | some (.error fault) => crash channel fault []
      | some (.ok (.ok max)) =>
        ⟨.announcing mark mark (mark.pending max), channel, [.maximumAnswered (.ok max)]⟩
      | some (.ok (.error e)) => pause loops now channel mark [.maximumAnswered (.error e)]
  | .announcing mark before rest => announce loops now cancelled channel mark before rest
  | .pausing mark due =>
    if cancelled then finish channel none
    else if due ≤ now then ⟨.reporting mark, channel, []⟩
    else ⟨.pausing mark due, channel, []⟩
  | .ended error => ⟨.ended error, channel, []⟩
  | .crashed fault => ⟨.crashed fault, channel, []⟩

/-- The name under which discovery reports. -/
def component : String := "discoverer"

/-- The registry of discovery alone, after what was done. -/
def registryAfter (deadline : Duration) (events : List Event) : Health.Registry :=
  events.foldl (fun registry event => match event with
    | .reported moment => registry.report ⟨component, deadline⟩ (.healthyUntil moment)
    | _ => registry) (Health.Registry.empty.register component deadline)

end FeedIngest.Discovery
