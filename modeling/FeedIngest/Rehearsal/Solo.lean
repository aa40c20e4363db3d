import FeedIngest.Fetch
import FeedIngest.Rehearsal.Feed

/-! The rehearsal of one fetch alone. -/

namespace FeedIngest.Rehearsal

/-- A fetch, its feed, the time, and what was done and when, latest first. -/
structure Solo where
  phase : Fetch.Phase
  feed : Feed
  now : Nat
  trace : List (Nat × Event)

namespace Solo

def create (feed : Feed) : Solo := ⟨Fetch.start, feed, 0, []⟩

def isCancelled (cancelAt : Option Nat) (s : Solo) : Bool := cancelAt.any (· ≤ s.now)

/-- When the fetch has something to do, unless it is over. -/
def wake (id : ItemId) (cancelAt : Option Nat) (s : Solo) : Option Nat :=
  let waits (due : Nat) : Option Nat :=
    some (if s.isCancelled cancelAt then s.now
      else match cancelAt with
        | some moment => min due moment
        | none => due)
  match s.phase with
  | .asking _ => some s.now
  | .awaiting _ since => waits (s.feed.lookupDue id since)
  | .backingOff _ due => waits due
  | _ => none

/-- The answer to a lookup, if it is due by now. -/
def answer (id : ItemId) (cancelled : Bool) (s : Solo) : Feed × Option (Answer Lookup) :=
  match s.phase with
  | .awaiting _ since =>
    if s.feed.lookupDue id since ≤ s.now && !cancelled then
      let (feed, answer) := s.feed.lookup id
      (feed, some answer)
    else (s.feed, none)
  | _ => (s.feed, none)

/-- The fetch after one step. -/
def step (policy : RetryPolicy) (id : ItemId) (cancelAt : Option Nat) (s : Solo) : Solo :=
  let cancelled := s.isCancelled cancelAt
  let (feed, answer) := s.answer id cancelled
  let (phase, events) := Fetch.poll timer policy id s.now cancelled answer s.phase
  ⟨phase, feed, s.now, (events.map fun e => (s.now, e)).reverse ++ s.trace⟩

/-- Goes on until the fetch is over. Each step uses up fuel. -/
def play (policy : RetryPolicy) (id : ItemId) (cancelAt : Option Nat) :
    (fuel : Nat) → Solo → Solo
  | 0, s => s
  | fuel + 1, s =>
    match s.wake id cancelAt with
    | none => s
    | some moment =>
      play policy id cancelAt fuel (step policy id cancelAt { s with now := max s.now moment })

end Solo
end FeedIngest.Rehearsal
