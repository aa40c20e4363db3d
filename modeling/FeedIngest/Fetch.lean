import FeedIngest.Event
import FeedIngest.Retry
import FeedIngest.Time.Timer

/-! The fetch of one item. It asks the feed until the item is there, waiting after each
attempt as the retry policy says, without a limit on attempts. A shutdown ends it wherever
it waits. -/

namespace FeedIngest.Fetch

inductive Phase
  /-- About to ask for the time of that number. -/
  | asking (attempt : UInt32)
  | awaiting (attempt : UInt32) (since : Nat)
  | backingOff (attempt : UInt32) (due : Nat)
  | found (item : Item)
  | cancelled
  | crashed (crash : Crash)
  deriving DecidableEq

/-- What a fetch that is over came to. -/
def Phase.result? : Phase → Option (Except FetchError Item)
  | found item => some (.ok item)
  | cancelled => some (.error .cancelled)
  | _ => none

def start : Phase := .asking 1

/-- The number of the attempt after one; it stays at the greatest number. -/
def nextAttempt (attempt : UInt32) : UInt32 :=
  if attempt.toNat < 4294967295 then attempt + 1 else attempt

/-- After an attempt without an item: a wait, of which an empty one is over at once. -/
def backOff (timer : Timer) (policy : RetryPolicy) (now : Nat) (attempt : UInt32) : Phase :=
  let wait := policy.interval attempt
  if wait.isZero then .asking (nextAttempt attempt)
  else .backingOff attempt (timer.due now wait)

/-- One step of a fetch, with the answer to its call if there is one by now. -/
def poll (timer : Timer) (policy : RetryPolicy) (id : ItemId) (now : Nat) (cancelled : Bool)
    (answer : Option (Answer Lookup)) : Phase → Phase × List Event
  | .asking attempt =>
    if cancelled then (.cancelled, [])
    else (.awaiting attempt now, [.lookupCalled id])
  | .awaiting attempt since =>
    if cancelled then (.cancelled, [])
    else match answer with
      | none => (.awaiting attempt since, [])
      | some (.error crash) => (.crashed crash, [.crashed crash])
      | some (.ok (.ok (.available item))) =>
        (.found item, [.lookupAnswered id (.ok (.available item))])
      | some (.ok result) =>
        (backOff timer policy now attempt,
          [.lookupAnswered id result, .waiting (policy.interval attempt)])
  | .backingOff attempt due =>
    if cancelled then (.cancelled, [])
    else if due ≤ now then (.asking (nextAttempt attempt), [])
    else (.backingOff attempt due, [])
  | .found item => (.found item, [])
  | .cancelled => (.cancelled, [])
  | .crashed crash => (.crashed crash, [])

end FeedIngest.Fetch
