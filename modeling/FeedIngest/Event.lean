import FeedIngest.Crash
import FeedIngest.Metrics
import FeedIngest.Stop

/-! What the loops do, one event for each thing that can be seen from outside: calls to the
feed and the storage, identifiers handed on, waits, reports of liveness, and ends. -/

namespace FeedIngest

/-- What a call comes to: it crashes, fails or succeeds. -/
abbrev Answer (α : Type) := Except Crash (Except FeedError α)

inductive Event
  | maximumCalled
  | maximumAnswered (result : Except FeedError ItemId)
  | lookupCalled (id : ItemId)
  | lookupAnswered (id : ItemId) (result : Except FeedError Lookup)
  /-- The unit of work of an identifier called for its item to be stored. -/
  | executeCalled (id : ItemId) (statement : String) (item : Item)
  | executeAnswered (id : ItemId) (result : Except StorageError Unit)
  /-- Discovery put an identifier on the channel. -/
  | announced (id : ItemId)
  /-- Another sender put an identifier on the channel. -/
  | sent (id : ItemId)
  /-- The dispatcher took an identifier from the channel. -/
  | received (id : ItemId)
  /-- Another receiver took an identifier from the channel. -/
  | taken (id : ItemId)
  | spawned (id : ItemId)
  | abandoned (ids : List ItemId)
  | waiting (wait : Duration)
  /-- Discovery reported that it is healthy until that moment. -/
  | reported (moment : Moment)
  /-- A poll is complete, with that many identifiers announced. -/
  | polled (discovered : Nat)
  | measured (value : Measure)
  /-- Discovery ended, without an error if it was asked to. -/
  | discoveryEnded (error : Option DiscoveryError)
  | dispatchEnded
  | crashed (crash : Crash)

namespace Event

/-- The label of a lookup's result in counters. -/
def lookupLabel : Except FeedError Lookup → String
  | .ok (.available _) => "available"
  | .ok .notAvailable => "not_available"
  | .error e => e.kind

/-- What is measured of an event. -/
def measure? : Event → Option Measure
  | maximumAnswered (.error e) => some (.pollFailed e.kind)
  | lookupAnswered _ result => some (.fetchAttempt (lookupLabel result))
  | executeAnswered _ (.ok _) => some .stored
  | executeAnswered _ (.error e) => some (.storeFailed e.kind)
  | announced _ => some .discovered
  | abandoned ids => some (.abandoned ids.length)
  | measured value => some value
  | _ => none

end Event
end FeedIngest
