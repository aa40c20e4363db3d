import FeedIngest.Rehearsal.Stage

/-! What is told of a rehearsal: every call that was answered, in order of time and name, what
was measured, and how the loops ended. -/

namespace FeedIngest.Rehearsal

/-- A call that was answered. -/
structure LogEntry where
  time : Nat
  call : String
  id : ItemId
  outcome : String
  deriving DecidableEq

namespace LogEntry

/-- What is told of an event. -/
def ofEvent? (time : Nat) : Event → Option LogEntry
  | .maximumAnswered (.ok max) => some ⟨time, "max", max, "ok"⟩
  | .maximumAnswered (.error e) => some ⟨time, "max", ⟨0⟩, e.kind⟩
  | .lookupAnswered id result => some ⟨time, "item", id, Event.lookupLabel result⟩
  | .executeAnswered id (.ok _) => some ⟨time, "store", id, "ok"⟩
  | .executeAnswered id (.error e) => some ⟨time, "store", id, e.kind⟩
  | _ => none

/-- The order of time, name, identifier and outcome. -/
def le (a b : LogEntry) : Bool :=
  if a.time ≠ b.time then a.time < b.time
  else if a.call ≠ b.call then a.call < b.call
  else if a.id ≠ b.id then a.id < b.id
  else a.outcome ≤ b.outcome

/-- The log of a trace. -/
def ofTrace (trace : List (Nat × Event)) : List LogEntry :=
  (trace.filterMap fun (time, e) => ofEvent? time e).mergeSort le

end LogEntry

def log (r : Rehearsal) : List LogEntry := LogEntry.ofTrace r.trace

def measures (r : Rehearsal) : List Measure := r.events.filterMap Event.measure?

/-- When discovery ended, and with which error. -/
def discoveryEnd? (r : Rehearsal) : Option (Nat × Option DiscoveryError) :=
  r.trace.findSome? fun (time, e) => match e with
    | .discoveryEnded error => some (time, error)
    | _ => none

/-- Why discovery crashed. -/
def discoveryCrash? (r : Rehearsal) : Option Crash :=
  match r.pipeline.discovery with
  | .crashed crash => some crash
  | _ => none

/-- Whether discovery is shown as healthy at a moment. -/
def isHealthy (loops : Loops) (r : Rehearsal) (now : Moment) : Bool :=
  ((Discovery.registryAfter loops.deadline r.events).reportAt now).healthy

def storedIds (r : Rehearsal) : List ItemId := r.storage.memory.storedIds

end FeedIngest.Rehearsal
