import FeedIngest.Event
import FeedIngest.Feed.Scripted
import FeedIngest.Time.Timer

/-! The feed of a rehearsal: a scripted feed whose answers take their time and can be
preceded by other failures. Such failures are no part of the script, and are not counted. -/

namespace FeedIngest.Rehearsal

/-- The timer of rehearsals, on a machine whose clock starts with them. -/
def timer : Timer := .wheel 0

structure Feed where
  scripted : ScriptedFeed
  /-- What the calls for the maximum come to: a failure, or an entry of the script. -/
  script : List (Except FeedError (Option ItemId))
  maximumDelay : Duration
  /-- How long lookups take. -/
  delays : List (ItemId × Duration)
  /-- Failures in front of the lookups of an identifier, which take no time. -/
  failures : List (ItemId × List FeedError)

namespace Feed

/-- The failure that comes next, and those behind it. -/
def nextFailure? (f : Feed) (id : ItemId) : Option (FeedError × List FeedError) :=
  match f.failures.lookup id with
  | some (e :: rest) => some (e, rest)
  | _ => none

/-- When a call for the maximum is answered. -/
def maximumDue (f : Feed) (since : Nat) : Nat := timer.due since f.maximumDelay

/-- When a lookup is answered. -/
def lookupDue (f : Feed) (id : ItemId) (since : Nat) : Nat :=
  if (f.nextFailure? id).isSome then since
  else match f.delays.lookup id with
    | some delay => timer.due since delay
    | none => since

/-- Answers a call for the maximum. -/
def maximum (f : Feed) : Feed × Answer ItemId :=
  let play (script : List (Option ItemId)) (rest : List (Except FeedError (Option ItemId))) :=
    let (scripted, answer) := { f.scripted with script }.maximum
    ({ f with scripted, script := rest }, answer)
  match f.script with
  | .error e :: rest => ({ f with script := rest }, .ok (.error e))
  | .ok entry :: rest => play [entry] rest
  | [] => play [] []

/-- Answers a lookup. -/
def lookup (f : Feed) (id : ItemId) : Feed × Answer Lookup :=
  match f.nextFailure? id with
  | some (e, rest) =>
    ({ f with failures := (id, rest) :: f.failures.filter (·.1 ≠ id) }, .ok (.error e))
  | none =>
    let (scripted, answer) := f.scripted.item id
    ({ f with scripted }, answer)

end Feed
end FeedIngest.Rehearsal
