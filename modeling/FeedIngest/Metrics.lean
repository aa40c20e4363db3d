import FeedIngest.Decimal.Notation
import FeedIngest.ItemId

/-! What the loops and the routes measure. Counters add up, gauges keep the last value,
histograms collect samples. A measure is kept under its name and labels. -/

namespace FeedIngest

/-- How far the units of work use up the permits. -/
structure Saturation where
  available : Nat
  total : Nat
  deriving DecidableEq

/-- The part of the permits that is taken. -/
def Saturation.ratio (s : Saturation) : Float :=
  1 - s.available.toFloat / s.total.toFloat

/-- The same in millionths, a half rounded up. -/
def Saturation.millionths (s : Saturation) : Nat := (s.ratio * 1000000).round.toUInt64.toNat

inductive Measure
  | watermark (next : ItemId)
  | discovered
  | pollFailed (reason : String)
  | fetchAttempt (outcome : String)
  | saturation (value : Saturation)
  | abandoned (items : Nat)
  | stored
  | storeFailed (reason : String)
  /-- Milliseconds from the start of a unit of work to its stored item. -/
  | processed (millis : Nat)
  /-- A request answered; its latency is left open. -/
  | request (method path : String) (status : Nat)
  deriving DecidableEq

namespace Measure

/-- Name and labels, as one key. -/
def key (name : String) (labels : List (String × String)) : String :=
  if labels.isEmpty then name
  else
    let parts := labels.map fun (label, value) => label ++ "=" ++ value
    name ++ "\x7b" ++ ",".intercalate parts ++ "\x7d"

/-- By how much which counter goes up. -/
def counter? : Measure → Option (String × Nat)
  | .discovered => some ("mirror_items_discovered_total", 1)
  | .pollFailed reason =>
    some (key "mirror_discovery_poll_failures_total" [("reason", reason)], 1)
  | .fetchAttempt outcome => some (key "mirror_fetch_attempts_total" [("outcome", outcome)], 1)
  | .abandoned items => some ("mirror_items_abandoned_total", items)
  | .stored => some ("mirror_items_stored_total", 1)
  | .storeFailed reason => some (key "mirror_items_store_failed_total" [("reason", reason)], 1)
  | .request method path status =>
    some (key "http_requests_total"
      [("method", method), ("path", path), ("status", toString status)], 1)
  | _ => none

/-- The key under which latencies of such requests are collected. -/
def latency? : Measure → Option String
  | .request method path status =>
    some (key "http_requests_duration_seconds"
      [("method", method), ("path", path), ("status", toString status)])
  | _ => none

end Measure

namespace Metrics

/-- Adds to the entry of a key, which starts from zero. -/
def bump (key : String) (n : Nat) : List (String × Nat) → List (String × Nat)
  | [] => [(key, n)]
  | e :: es => if e.1 = key then (key, e.2 + n) :: es else e :: bump key n es

/-- The counters after these measures, in the order in which they were first touched. -/
def counters (ms : List Measure) : List (String × Nat) :=
  ms.foldl (fun cs m => match m.counter? with
    | some (key, n) => bump key n cs
    | none => cs) []

/-- How many latencies were collected under each key. -/
def latencies (ms : List Measure) : List (String × Nat) :=
  ms.foldl (fun cs m => match m.latency? with
    | some key => bump key 1 cs
    | none => cs) []

/-- The last watermark set. -/
def watermark? (ms : List Measure) : Option ItemId :=
  ms.foldl (fun last m => match m with | .watermark w => some w | _ => last) none

/-- The last saturation set. -/
def saturation? (ms : List Measure) : Option Saturation :=
  ms.foldl (fun last m => match m with | .saturation s => some s | _ => last) none

/-- The processing times of stored items, in rising order. -/
def processingTimes (ms : List Measure) : List Nat :=
  (ms.filterMap fun m => match m with | .processed t => some t | _ => none).mergeSort

/-- A gauge is a floating point number: identifiers from `2 ^ 53` on are rounded. -/
def gaugeText (id : ItemId) : String :=
  String.ofList (Decimal.Layout.plain.text id.val.toFloat.toBits)

end Metrics
end FeedIngest
