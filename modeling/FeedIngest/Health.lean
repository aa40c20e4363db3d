import FeedIngest.Text.Quoted
import FeedIngest.Time.Moment

/-! Liveness of the long running loops. A component registers with a deadline and has to
report again before the deadline has passed; one that misses it is shown as stalled. All
is well when there is a component and every one is healthy. Looking changes nothing, and
a report that would lie past the last date is refused and changes nothing either. -/

namespace FeedIngest.Health

inductive Status
  | starting
  | healthyUntil (deadline : Moment)
  | unhealthy
  | stalled
  deriving DecidableEq

/-- How a status is shown at a moment: a deadline that has come is missed. -/
def Status.shownAt (now : Moment) : Status → Status
  | .healthyUntil t => if now < t then .healthyUntil t else .stalled
  | s => s

def Status.isHealthy : Status → Bool
  | .healthyUntil _ => true
  | _ => false

def Status.text : Status → String
  | .starting => "Starting"
  | .healthyUntil t => "HealthyUntil(" ++ t.text ++ ")"
  | .unhealthy => "Unhealthy"
  | .stalled => "Stalled"

/-- The latest status of each component, in the order of their first registration. -/
abbrev Components := List (String × Status)

namespace Components

def get? (cs : Components) (name : String) : Option Status := (cs.find? (·.1 = name)).map (·.2)

/-- Puts a status in the place of the component's earlier one, or at the end. -/
def set (cs : Components) (name : String) (status : Status) : Components :=
  match cs with
  | [] => [(name, status)]
  | c :: cs => if c.1 = name then (name, status) :: cs else c :: set cs name status

end Components

/-- What a component reports through. -/
structure Handle where
  component : String
  deadline : Duration
  deriving DecidableEq

/-- All components, and the handles given out so far. -/
structure Registry where
  components : Components
  handles : List Handle
  deriving DecidableEq

namespace Registry

def empty : Registry := ⟨[], []⟩

def report (r : Registry) (h : Handle) (status : Status) : Registry :=
  ⟨r.components.set h.component status, r.handles⟩

/-- Gives out a handle; the component is starting, also if it was registered before. -/
def register (r : Registry) (component : String) (deadline : Duration) : Registry :=
  let h : Handle := ⟨component, deadline⟩
  report ⟨r.components, r.handles ++ [h]⟩ h .starting

/-- Reports healthy until the deadline has passed. -/
def reportHealthy (r : Registry) (h : Handle) (now : Moment) : Except CalendarFault Registry :=
  (now.add h.deadline).map fun t => r.report h (.healthyUntil t)

end Registry

/-- What the components may ask of the registry. A handle is named by its number. -/
inductive Call
  | register (component : String) (deadline : Duration)
  | reportHealthy (handle : Nat)
  | report (handle : Nat) (status : Status)
  deriving DecidableEq

/-- The registry after a call; a handle that was never given out reports nothing. -/
def Call.apply (c : Call) (now : Moment) (r : Registry) : Except CalendarFault Registry :=
  match c with
  | .register component deadline => .ok (r.register component deadline)
  | .reportHealthy handle =>
    match r.handles[handle]? with
    | some h => r.reportHealthy h now
    | none => .ok r
  | .report handle status =>
    match r.handles[handle]? with
    | some h => .ok (r.report h status)
    | none => .ok r

/-- What the probe sees. -/
structure Report where
  healthy : Bool
  components : Components
  deriving DecidableEq

def Registry.reportAt (r : Registry) (now : Moment) : Report :=
  let shown := r.components.map fun (name, status) => (name, status.shownAt now)
  ⟨!shown.isEmpty && shown.all (·.2.isHealthy), shown⟩

namespace Report

/-- The status code of the reply. -/
def code (r : Report) : Nat := if r.healthy then 200 else 500

/-- The body of the reply. -/
def text (r : Report) : String :=
  let entries := r.components.map fun (name, status) => Text.quoted name ++ ": " ++ status.text
  "HealthStatus \x7b healthy: " ++ (if r.healthy then "true" else "false") ++
    ", components: \x7b" ++ ", ".intercalate entries ++ "\x7d \x7d"

end Report
end FeedIngest.Health
