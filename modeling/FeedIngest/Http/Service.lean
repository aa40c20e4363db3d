import FeedIngest.Health
import FeedIngest.Http.Router
import FeedIngest.Text.Digits

/-! The routes that the worker serves, and the addresses it can listen on. -/

namespace FeedIngest.Http

/-- What the index and the readiness probe answer. -/
def greeting : String := "feed mirror worker"

/-- Index, readiness, liveness by the health report, and the page of metrics. -/
def serviceRoutes (health : Health.Report) (metricsPage : String) : List Route :=
  [⟨"/", [("GET", ⟨200, greeting⟩)]⟩,
   ⟨"/_readiness", [("GET", ⟨200, greeting⟩)]⟩,
   ⟨"/_liveness", [("GET", ⟨health.code, health.text⟩)]⟩,
   ⟨"/metrics", [("GET", ⟨200, metricsPage⟩)]⟩]

/-- Why an address cannot be listened on. -/
inductive AddressFault
  | noPort
  | badPort
  deriving DecidableEq

def AddressFault.message : AddressFault → String
  | .noPort => "invalid socket address"
  | .badPort => "invalid port value"

/-- Host and port number, divided at the last colon. -/
def splitAddress (address : String) : Except AddressFault (String × Nat) :=
  let reversed := address.toList.reverse
  match reversed.dropWhile (· ≠ ':') with
  | [] => .error .noPort
  | _ :: host =>
    match Digits.read? 65535 (reversed.takeWhile (· ≠ ':')).reverse with
    | some number => .ok (String.ofList host.reverse, number)
    | none => .error .badPort

end FeedIngest.Http
