import FeedIngest.Http.Status
import FeedIngest.Url.Reference

/-! Exchanges over HTTP. A request is sent to a network, which answers or fails. An answer
that refers to another address is followed, up to ten times; what comes last is the final
reply, whose body the client reads as text. -/

namespace FeedIngest.Http

/-- What is asked of a server. -/
structure Request where
  method : String
  target : String
  accept : String
  userAgent : String
  deriving DecidableEq

/-- The request for the resource at an address. -/
def Request.get (address : Url) : Request :=
  ⟨"GET", String.ofList address.target, "application/json", "Feed Mirror Worker"⟩

/-- What a server answers. -/
structure Answer where
  status : Status
  headers : List (String × String)
  body : List UInt8
  deriving DecidableEq

/-- Why there is no answer. -/
inductive NetworkFault
  | unreachable
  | closed
  | timedOut
  | tooManyRedirects
  | unknownScheme
  deriving DecidableEq

/-- What comes of the next request. -/
inductive Outcome
  | answer (answer : Answer)
  | fault (fault : NetworkFault)
  deriving DecidableEq

/-- The last answer, read as text. -/
structure Reply where
  status : Status
  body : String
  deriving DecidableEq

namespace Answer

def header? (a : Answer) (name : String) : Option String :=
  (a.headers.find? (·.1.toLower = name)).map (·.2)

/-- The other address that an answer refers to. -/
def redirect? (a : Answer) (address : Url) : Option Url :=
  if [301, 302, 303, 307, 308].contains a.status then
    (a.header? "location").bind fun reference => (address.join reference).toOption
  else none

end Answer

/-- What is left to the client: how it reads the body of an answer as text. -/
structure Client where
  decode : Answer → String

/-- An answer, as the client reads it. -/
def Client.reply (c : Client) (a : Answer) : Reply := ⟨a.status, c.decode a⟩

/-- How often a request may be sent on. -/
def maxRedirects : Nat := 10

/-- The requests of an exchange, and its final reply. -/
structure Exchange where
  requests : List Request
  result : Except NetworkFault Reply

/-- Asks for the resource at an address, of a network that answers so, one request after the
other; where nothing is left to answer, the network cannot be reached. -/
def exchange (client : Client) (left : Nat) (address : Url) (outcomes : List Outcome) :
    Exchange :=
  if address.scheme ≠ "http" ∧ address.scheme ≠ "https" then ⟨[], .error .unknownScheme⟩
  else match outcomes with
    | [] => ⟨[], .error .unreachable⟩
    | .fault .unreachable :: _ => ⟨[], .error .unreachable⟩
    | .fault fault :: _ => ⟨[.get address], .error fault⟩
    | .answer a :: rest =>
      match a.redirect? address, left with
      | none, _ => ⟨[.get address], .ok (client.reply a)⟩
      | some _, 0 => ⟨[.get address], .error .tooManyRedirects⟩
      | some next, left + 1 =>
        let later := exchange client left next rest
        ⟨.get address :: later.requests, later.result⟩

end FeedIngest.Http
