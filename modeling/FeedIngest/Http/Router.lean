import FeedIngest.Metrics

/-! Routes of the HTTP side. A route is a path, in which a segment after a colon stands
for any one segment, and a reply for each of its methods. Each request is answered and
measured: under the path of its route, or under its own path if no route has it. -/

namespace FeedIngest.Http

structure Response where
  status : Nat
  body : String
  deriving DecidableEq

/-- A path and what its methods answer. -/
structure Route where
  path : String
  replies : List (String × Response)
  deriving DecidableEq

/-- Whether the segments of a path are those of a pattern. -/
def matchSegments : List String → List String → Bool
  | [], [] => true
  | p :: ps, s :: ss =>
    (if p.startsWith ":" then s ≠ "" else p = s) && matchSegments ps ss
  | _, _ => false

def segments (path : String) : List String := path.splitOn "/"

/-- A request line's target without query and fragment. -/
def pathOf (target : String) : String :=
  String.ofList (target.toList.takeWhile fun c => c ≠ '?' && c ≠ '#')

namespace Route

def isFor (r : Route) (path : String) : Bool := matchSegments (segments r.path) (segments path)

/-- The reply to a method. A request for the head alone gets the reply to `GET` without
its body, and an unknown method is refused. -/
def reply (r : Route) (method : String) : Response :=
  match r.replies.lookup method with
  | some response => response
  | none =>
    match method, r.replies.lookup "GET" with
    | "HEAD", some response => ⟨response.status, ""⟩
    | _, _ => ⟨405, ""⟩

end Route

/-- The reply to a request, and its measure. -/
def respond (routes : List Route) (method target : String) : Response × Measure :=
  let path := pathOf target
  match routes.find? (·.isFor path) with
  | some route =>
    let response := route.reply method
    (response, .request method route.path response.status)
  | none => (⟨404, ""⟩, .request method path 404)

end FeedIngest.Http
