import FeedIngest.Url.Host

/-! Addresses of resources: a scheme, who serves it, a path, and up to two more parts. A path
is a list of segments, or a text of the scheme's own that no reference can be resolved
against. All parts are held as they are written, with their escapes. -/

namespace FeedIngest

namespace Url

/-- How a scheme's addresses are read. -/
inductive SchemeKind
  /-- Hosts are domain names, and a backslash is a slash. -/
  | web
  | file
  | other
  deriving DecidableEq

def kindOf (scheme : String) : SchemeKind :=
  if ["http", "https", "ws", "wss", "ftp"].contains scheme then .web
  else if scheme = "file" then .file
  else .other

/-- The port number that goes without saying. -/
def defaultPort? (scheme : String) : Option Nat :=
  [("http", 80), ("https", 443), ("ws", 80), ("wss", 443), ("ftp", 21)].lookup scheme

/-- Who serves a resource. -/
structure Authority where
  user : List Char
  password : List Char
  host : Option Host
  portNumber : Option Nat
  deriving DecidableEq

inductive Path
  | segments (parts : List (List Char))
  | own (text : List Char)
  deriving DecidableEq

namespace Path

/-- Each segment behind a slash. -/
def text : Path → List Char
  | .segments parts => parts.flatMap ('/' :: ·)
  | .own text => text

end Path
end Url

structure Url where
  scheme : String
  authority : Option Url.Authority
  path : Url.Path
  query : Option (List Char)
  fragment : Option (List Char)
  deriving DecidableEq

namespace Url

def kind (u : Url) : SchemeKind := kindOf u.scheme

/-- The part of a request line that names the resource. -/
def target (u : Url) : List Char :=
  u.path.text ++ match u.query with
    | some q => '?' :: q
    | none => []

def Authority.text (a : Authority) : List Char :=
  (if a.user = [] ∧ a.password = [] then []
    else a.user ++ (if a.password = [] then [] else ':' :: a.password) ++ ['@']) ++
  (match a.host with
    | some h => h.text
    | none => []) ++
  match a.portNumber with
  | some n => ':' :: Digits.write n
  | none => []

/-- The whole address. -/
def text (u : Url) : List Char :=
  u.scheme.toList ++ ':' ::
    (match u.authority with
      | some a => '/' :: '/' :: a.text
      | none => []) ++ u.target ++
    match u.fragment with
    | some f => '#' :: f
    | none => []

end Url
end FeedIngest
