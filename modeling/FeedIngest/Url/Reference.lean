import FeedIngest.Url.Basic

/-! Reading addresses. A text with a scheme is an address; without one it is a reference
that needs a base: it replaces the base's authority, or its path from some segment on, or
less. Backslashes of well known schemes are slashes, and any number of slashes before their
authority will do. Segments of one or two points are steps in place or upwards. -/

namespace FeedIngest.Url

/-- Whether an authority ends in front of the character. -/
def endsAuthority (kind : SchemeKind) (c : Char) : Bool :=
  c = '/' || c = '?' || c = '#' || (c = '\\' && kind ≠ .other)

def isSlash (kind : SchemeKind) (c : Char) : Bool := c = '/' || (c = '\\' && kind ≠ .other)

/-- A host up to a colon outside brackets or the end of the authority, and the rest. -/
def spanHost (kind : SchemeKind) (inBrackets : Bool) : List Char → List Char × List Char
  | [] => ([], [])
  | c :: cs =>
    if endsAuthority kind c || (c = ':' && !inBrackets) then ([], c :: cs)
    else
      let (host, rest) := spanHost kind ((inBrackets || c = '[') && c ≠ ']') cs
      (c :: host, rest)

/-- A port number, from behind its colon. Without digits there is none. -/
def readPort (cs : List Char) : Except Fault (Option Nat × List Char) :=
  let rest := cs.dropWhile Digits.isDigit
  let ended := match rest with
    | [] => true
    | c :: _ => ['/', '\\', '?', '#'].contains c
  match ended, cs.takeWhile Digits.isDigit with
  | false, _ => .error .invalidPort
  | true, [] => .ok (none, rest)
  | true, digits =>
    match Digits.read? 65535 digits with
    | some n => .ok (some n, rest)
    | none => .error .invalidPort

/-- What stands before and behind the last at sign. -/
def splitUser (cs : List Char) : Option (List Char × List Char) :=
  let reversed := cs.reverse
  match reversed.dropWhile (· ≠ '@') with
  | [] => none
  | _ :: front => some (front.reverse, (reversed.takeWhile (· ≠ '@')).reverse)

/-- The host behind the user, and the port number if it is not the usual one. -/
def readServer (scheme : String) (cs : List Char) :
    Except Fault (Option Host × Option Nat × List Char) := do
  let (hostText, rest) := spanHost (kindOf scheme) false cs
  let host ←
    if kindOf scheme = .other then Host.readOwn hostText
    else if hostText = [] then .error .emptyHost
    else (Host.read hostText).map some
  match rest with
  | ':' :: rest =>
    if host.isNone then .error .emptyHost
    else
      let (number, rest) ← readPort rest
      return (host, if number = defaultPort? scheme then none else number, rest)
  | _ => return (host, none, rest)

/-- An authority from behind its slashes. -/
def readAuthority (scheme : String) (cs : List Char) : Except Fault (Authority × List Char) := do
  let kind := kindOf scheme
  let front := cs.takeWhile (!endsAuthority kind ·)
  let rest := cs.dropWhile (!endsAuthority kind ·)
  match splitUser front with
  | none =>
    let (host, number, rest) ← readServer scheme cs
    return (⟨[], [], host, number⟩, rest)
  | some (userText, server) =>
    if userText = [] ∧ server = [] ∧ rest ≠ [] then .error .emptyHost
    else
      let user := escape inUserinfo (userText.takeWhile (· ≠ ':'))
      let password := escape inUserinfo ((userText.dropWhile (· ≠ ':')).drop 1)
      let (host, number, rest) ← readServer scheme (server ++ rest)
      if host.isNone ∧ (user ≠ [] ∨ password ≠ []) then .error .emptyHost
      else return (⟨user, password, host, number⟩, rest)

/-- Path, query and fragment of a text. -/
structure Parts where
  path : List Char
  query : Option (List Char)
  fragment : Option (List Char)

/-- The text behind the first of a character, if it is there. -/
def behind (mark : Char) (cs : List Char) : Option (List Char) :=
  match cs.dropWhile (· ≠ mark) with
  | [] => none
  | _ :: rest => some rest

def splitParts (kind : SchemeKind) (cs : List Char) : Parts :=
  let front := cs.takeWhile (· ≠ '#')
  let querySet := if kind = .other then inQuery else inSpecialQuery
  ⟨front.takeWhile (· ≠ '?'), (behind '?' front).map (escape querySet),
    (behind '#' cs).map (escape inFragment)⟩

/-- Points that are written as escapes. -/
def plainPoints : List Char → List Char
  | '%' :: '2' :: 'e' :: cs => '.' :: plainPoints cs
  | '%' :: '2' :: 'E' :: cs => '.' :: plainPoints cs
  | c :: cs => c :: plainPoints cs
  | [] => []

/-- A letter with a colon or a bar names a drive. -/
def isDrive : List Char → Bool
  | [c, d] => (('a' ≤ c && c ≤ 'z') || ('A' ≤ c && c ≤ 'Z')) && (d = ':' || d = '|')
  | _ => false

/-- The path one step upwards; of files, a drive stays. -/
def parent (kind : SchemeKind) (path : List (List Char)) : List (List Char) :=
  match kind, path with
  | .file, [s] => if isDrive s then [s] else []
  | _, path => path.dropLast

/-- Behind a path, one more segment. -/
def push (kind : SchemeKind) (path : List (List Char)) (s : List Char) : List (List Char) :=
  path ++ [if kind = .file && path = [] && isDrive s then s.take 1 ++ [':'] else escape inPath s]

/-- Behind a path, the segments of a text. A step at its end leaves an empty segment. -/
def walk (kind : SchemeKind) (path : List (List Char)) : List (List Char) → List (List Char)
  | [] => path
  | s :: rest =>
    let last := rest.isEmpty
    let next :=
      match plainPoints s with
      | ['.'] => if last then path ++ [[]] else path
      | ['.', '.'] => if last then parent kind path ++ [[]] else parent kind path
      | _ => push kind path s
    walk kind next rest

/-- The segments of a path text, behind those of a path. -/
def readSegments (kind : SchemeKind) (path : List (List Char)) (cs : List Char) :
    List (List Char) :=
  walk kind path (splitOn '/' (cs.map fun c => if isSlash kind c then '/' else c))

/-- The segments of a path text behind an authority. Well known schemes have at least one. -/
def rootedSegments (kind : SchemeKind) (cs : List Char) : List (List Char) :=
  match cs with
  | [] => if kind = .other then [] else [[]]
  | c :: rest => readSegments kind [] (if isSlash kind c then rest else c :: rest)

/-- The path of some segments. Those of files do not begin with empty ones. -/
def settled (kind : SchemeKind) (path : List (List Char)) : List (List Char) :=
  if kind = .file then
    match path.dropWhile (· = []) with
    | [] => [[]]
    | path => path
  else path

/-- The path of a text behind an authority. -/
def readRooted (kind : SchemeKind) (cs : List Char) : Path :=
  .segments (settled kind (rootedSegments kind cs))

/-- An address from its authority on. -/
def readFrom (scheme : String) (cs : List Char) : Except Fault Url := do
  let (authority, rest) ← readAuthority scheme cs
  let parts := splitParts (kindOf scheme) rest
  return ⟨scheme, some authority, readRooted (kindOf scheme) parts.path, parts.query,
    parts.fragment⟩

/-- How many slashes stand in front. -/
def slashes (kind : SchemeKind) (cs : List Char) : Nat := (cs.takeWhile (isSlash kind)).length

/-- A host of files: none where a drive stands or where it is this machine. -/
def readFileHost (cs : List Char) : Except Fault (Option Host × List Char) :=
  let text := cs.takeWhile (!endsAuthority .file ·)
  let rest := cs.dropWhile (!endsAuthority .file ·)
  if text = [] then .ok (none, rest)
  else if isDrive text then .ok (none, cs)
  else match Host.read text with
    | .error f => .error f
    | .ok host =>
      .ok (if host = .domain "localhost".toList then none else some host, rest)

/-- Who serves a path. A drive that comes first in a path of files is on this machine. -/
def serving (kind : SchemeKind) (a : Authority) (cs : List Char) : Authority :=
  if kind = .file ∧ (rootedSegments kind cs).head?.any isDrive then { a with host := none } else a

/-- The address of a file of a host. -/
def fileOf (host : Option Host) (parts : Parts) : Url :=
  ⟨"file", some (serving .file ⟨[], [], host, none⟩ parts.path), readRooted .file parts.path,
    parts.query, parts.fragment⟩

/-- Whether a text begins with a drive as its first segment. -/
def beginsWithDrive (cs : List Char) : Bool :=
  isDrive (cs.take 2) && (cs.drop 2).head?.all (endsAuthority .file)

/-- What a path begins with when it is told anew: of files, the drive stays. -/
def root (kind : SchemeKind) (path : List (List Char)) : List (List Char) :=
  match kind, path with
  | .file, s :: _ => if isDrive s then [s] else []
  | _, _ => []

/-- A reference to a path, query or fragment, from a base with segments. -/
def resolvePath (base : Url) (segments : List (List Char)) (cs : List Char) : Url :=
  let kind := base.kind
  let parts := splitParts kind cs
  match parts.path with
  | [] =>
    ⟨base.scheme, base.authority, base.path, parts.query.or base.query, parts.fragment⟩
  | c :: rest =>
    let path := if isSlash kind c then readSegments kind (root kind segments) rest
      else readSegments kind (parent kind segments) (c :: rest)
    ⟨base.scheme, base.authority, .segments (settled kind path), parts.query, parts.fragment⟩

/-- An address of a file, with the base if that is one too. -/
def readFile (base : Option Url) (cs : List Char) : Except Fault Url :=
  if 2 ≤ slashes .file cs then do
    let (host, rest) ← readFileHost (cs.drop 2)
    return fileOf host (splitParts .file rest)
  else match base with
    | some ⟨scheme, authority, .segments segments, query, fragment⟩ =>
      if beginsWithDrive (cs.dropWhile (isSlash .file)) then .ok (fileOf none (splitParts .file cs))
      else .ok (resolvePath ⟨scheme, authority, .segments segments, query, fragment⟩ segments cs)
    | _ => .ok (fileOf none (splitParts .file cs))

/-- A reference without a scheme. -/
def readRelative (base : Url) (cs : List Char) : Except Fault Url :=
  match base.path with
  | .own _ =>
    match cs with
    | '#' :: rest => .ok { base with fragment := some (escape inFragment rest) }
    | _ => .error .relativeToOpaqueBase
  | .segments segments =>
    if base.kind = .file then readFile (some base) cs
    else if 2 ≤ slashes base.kind cs then
      readFrom base.scheme
        (if base.kind = .other then cs.drop 2 else cs.dropWhile (isSlash base.kind))
    else .ok (resolvePath base segments cs)

/-- An address behind its scheme, of which a base may be meant. -/
def readBehindScheme (base : Option Url) (scheme : String) (cs : List Char) : Except Fault Url :=
  let same := base.filter fun b => b.scheme = scheme
  match kindOf scheme with
  | .file => readFile same cs
  | .web =>
    match same with
    | some b =>
      if slashes .web cs < 2 then readRelative b cs
      else readFrom scheme (cs.dropWhile (isSlash .web))
    | none => readFrom scheme (cs.dropWhile (isSlash .web))
  | .other =>
    match cs with
    | '/' :: '/' :: rest => readFrom scheme rest
    | _ =>
      let parts := splitParts .other cs
      let path := match parts.path with
        | '/' :: rest => .segments (readSegments .other [] rest)
        | text => .own (escape isControl text)
      .ok ⟨scheme, none, path, parts.query, parts.fragment⟩

def isSchemeCharacter (c : Char) : Bool := c.isAlphanum || c = '+' || c = '-' || c = '.'

/-- A scheme, in lower case, and the text behind its colon. -/
def splitScheme (cs : List Char) : Option (String × List Char) :=
  match cs.takeWhile isSchemeCharacter, cs.dropWhile isSchemeCharacter with
  | c :: rest, ':' :: behind =>
    if c.isAlpha then some (String.ofList ((c :: rest).map Char.toLower), behind) else none
  | _, _ => none

/-- A text without controls and blanks at its ends, and without tabs and line breaks. -/
def cleaned (cs : List Char) : List Char :=
  let isEdge (c : Char) : Bool := c.toNat ≤ 0x20
  let core := ((cs.dropWhile isEdge).reverse.dropWhile isEdge).reverse
  core.filter fun c => c ≠ '\t' && c ≠ '\n' && c ≠ '\r'

/-- The address of a text, which may be a reference if there is a base. -/
def resolve (base : Option Url) (text : String) : Except Fault Url :=
  let cs := cleaned text.toList
  match splitScheme cs, base with
  | some (scheme, rest), base => readBehindScheme base scheme rest
  | none, some base => readRelative base cs
  | none, none => .error .relativeWithoutBase

/-- The address of a text. -/
def parse (text : String) : Except Fault Url := resolve none text

/-- The address that a reference means, seen from a base. -/
def join (base : Url) (reference : String) : Except Fault Url := resolve (some base) reference

end FeedIngest.Url
