import FeedIngest.Http.Exchange
import FeedIngest.Text.Charset

/-! A client that reads bodies in the encoding that the media type of an answer names, if it is
one of the few it knows, and as UTF-8 otherwise. A header that is no media type names none. -/

namespace FeedIngest.Http

/-- Whether a character may stand in the names of a media type. -/
def isToken (c : Char) : Bool :=
  ('a' ≤ c && c ≤ 'z') || ('A' ≤ c && c ≤ 'Z') || ('0' ≤ c && c ≤ '9') ||
    "!#$%&'*+-.^_`|~".toList.contains c

/-- Where the reading of a media type stands, with what has been read of its part. -/
inductive MediaPart
  | type (cs : List Char)
  | subtype (cs : List Char)
  | name (cs : List Char)
  | value (name cs : List Char)
  | quoted (name cs : List Char)
  /-- Behind a value in quotation marks. -/
  | behind

/-- What has been read of a media type: its parameters, latest first, and a part. -/
structure MediaType where
  parameters : List (List Char × List Char)
  part : MediaPart

namespace MediaType

def start : MediaType := ⟨[], .type []⟩

/-- A media type with one character more. -/
def step? (m : MediaType) (c : Char) : Option MediaType :=
  match m.part with
  | .type cs =>
    if isToken c then some { m with part := .type (cs ++ [c]) }
    else if c = '/' ∧ cs ≠ [] then some { m with part := .subtype [] }
    else none
  | .subtype cs =>
    if isToken c then some { m with part := .subtype (cs ++ [c]) }
    else if c = ';' ∧ cs ≠ [] then some { m with part := .name [] }
    else none
  | .name cs =>
    if isToken c then some { m with part := .name (cs ++ [c]) }
    else if c = ' ' ∧ cs = [] then some m
    else if c = '=' ∧ cs ≠ [] then some { m with part := .value cs [] }
    else none
  | .value name cs =>
    if isToken c then some { m with part := .value name (cs ++ [c]) }
    else if c = '"' ∧ cs = [] then some { m with part := .quoted name [] }
    else if c = ';' ∧ cs ≠ [] then some ⟨(name, cs) :: m.parameters, .name []⟩
    else none
  | .quoted name cs =>
    if c = '"' ∧ cs ≠ [] then some ⟨(name, cs) :: m.parameters, .behind⟩
    else some { m with part := .quoted name (cs ++ [c]) }
  | .behind =>
    if c = ';' then some { m with part := .name [] }
    else if c = ' ' then some m
    else none

/-- The parameters of a media type that has been read to its end. -/
def finish? (m : MediaType) : Option (List (List Char × List Char)) :=
  match m.part with
  | .subtype _ | .name [] | .behind => some m.parameters.reverse
  | .value name cs => some ((name, cs) :: m.parameters).reverse
  | _ => none

/-- The parameters of a text, if it is a media type in visible characters. -/
def parameters? (cs : List Char) : Option (List (List Char × List Char)) :=
  if cs.all fun c => ' ' ≤ c && c ≤ '~' then (cs.foldlM step? start).bind finish? else none

end MediaType

/-- The encoding that an answer names. -/
def Answer.encoding (a : Answer) : Text.Encoding :=
  let parameters := (a.header? "content-type").bind fun value => MediaType.parameters? value.toList
  match (parameters.getD []).find? fun p => (String.ofList p.1).toLower = "charset" with
  | some (_, label) => .ofLabel (String.ofList label)
  | none => .utf8

/-- The client that reads bodies so. -/
def Client.byCharset : Client := ⟨fun a => Text.ofBytes a.encoding a.body⟩

end FeedIngest.Http
