import FeedIngest.Item.Header

/-! Items. The payload of an item is opaque: it is kept as it came, and its header is
read for logs and keys. -/

namespace FeedIngest

/-- Why a payload is no item, or not the expected one. -/
inductive ItemError
  | invalid (cause : Json.Cause) (place : Json.Position)
  | unexpectedId (expected found : ItemId)
  deriving DecidableEq

/-- An item of the feed, with the payload text as it came. -/
structure Item where
  id : ItemId
  author : Option String
  time : Option Int
  raw : String
  deriving DecidableEq

namespace ItemError

def message : ItemError → String
  | .invalid cause place =>
    s!"item payload is not valid JSON: {cause.text} at line {place.line} column {place.column}"
  | .unexpectedId expected found =>
    s!"expected item {expected} but the feed returned item {found}"

/-- The error with its parts told apart. -/
def detail : ItemError → String
  | .invalid cause place =>
    let text := Text.quoted cause.text
    s!"InvalidJson(Error({text}, line: {place.line}, column: {place.column}))"
  | .unexpectedId expected found =>
    "UnexpectedId \x7b expected: ItemId(" ++ expected.text ++ "), found: ItemId(" ++
      found.text ++ ") \x7d"

end ItemError

namespace Item

/-- The item of a payload. -/
def parse (raw : String) : Except ItemError Item :=
  let text := raw.toList
  match Header.read text with
  | .ok h => .ok ⟨h.id, h.author, h.time, raw⟩
  | .error f => .error (.invalid f.cause (f.position text))

/-- The item of a payload that has to have the expected identifier. -/
def parseFor (expected : ItemId) (raw : String) : Except ItemError Item :=
  match parse raw with
  | .error e => .error e
  | .ok item => if item.id = expected then .ok item else .error (.unexpectedId expected item.id)

end Item
end FeedIngest
