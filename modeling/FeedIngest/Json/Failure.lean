import FeedIngest.Decimal.Notation
import FeedIngest.Text.Quoted

/-! Refusals of a JSON text: the cause, and the place as the number of bytes that were
still unread there. A place found by looking at the next byte lies behind that byte.
Line and column are counted from the whole text, columns in bytes. -/

namespace FeedIngest.Json

/-- A number as it was spelled: an integer of 64 bits, signed where negative, or a
floating point number by its bits. -/
inductive Number
  | integer (i : Int)
  | float (bits : UInt64)
  deriving DecidableEq

/-- What stood where something else was expected. -/
inductive Found
  | null
  | boolean (b : Bool)
  | number (n : Number)
  | string (s : String)
  | list
  | object
  deriving DecidableEq

inductive Cause
  | endInValue
  | endInObject
  | endInList
  | endInString
  | expectedColon
  | expectedCommaOrBrace
  | expectedCommaOrBracket
  | expectedValue
  | expectedWord
  | invalidNumber
  | numberOutOfRange
  | invalidEscape
  | loneSurrogate
  | unpairedSurrogate
  | controlCharacter
  | keyNotString
  | trailingComma
  | trailingCharacters
  | wrongType (found : Found) (expected : String)
  | wrongValue (found : Int) (expected : String)
  | wrongLength (length : Nat) (expected : String)
  | duplicateField (name : String)
  | missingField (name : String)
  deriving DecidableEq

/-- A cause and how many bytes lie behind its place. -/
structure Failure where
  cause : Cause
  left : Nat
  deriving DecidableEq

/-- The length of a text in bytes. -/
def bytes (cs : List Char) : Nat := cs.foldr (fun c n => c.utf8Size + n) 0

/-- A failure in front of the unread text. -/
def Failure.here (cause : Cause) (unread : List Char) : Failure := ⟨cause, bytes unread⟩

/-- A failure over the next byte of the unread text, if there is one. -/
def Failure.atNext (cause : Cause) (unread : List Char) : Failure :=
  ⟨cause, bytes unread - 1⟩

def Number.text : Number → String
  | .integer i => s!"integer `{i}`"
  | .float bits =>
    let digits := String.ofList (Decimal.Layout.scientific.text bits)
    s!"floating point `{digits}`"

def Found.text : Found → String
  | .null => "null"
  | .boolean true => "boolean `true`"
  | .boolean false => "boolean `false`"
  | .number n => n.text
  | .string s => "string " ++ Text.quoted s
  | .list => "sequence"
  | .object => "map"

def Cause.text : Cause → String
  | .endInValue => "EOF while parsing a value"
  | .endInObject => "EOF while parsing an object"
  | .endInList => "EOF while parsing a list"
  | .endInString => "EOF while parsing a string"
  | .expectedColon => "expected `:`"
  | .expectedCommaOrBrace => "expected `,` or `\x7d`"
  | .expectedCommaOrBracket => "expected `,` or `]`"
  | .expectedValue => "expected value"
  | .expectedWord => "expected ident"
  | .invalidNumber => "invalid number"
  | .numberOutOfRange => "number out of range"
  | .invalidEscape => "invalid escape"
  | .loneSurrogate => "lone leading surrogate in hex escape"
  | .unpairedSurrogate => "unexpected end of hex escape"
  | .controlCharacter => "control character (\\u0000-\\u001F) found while parsing a string"
  | .keyNotString => "key must be a string"
  | .trailingComma => "trailing comma"
  | .trailingCharacters => "trailing characters"
  | .wrongType found expected => s!"invalid type: {found.text}, expected {expected}"
  | .wrongValue found expected => s!"invalid value: integer `{found}`, expected {expected}"
  | .wrongLength length expected => s!"invalid length {length}, expected {expected}"
  | .duplicateField name => s!"duplicate field `{name}`"
  | .missingField name => s!"missing field `{name}`"

/-- Lines are counted from one, columns in bytes since the last line break. -/
structure Position where
  line : Nat
  column : Nat
  deriving DecidableEq

/-- The position after `n` bytes of a text that starts at the given position. -/
def Position.after (p : Position) (n : Nat) : List Char → Position
  | [] => ⟨p.line, p.column + n⟩
  | c :: cs =>
    if n < c.utf8Size then ⟨p.line, p.column + n⟩
    else if c = '\n' then Position.after ⟨p.line + 1, 0⟩ (n - 1) cs
    else Position.after ⟨p.line, p.column + c.utf8Size⟩ (n - c.utf8Size) cs

/-- Where in the whole text a failure lies. -/
def Failure.position (f : Failure) (text : List Char) : Position :=
  Position.after ⟨1, 0⟩ (bytes text - f.left) text

end FeedIngest.Json
