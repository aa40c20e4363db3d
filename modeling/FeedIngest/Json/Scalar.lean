import FeedIngest.Json.Skip

/-! Typed scalars of a JSON text: integers of a range, strings, and values that may be
null. A value of another kind is read far enough to be named in the refusal; a list or
object is left unread. -/

namespace FeedIngest.Json

/-- A word and the value that it spells, refused. -/
def refuseWord (word : List Char) (found : Found) (expected : String) (cs : List Char) : Failure :=
  match readWord word cs with
  | .error f => f
  | .ok rest => .here (.wrongType found expected) rest

/-- A number, refused. -/
def refuseNumber (negative : Bool) (expected : String) (cs : List Char) : Failure :=
  match readNumber negative cs with
  | .error f => f
  | .ok (n, rest) => .here (.wrongType (.number n) expected) rest

/-- The refusal of a value of another kind than the expected one. -/
def refuse (expected : String) : List Char → Failure
  | [] => .here .endInValue []
  | c :: rest =>
    if c = 'n' then refuseWord ['u', 'l', 'l'] .null expected rest
    else if c = 't' then refuseWord ['r', 'u', 'e'] (.boolean true) expected rest
    else if c = 'f' then refuseWord ['a', 'l', 's', 'e'] (.boolean false) expected rest
    else if c = '-' then refuseNumber true expected rest
    else if Digits.isDigit c then refuseNumber false expected (c :: rest)
    else if c = '"' then
      match readText [] rest with
      | .error f => f
      | .ok (s, rest) => .here (.wrongType (.string s) expected) rest
    else if c = '[' then .here (.wrongType .list expected) (c :: rest)
    else if c = '\x7b' then .here (.wrongType .object expected) (c :: rest)
    else .atNext .expectedValue (c :: rest)

/-- An integer type by its name and range. -/
structure IntegerType where
  name : String
  least : Int
  greatest : Int

def IntegerType.unsigned64 : IntegerType := ⟨"u64", 0, 18446744073709551615⟩

def IntegerType.signed64 : IntegerType :=
  ⟨"i64", -9223372036854775808, 9223372036854775807⟩

/-- A number that has been read, as an integer of the type. -/
def IntegerType.accept (t : IntegerType) (n : Number) (rest : List Char) :
    Except Failure (Int × List Char) :=
  match n with
  | .integer i =>
    if t.least ≤ i ∧ i ≤ t.greatest then .ok (i, rest)
    else .error (.here (.wrongValue i t.name) rest)
  | .float bits => .error (.here (.wrongType (.number (.float bits)) t.name) rest)

/-- An integer of the type. -/
def IntegerType.read (t : IntegerType) (cs : List Char) : Except Failure (Int × List Char) :=
  match skipGap cs with
  | [] => .error (.here .endInValue [])
  | c :: rest =>
    if c = '-' then
      match readNumber true rest with
      | .error f => .error f
      | .ok (n, rest) => t.accept n rest
    else if Digits.isDigit c then
      match readNumber false (c :: rest) with
      | .error f => .error f
      | .ok (n, rest) => t.accept n rest
    else .error (refuse t.name (c :: rest))

/-- A string with its quotes. -/
def readString (cs : List Char) : Except Failure (String × List Char) :=
  match skipGap cs with
  | [] => .error (.here .endInValue [])
  | c :: rest =>
    if c = '"' then readText [] rest else .error (refuse "a string" (c :: rest))

/-- A value that may be null. -/
def readOptional {α : Type} (read : List Char → Except Failure (α × List Char))
    (cs : List Char) : Except Failure (Option α × List Char) :=
  match skipGap cs with
  | 'n' :: rest => (readWord ['u', 'l', 'l'] rest).map (none, ·)
  | rest => (read rest).map fun (a, rest) => (some a, rest)

end FeedIngest.Json
