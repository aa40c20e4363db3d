import FeedIngest.Storage.Error
import FeedIngest.Text.Charset
import FeedIngest.Text.Quoted
import FeedIngest.Url.Reference

/-! Options in the address of a database. User, password and database stand in its parts, the
others in its query, and one that cannot be read makes the address unusable. Unknown options
are passed over. -/

namespace FeedIngest.Storage.Options

/-- Why a text is no number. -/
inductive NumberFault
  | empty
  | invalidDigit
  | tooLarge
  deriving DecidableEq

def NumberFault.message : NumberFault → String
  | .empty => "cannot parse integer from empty string"
  | .invalidDigit => "invalid digit found in string"
  | .tooLarge => "number too large to fit in target type"

/-- Continues a number with digits. -/
def extend (bound n : Nat) : List Char → Except NumberFault Nat
  | [] => .ok n
  | c :: cs =>
    match Digits.digit? c with
    | none => .error .invalidDigit
    | some d => if bound < 10 * n + d then .error .tooLarge else extend bound (10 * n + d) cs

/-- A number of up to that value. -/
def number (bound : Nat) (cs : List Char) : Except NumberFault Nat :=
  if cs = [] then .error .empty
  else match Digits.unsigned cs with
    | [] => .error .invalidDigit
    | cs => extend bound 0 cs

def sslModes : List String :=
  ["disable", "allow", "prefer", "require", "verify-ca", "verify-full"]

/-- Whether a text is a numeric address. -/
def isAddress (cs : List Char) : Bool :=
  (Url.Ipv6.dotted? cs).isSome || (Url.Ipv6.read? cs).isSome

/-- What is wrong with an option. -/
def fault? (key value : String) : Option String :=
  let numberFault? (bound : Nat) : Option String :=
    match number bound value.toList with
    | .ok _ => none
    | .error fault => some fault.message
  match key with
  | "sslmode" | "ssl-mode" =>
    if sslModes.contains value.toLower then none
    else
      let unknown := "unknown value " ++ Text.quoted value ++ " for `ssl_mode`"
      some (DatabaseFault.configuration unknown).message
  | "port" => numberFault? 65535
  | "statement-cache-capacity" => numberFault? 18446744073709551615
  | "hostaddr" => if isAddress value.toList then none else some "invalid IP address syntax"
  | _ => none

/-- A part of a query as text: a plus sign is a blank, and escapes are decoded. -/
def plain (cs : List Char) : String :=
  String.ofList (Text.decodeUtf8 none (Url.unescape (cs.map fun c => if c = '+' then ' ' else c)))

/-- Keys and values of a query. -/
def pairs (query : List Char) : List (String × String) :=
  ((Url.splitOn '&' query).filter (· ≠ [])).map fun part =>
    (plain (part.takeWhile (· ≠ '=')), plain ((part.dropWhile (· ≠ '=')).drop 1))

/-- User, password and database, as they are written. -/
def parts (address : Url) : List (List Char) :=
  (match address.authority with
    | some a => [a.user, a.password]
    | none => []) ++ [address.path.text.dropWhile (· = '/')]

/-- What is wrong with the first bad option of an address. -/
def firstFault? (address : Url) : Option String :=
  let malformed := (parts address).findSome? fun part => Text.malformed? (Url.unescape part)
  match malformed with
  | some m => some m.message
  | none => (pairs (address.query.getD [])).findSome? fun (key, value) => fault? key value

end FeedIngest.Storage.Options
