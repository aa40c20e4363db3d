import FeedIngest.Url.Domain
import FeedIngest.Url.Fault

/-! Hosts. The host of a well known scheme is a domain name or a numeric address; a name that
ends in a number has to be an address. Other schemes have hosts of their own, in which only
some characters are refused. Both know addresses in brackets. -/

namespace FeedIngest.Url

inductive Host
  | domain (name : List Char)
  | ipv4 (address : Nat)
  | ipv6 (pieces : List Nat)
  /-- A host of a scheme with its own hosts. -/
  | own (text : List Char)
  deriving DecidableEq

namespace Host

/-- What stands between a bracket and the bracket at the end. -/
def bracketed? : List Char → Option (Option (List Char))
  | '[' :: cs => some (if cs.getLast? = some ']' then some cs.dropLast else none)
  | _ => none

/-- An address from its brackets. -/
def ofBrackets (inner : Option (List Char)) : Except Fault Host :=
  match inner.bind Ipv6.read? with
  | some pieces => .ok (.ipv6 pieces)
  | none => .error .invalidIpv6

/-- A name or numeric address from an ASCII name. -/
def ofName (name : List Char) : Except Fault Host :=
  if name = [] then .error .emptyHost
  else if Ipv4.endsInNumber name then
    match Ipv4.read? name with
    | some address => .ok (.ipv4 address)
    | none => .error .invalidIpv4
  else .ok (.domain name)

/-- The host of a well known scheme. -/
def read (cs : List Char) : Except Fault Host :=
  match bracketed? cs with
  | some inner => ofBrackets inner
  | none =>
    match (textOfBytes? (unescape cs)).bind Domain.toAscii? with
    | some name => ofName name
    | none => .error .invalidDomainName

/-- Characters that no host may hold, though it may hold a percent sign. -/
def isForbidden (c : Char) : Bool :=
  ['\x00', '\t', '\n', '\r', ' ', '#', '/', ':', '<', '>', '?', '@', '[', '\\', ']', '^',
    '|'].contains c

/-- The host of a scheme with its own hosts; there is none in an empty text. -/
def readOwn (cs : List Char) : Except Fault (Option Host) :=
  if cs = [] then .ok none
  else match bracketed? cs with
    | some inner => (ofBrackets inner).map some
    | none =>
      if cs.any isForbidden then .error .invalidHostCharacter
      else .ok (some (.own (escape isControl cs)))

/-- The length of the run of zero pieces at the beginning. -/
def zeros (pieces : List Nat) : Nat := (pieces.takeWhile (· = 0)).length

/-- Where the longest run of zero pieces begins, the first of equals, and its length. -/
def longestZeros : (start : Nat) → List Nat → Nat × Nat
  | _, [] => (0, 0)
  | start, p :: ps =>
    let later := longestZeros (start + 1) ps
    let here := zeros (p :: ps)
    if here ≠ 0 ∧ later.2 ≤ here then (start, here) else later

def piecesText (pieces : List Nat) : List Char :=
  [':'].intercalate (pieces.map (Nat.toDigits 16))

/-- The host as it is written. -/
def text : Host → List Char
  | .domain name => name
  | .own text => text
  | .ipv4 a =>
    ['.'].intercalate ([a / 16777216, a / 65536 % 256, a / 256 % 256, a % 256].map Digits.write)
  | .ipv6 pieces =>
    let (start, length) := longestZeros 0 pieces
    '[' :: (if 2 ≤ length then
        piecesText (pieces.take start) ++ [':', ':'] ++ piecesText (pieces.drop (start + length))
      else piecesText pieces) ++ [']']

end Host
end FeedIngest.Url
