import FeedIngest.Json.Failure
import FeedIngest.Text.Digits

/-! Numbers of a JSON text. An integer of up to 64 bits is kept exactly. Any other
number becomes a floating point number: its digits are gathered into 64 bits, further
digits only move the exponent, and the result is scaled by powers of ten in floating
point arithmetic. A skipped number is only checked for its form. -/

namespace FeedIngest.Json

open Digits

def startsWithDigit : List Char → Bool
  | [] => false
  | c :: _ => isDigit c

def dropDigits (cs : List Char) : List Char := cs.dropWhile isDigit

/-- Appends digits to a significand while it fits 64 bits, and counts them. -/
def gather (significand taken : Nat) : List Char → Nat × Nat × List Char
  | [] => (significand, taken, [])
  | c :: cs =>
    match digit? c with
    | none => (significand, taken, c :: cs)
    | some d =>
      if 10 * significand + d < 18446744073709551616 then gather (10 * significand + d) (taken + 1) cs
      else (significand, taken, c :: cs)

/-- `10 ^ n` for `n` up to 308. -/
def powerOfTen (n : Nat) : Float := Float.ofScientific 1 false n

/-- Divides by `10 ^ n`, in steps that floating point numbers can hold. -/
def scaleDown (f : Float) (n : Nat) : Float :=
  if n ≤ 308 then f / powerOfTen n
  else if f == 0 then f
  else scaleDown (f / powerOfTen 308) (n - 308)
termination_by n

/-- `significand · 10 ^ exponent`, unless it is too large. -/
def assemble? (significand : Nat) (exponent : Int) : Option Float :=
  let f := (UInt64.ofNat significand).toFloat
  if exponent < 0 then some (scaleDown f exponent.natAbs)
  else if exponent ≤ 308 then
    let scaled := f * powerOfTen exponent.natAbs
    if scaled.isInf then none else some scaled
  else if f == 0 then some f else none

/-- The floating point number with that sign and size, read up to the unread text. -/
def signed (negative : Bool) (size : Option Float) (unread : List Char) :
    Except Failure (Number × List Char) :=
  match size with
  | some f => .ok (.float (if negative then -f else f).toBits, unread)
  | none => .error (.here .numberOutOfRange unread)

/-- Reads the digits of an exponent while it fits 31 bits. Nothing is answered where it
does not, behind the digit that is too many. -/
def exponentDigits (e : Nat) : List Char → Option Nat × List Char
  | [] => (some e, [])
  | c :: cs =>
    match digit? c with
    | none => (some e, c :: cs)
    | some d => if 10 * e + d < 2147483648 then exponentDigits (10 * e + d) cs else (none, cs)

/-- The sign of an exponent: whether it is negative, and what follows. -/
def exponentSign : List Char → Bool × List Char
  | '+' :: cs => (false, cs)
  | '-' :: cs => (true, cs)
  | cs => (false, cs)

/-- A number from behind the letter of its exponent. -/
def readExponent (negative : Bool) (significand : Nat) (exponent : Int) (cs : List Char) :
    Except Failure (Number × List Char) :=
  match exponentSign cs with
  | (_, []) => .error (.here .endInValue [])
  | (down, c :: rest) =>
    if isDigit c then
      match exponentDigits 0 (c :: rest) with
      | (some e, rest) =>
        signed negative (assemble? significand (exponent + if down then -(e : Int) else e)) rest
      | (none, rest) =>
        if significand ≠ 0 ∧ down = false then .error (.here .numberOutOfRange rest)
        else signed negative (some 0) (dropDigits rest)
    else .error (.atNext .invalidNumber (c :: rest))

/-- A floating point number whose mantissa is complete. -/
def readScaled (negative : Bool) (significand : Nat) (exponent : Int) :
    List Char → Except Failure (Number × List Char)
  | [] => signed negative (assemble? significand exponent) []
  | c :: rest =>
    if c = 'e' ∨ c = 'E' then readExponent negative significand exponent rest
    else signed negative (assemble? significand exponent) (c :: rest)

/-- A number from behind its decimal point. -/
def readFraction (negative : Bool) (significand : Nat) (exponent : Int) (cs : List Char) :
    Except Failure (Number × List Char) :=
  match gather significand 0 cs with
  | (s, taken, rest) =>
    if startsWithDigit rest then readScaled negative s (exponent - taken) (dropDigits rest)
    else if taken = 0 then
      .error (if rest = [] then .here .endInValue [] else .atNext .invalidNumber rest)
    else readScaled negative s (exponent - taken) rest

/-- A floating point number from behind its integer part. -/
def readFloat (negative : Bool) (significand : Nat) (exponent : Int) :
    List Char → Except Failure (Number × List Char)
  | [] => signed negative (assemble? significand exponent) []
  | c :: rest =>
    if c = '.' then readFraction negative significand exponent rest
    else readScaled negative significand exponent (c :: rest)

/-- Whether a number goes on behind its integer part. -/
def continues : List Char → Bool
  | [] => false
  | c :: _ => c = '.' || c = 'e' || c = 'E'

/-- A number whose integer part fits 64 bits. Zero with a minus sign and integers below
`-2 ^ 63` are floating point numbers. -/
def readShort (negative : Bool) (significand : Nat) (cs : List Char) :
    Except Failure (Number × List Char) :=
  if continues cs then readFloat negative significand 0 cs
  else if !negative then .ok (.integer significand, cs)
  else if 0 < significand ∧ significand ≤ 9223372036854775808 then .ok (.integer (-significand), cs)
  else signed true (some (UInt64.ofNat significand).toFloat) cs

/-- A number from behind its minus sign, if it has one. -/
def readNumber (negative : Bool) : List Char → Except Failure (Number × List Char)
  | [] => .error (.here .endInValue [])
  | c :: rest =>
    if c = '0' then
      if startsWithDigit rest then .error (.atNext .invalidNumber rest)
      else readShort negative 0 rest
    else if isDigit c then
      match gather 0 0 (c :: rest) with
      | (s, _, rest) =>
        if startsWithDigit rest then
          let rest' := dropDigits rest
          readFloat negative s (rest.length - rest'.length : Nat) rest'
        else readShort negative s rest
    else .error (.atNext .invalidNumber (c :: rest))

/-- The text behind the exponent of a skipped number. -/
def skipExponent (cs : List Char) : Except Failure (List Char) :=
  let (_, rest) := exponentSign cs
  if startsWithDigit rest then .ok (dropDigits rest) else .error (.atNext .invalidNumber rest)

/-- The text behind a skipped number whose mantissa is complete. -/
def skipScaled : List Char → Except Failure (List Char)
  | [] => .ok []
  | c :: rest => if c = 'e' ∨ c = 'E' then skipExponent rest else .ok (c :: rest)

/-- The text behind a skipped number, from behind its integer part. -/
def skipFraction : List Char → Except Failure (List Char)
  | [] => .ok []
  | c :: rest =>
    if c = '.' then
      if startsWithDigit rest then skipScaled (dropDigits rest)
      else .error (.atNext .invalidNumber rest)
    else skipScaled (c :: rest)

/-- The text behind a skipped number, from behind its minus sign. -/
def skipNumber : List Char → Except Failure (List Char)
  | [] => .error (.here .invalidNumber [])
  | c :: rest =>
    if c = '0' then
      if startsWithDigit rest then .error (.atNext .invalidNumber rest) else skipFraction rest
    else if isDigit c then skipFraction (dropDigits rest)
    else .error (.atNext .invalidNumber (c :: rest))

end FeedIngest.Json
