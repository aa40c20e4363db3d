import FeedIngest.Json.Failure
import FeedIngest.Text.Digits

/-! Strings of a JSON text, read behind their opening quote. A decoded string pairs its
surrogates; a skipped one is only checked for the form of its escapes. Four hex digits
are taken as four bytes, so that a short or bad group of digits has its place even where
it cuts through a character. -/

namespace FeedIngest.Json

/-- The character that a one letter escape stands for. -/
def letterEscape? (c : Char) : Option Char :=
  if c = '"' then some '"'
  else if c = '\\' then some '\\'
  else if c = '/' then some '/'
  else if c = 'b' then some '\x08'
  else if c = 'f' then some '\x0c'
  else if c = 'n' then some '\n'
  else if c = 'r' then some '\r'
  else if c = 't' then some '\t'
  else none

/-- The number spelled by four hex digits. -/
def hexQuad? (a b c d : Char) : Option Nat := do
  return (((← Digits.hex? a) * 16 + (← Digits.hex? b)) * 16 + (← Digits.hex? c)) * 16 +
    (← Digits.hex? d)

/-- Why no four hex digits could be read from the unread text. -/
def hexFailure (unread : List Char) : Failure :=
  if bytes unread < 4 then ⟨.endInString, 0⟩ else ⟨.invalidEscape, bytes unread - 4⟩

def isLeading (n : Nat) : Bool := 0xD800 ≤ n && n ≤ 0xDBFF

def isTrailing (n : Nat) : Bool := 0xDC00 ≤ n && n ≤ 0xDFFF

/-- The character of a surrogate pair. -/
def pairedChar (high low : Nat) : Char :=
  Char.ofNat (0x10000 + (high - 0xD800) * 0x400 + (low - 0xDC00))

/-- The rest of a decoded string; `before` holds its characters so far, the last first. -/
def readText (before : List Char) : List Char → Except Failure (String × List Char)
  | [] => .error (.here .endInString [])
  | c :: rest =>
    if c = '"' then .ok (String.ofList before.reverse, rest)
    else if c = '\\' then
      match rest with
      | [] => .error (.here .endInString [])
      | e :: rest =>
        if e = 'u' then
          match rest with
          | h₁ :: h₂ :: h₃ :: h₄ :: rest' =>
            match hexQuad? h₁ h₂ h₃ h₄ with
            | none => .error (hexFailure rest)
            | some n =>
              if isTrailing n then .error (.here .loneSurrogate rest')
              else if isLeading n then
                match rest' with
                | [] => .error (.here .endInString [])
                | c₁ :: rest₁ =>
                  if c₁ ≠ '\\' then .error (.atNext .unpairedSurrogate (c₁ :: rest₁))
                  else match rest₁ with
                  | [] => .error (.here .endInString [])
                  | c₂ :: rest₂ =>
                    if c₂ ≠ 'u' then .error (.atNext .unpairedSurrogate (c₂ :: rest₂))
                    else match rest₂ with
                    | l₁ :: l₂ :: l₃ :: l₄ :: rest₃ =>
                      match hexQuad? l₁ l₂ l₃ l₄ with
                      | none => .error (hexFailure rest₂)
                      | some m =>
                        if isTrailing m then readText (pairedChar n m :: before) rest₃
                        else .error (.here .loneSurrogate rest₃)
                    | _ => .error (hexFailure rest₂)
              else readText (Char.ofNat n :: before) rest'
          | _ => .error (hexFailure rest)
        else match letterEscape? e with
          | some x => readText (x :: before) rest
          | none => .error (.atNext .invalidEscape (e :: rest))
    else if c < ' ' then .error (.here .controlCharacter rest)
    else readText (c :: before) rest

/-- The text behind a string that is only skipped. -/
def skipText : List Char → Except Failure (List Char)
  | [] => .error (.here .endInString [])
  | c :: rest =>
    if c = '"' then .ok rest
    else if c = '\\' then
      match rest with
      | [] => .error (.here .endInString [])
      | e :: rest =>
        if e = 'u' then
          match rest with
          | h₁ :: h₂ :: h₃ :: h₄ :: rest' =>
            if (hexQuad? h₁ h₂ h₃ h₄).isSome then skipText rest'
            else .error (hexFailure rest)
          | _ => .error (hexFailure rest)
        else if (letterEscape? e).isSome then skipText rest
        else .error (.atNext .invalidEscape (e :: rest))
    else if c < ' ' then .error (.here .controlCharacter (c :: rest))
    else skipText rest

end FeedIngest.Json
