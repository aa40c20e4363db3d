import FeedIngest.Except
import FeedIngest.Json.Number
import FeedIngest.Json.Text

/-! Skipping of whole values. The enclosing lists and objects are kept on a stack, so the
depth of a value has no limit. Each step reads at least one character. -/

namespace FeedIngest.Json

/-- Space, tab and the two line break characters. -/
def isGap (c : Char) : Bool := c = ' ' || c = '\t' || c = '\n' || c = '\r'

def skipGap (cs : List Char) : List Char := cs.dropWhile isGap

/-- The text behind a word whose first letter has been read. -/
def readWord : List Char → List Char → Except Failure (List Char)
  | [], unread => .ok unread
  | _ :: _, [] => .error (.here .endInValue [])
  | w :: word, c :: unread =>
    if c = w then readWord word unread else .error (.atNext .expectedWord (c :: unread))

/-- An enclosing list or object. -/
inductive Frame
  | list
  | object
  deriving DecidableEq

def Frame.closing : Frame → Char
  | .list => ']'
  | .object => '\x7d'

def Frame.atEnd : Frame → Cause
  | .list => .endInList
  | .object => .endInObject

def Frame.expectedComma : Frame → Cause
  | .list => .expectedCommaOrBracket
  | .object => .expectedCommaOrBrace

/-- The text behind the key of a skipped member and its colon. -/
def skipKey (cs : List Char) : Except Failure (List Char) :=
  match skipGap cs with
  | [] => .error (.here .endInObject [])
  | c :: rest =>
    if c = '"' then
      match skipText rest with
      | .error f => .error f
      | .ok rest =>
        match skipGap rest with
        | [] => .error (.here .endInObject [])
        | d :: rest => if d = ':' then .ok rest else .error (.atNext .expectedColon (d :: rest))
    else .error (.atNext .keyNotString (c :: rest))

/-- The text in front of the next value of a frame: behind the key, in an object. -/
def Frame.skipToValue : Frame → List Char → Except Failure (List Char)
  | .list, cs => .ok cs
  | .object, cs => skipKey cs

/-- What a skipped value leaves to be done. -/
inductive Next
  /-- A value has ended. -/
  | after
  /-- A value of this frame follows. -/
  | value (frame : Frame)
  deriving DecidableEq

/-- Behind the bracket that opens a frame. -/
def openFrame (frame : Frame) (cs : List Char) : Except Failure (Next × List Char) :=
  match skipGap cs with
  | [] => .error (.here frame.atEnd [])
  | c :: rest =>
    if c = frame.closing then .ok (.after, rest)
    else (frame.skipToValue (c :: rest)).map (.value frame, ·)

/-- Reads a scalar value, or the beginning of a list or object. -/
def skipHead (cs : List Char) : Except Failure (Next × List Char) :=
  match skipGap cs with
  | [] => .error (.here .endInValue [])
  | c :: rest =>
    if c = 'n' then (readWord ['u', 'l', 'l'] rest).map (.after, ·)
    else if c = 't' then (readWord ['r', 'u', 'e'] rest).map (.after, ·)
    else if c = 'f' then (readWord ['a', 'l', 's', 'e'] rest).map (.after, ·)
    else if c = '-' then (skipNumber rest).map (.after, ·)
    else if Digits.isDigit c then (skipNumber (c :: rest)).map (.after, ·)
    else if c = '"' then (skipText rest).map (.after, ·)
    else if c = '[' then openFrame .list rest
    else if c = '\x7b' then openFrame .object rest
    else .error (.atNext .expectedValue (c :: rest))

/-- Behind a value inside a frame: whether the frame goes on or ends. -/
def skipBehind (frame : Frame) (cs : List Char) : Except Failure (Bool × List Char) :=
  match skipGap cs with
  | [] => .error (.here frame.atEnd [])
  | c :: rest =>
    if c = ',' then (frame.skipToValue rest).map (true, ·)
    else if c = frame.closing then .ok (false, rest)
    else .error (.atNext frame.expectedComma (c :: rest))

theorem length_skipGap (cs : List Char) : (skipGap cs).length ≤ cs.length :=
  (List.dropWhile_sublist _).length_le

theorem length_dropDigits (cs : List Char) : (dropDigits cs).length ≤ cs.length :=
  (List.dropWhile_sublist _).length_le

theorem length_of_skipText {cs r : List Char} (h : skipText cs = .ok r) :
    r.length < cs.length := by
  fun_induction skipText cs <;> simp_all <;> omega

theorem length_of_readWord {word cs r : List Char} (h : readWord word cs = .ok r) :
    r.length ≤ cs.length := by
  fun_induction readWord word cs <;> simp_all
  omega

theorem length_exponentSign (cs : List Char) : (exponentSign cs).2.length ≤ cs.length := by
  unfold exponentSign; split <;> simp

theorem length_of_skipExponent {cs r : List Char} (h : skipExponent cs = .ok r) :
    r.length ≤ cs.length := by
  have h₁ := length_exponentSign cs
  have h₂ := length_dropDigits (exponentSign cs).2
  simp only [skipExponent] at h
  split at h <;> simp_all
  omega

theorem length_of_skipScaled {cs r : List Char} (h : skipScaled cs = .ok r) :
    r.length ≤ cs.length := by
  cases cs with
  | nil => simp_all [skipScaled]
  | cons c cs =>
    simp only [skipScaled] at h
    split at h
    · have := length_of_skipExponent h; simp; omega
    · cases h; simp

theorem length_of_skipFraction {cs r : List Char} (h : skipFraction cs = .ok r) :
    r.length ≤ cs.length := by
  cases cs with
  | nil => simp_all [skipFraction]
  | cons c cs =>
    simp only [skipFraction] at h
    split at h
    · split at h
      · have h₁ := length_of_skipScaled h; have h₂ := length_dropDigits cs
        simp; omega
      · cases h
    · exact length_of_skipScaled h

theorem length_of_skipNumber {cs r : List Char} (h : skipNumber cs = .ok r) :
    r.length < cs.length := by
  cases cs with
  | nil => simp [skipNumber] at h
  | cons c cs =>
    simp only [skipNumber] at h
    split at h
    · split at h
      · cases h
      · have := length_of_skipFraction h; simp; omega
    · split at h
      · have h₁ := length_of_skipFraction h; have h₂ := length_dropDigits cs
        simp; omega
      · cases h

theorem length_of_skipKey {cs r : List Char} (h : skipKey cs = .ok r) :
    r.length < cs.length := by
  have h₁ := length_skipGap cs
  unfold skipKey at h
  split at h
  · cases h
  case h_2 c rest e =>
    rw [e] at h₁
    split at h
    · split at h
      · cases h
      case h_2 rest' e' =>
        have h₂ := length_of_skipText e'
        have h₃ := length_skipGap rest'
        split at h
        · cases h
        case h_2 d rest'' e'' =>
          rw [e''] at h₃
          split at h
          · cases h; simp at h₁ h₃; omega
          · cases h
    · cases h

theorem length_of_skipToValue {frame : Frame} {cs r : List Char}
    (h : frame.skipToValue cs = .ok r) : r.length ≤ cs.length := by
  cases frame with
  | list => cases h; exact Nat.le_refl _
  | object => exact Nat.le_of_lt (length_of_skipKey h)

theorem length_of_openFrame {frame : Frame} {cs r : List Char} {next : Next}
    (h : openFrame frame cs = .ok (next, r)) : r.length ≤ cs.length := by
  have h₁ := length_skipGap cs
  unfold openFrame at h
  split at h
  · cases h
  case h_2 c rest e =>
    rw [e] at h₁
    split at h
    · cases h; simp at h₁; omega
    · obtain ⟨a, ha, hb⟩ := map_eq_ok h
      cases hb
      have := length_of_skipToValue ha
      omega

theorem eq_ok_of_map_pair {α : Type} {x : Except Failure (List Char)} {a b : α} {r : List Char}
    (h : x.map (a, ·) = .ok (b, r)) : x = .ok r := by
  obtain ⟨_, hx, e⟩ := map_eq_ok h
  cases e
  exact hx

theorem length_of_skipHead {cs r : List Char} {next : Next}
    (h : skipHead cs = .ok (next, r)) : r.length < cs.length := by
  have h₁ := length_skipGap cs
  unfold skipHead at h
  split at h
  · cases h
  case h_2 c rest e =>
    rw [e] at h₁
    simp only [List.length_cons] at h₁
    split at h
    · have := length_of_readWord (eq_ok_of_map_pair h); omega
    split at h
    · have := length_of_readWord (eq_ok_of_map_pair h); omega
    split at h
    · have := length_of_readWord (eq_ok_of_map_pair h); omega
    split at h
    · have := length_of_skipNumber (eq_ok_of_map_pair h); omega
    split at h
    · have := length_of_skipNumber (eq_ok_of_map_pair h)
      simp only [List.length_cons] at this
      omega
    split at h
    · have := length_of_skipText (eq_ok_of_map_pair h); omega
    split at h
    · have := length_of_openFrame h; omega
    split at h
    · have := length_of_openFrame h; omega
    · cases h

theorem length_of_skipBehind {frame : Frame} {cs r : List Char} {more : Bool}
    (h : skipBehind frame cs = .ok (more, r)) : r.length < cs.length := by
  have h₁ := length_skipGap cs
  unfold skipBehind at h
  split at h
  · cases h
  case h_2 c rest e =>
    rw [e] at h₁
    simp only [List.length_cons] at h₁
    split at h
    · have := length_of_skipToValue (eq_ok_of_map_pair h); omega
    · split at h
      · cases h; omega
      · cases h

mutual

/-- Skips a value and then what remains of the frames around it, the innermost first. -/
def skipValue (frames : List Frame) (cs : List Char) : Except Failure (List Char) :=
  match h : skipHead cs with
  | .error f => .error f
  | .ok (.after, rest) =>
    have := length_of_skipHead h
    skipRest frames rest
  | .ok (.value frame, rest) =>
    have := length_of_skipHead h
    skipValue (frame :: frames) rest
termination_by cs.length

/-- Skips what remains of the frames around a value that has ended. -/
def skipRest (frames : List Frame) (cs : List Char) : Except Failure (List Char) :=
  match frames with
  | [] => .ok cs
  | frame :: frames =>
    match h : skipBehind frame cs with
    | .error f => .error f
    | .ok (true, rest) =>
      have := length_of_skipBehind h
      skipValue (frame :: frames) rest
    | .ok (false, rest) =>
      have := length_of_skipBehind h
      skipRest frames rest
termination_by cs.length

end

end FeedIngest.Json
