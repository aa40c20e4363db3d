import FeedIngest.ItemId
import FeedIngest.Json.Progress

/-! The header of an item: the fields `id`, `by` and `time` of a payload, in an object
with any further members, or as a list of the three. Members come in any order, and each
of the three at most once; `by` and `time` may be null or missing. A field that is
repeated or missing, or a list that is too short, is placed behind the closing bracket if
that comes next. -/

namespace FeedIngest

open Json

/-- The fields of a payload that are read. -/
structure Header where
  id : ItemId
  author : Option String
  time : Option Int
  deriving DecidableEq

namespace Header

def readId (cs : List Char) : Except Failure (ItemId × List Char) :=
  (IntegerType.unsigned64.read cs).map fun (i, rest) => (⟨UInt64.ofNat i.toNat⟩, rest)

def readAuthor (cs : List Char) : Except Failure (Option String × List Char) :=
  readOptional readString cs

def readTime (cs : List Char) : Except Failure (Option Int × List Char) :=
  readOptional IntegerType.signed64.read cs

/-- The unread text, without the closing bracket if that comes next. -/
def behindClosing (closing : Char) (cs : List Char) : List Char :=
  match skipGap cs with
  | [] => []
  | c :: rest => if c = closing then rest else c :: rest

/-- The fields seen so far. -/
structure Fields where
  id : Option ItemId
  author : Option (Option String)
  time : Option (Option Int)

/-- The text behind the colon of a member. -/
def readColon (cs : List Char) : Except Failure (List Char) :=
  match skipGap cs with
  | [] => .error (.here .endInObject [])
  | c :: rest => if c = ':' then .ok rest else .error (.atNext .expectedColon (c :: rest))

/-- The value of a member that has not been seen before. -/
def readOnce {α : Type} (seen : Option α) (name : String)
    (read : List Char → Except Failure (α × List Char)) (cs : List Char) :
    Except Failure (α × List Char) :=
  if seen.isSome then .error (.here (.duplicateField name) (behindClosing '\x7d' cs))
  else match readColon cs with
    | .error f => .error f
    | .ok rest => read rest

/-- A member from behind the opening quote of its key. -/
def Fields.readMember (fields : Fields) (cs : List Char) : Except Failure (Fields × List Char) :=
  match readText [] cs with
  | .error f => .error f
  | .ok (key, rest) =>
    if key = "id" then
      (readOnce fields.id key readId rest).map fun (i, r) => (⟨some i, fields.author, fields.time⟩, r)
    else if key = "by" then
      (readOnce fields.author key readAuthor rest).map
        fun (a, r) => (⟨fields.id, some a, fields.time⟩, r)
    else if key = "time" then
      (readOnce fields.time key readTime rest).map
        fun (t, r) => (⟨fields.id, fields.author, some t⟩, r)
    else match readColon rest with
      | .error f => .error f
      | .ok rest => (skipValue [] rest).map (fields, ·)

/-- The text behind the opening quote of the next key, or nothing in front of the
closing brace. -/
def nextKey (first : Bool) (cs : List Char) : Except Failure (Option (List Char)) :=
  match skipGap cs with
  | [] => .error (.here .endInObject [])
  | c :: rest =>
    if c = '\x7d' then .ok none
    else if first then
      if c = '"' then .ok (some rest) else .error (.atNext .keyNotString (c :: rest))
    else if c = ',' then
      match skipGap rest with
      | [] => .error (.here .endInValue [])
      | d :: rest =>
        if d = '"' then .ok (some rest)
        else if d = '\x7d' then .error (.atNext .trailingComma (d :: rest))
        else .error (.atNext .keyNotString (d :: rest))
    else .error (.atNext .expectedCommaOrBrace (c :: rest))

theorem length_of_nextKey {first : Bool} {cs r : List Char} (h : nextKey first cs = .ok (some r)) :
    r.length < cs.length := by
  have h₁ := length_skipGap cs
  unfold nextKey at h
  split at h
  · cases h
  case h_2 c rest e =>
    rw [e] at h₁
    simp only [List.length_cons] at h₁
    split at h
    · cases h
    · split at h
      · split at h
        · cases h; omega
        · cases h
      · split at h
        · have h₂ := length_skipGap rest
          split at h
          · cases h
          case h_2 d rest' e' =>
            rw [e'] at h₂
            simp only [List.length_cons] at h₂
            split at h
            · cases h; omega
            · split at h <;> cases h
        · cases h

theorem length_of_readColon {cs r : List Char} (h : readColon cs = .ok r) :
    r.length ≤ cs.length := by
  have h₁ := length_skipGap cs
  unfold readColon at h
  split at h
  · cases h
  case h_2 c rest e =>
    rw [e] at h₁
    simp only [List.length_cons] at h₁
    split at h
    · cases h; omega
    · cases h

theorem length_of_readOnce {α : Type} {seen : Option α} {name : String}
    {read : List Char → Except Failure (α × List Char)}
    (hread : ∀ cs a r, read cs = .ok (a, r) → r.length ≤ cs.length)
    {cs r : List Char} {a : α} (h : readOnce seen name read cs = .ok (a, r)) :
    r.length ≤ cs.length := by
  unfold readOnce at h
  split at h
  · cases h
  · split at h
    · cases h
    case h_2 rest e => exact Nat.le_trans (hread _ _ _ h) (length_of_readColon e)

theorem length_of_readMember {fields next : Fields} {cs r : List Char}
    (h : fields.readMember cs = .ok (next, r)) : r.length ≤ cs.length := by
  unfold Fields.readMember at h
  split at h
  · cases h
  case h_2 key rest e =>
    refine Nat.le_trans ?_ (length_of_readText e)
    split at h
    · obtain ⟨⟨i, r'⟩, hi, e'⟩ := map_eq_ok h
      cases e'
      refine length_of_readOnce (fun cs a r hr => ?_) hi
      obtain ⟨⟨j, r''⟩, hj, e''⟩ := map_eq_ok hr
      cases e''
      exact length_of_readInteger hj
    split at h
    · obtain ⟨⟨a, r'⟩, ha, e'⟩ := map_eq_ok h
      cases e'
      exact length_of_readOnce (fun _ _ _ hr =>
        length_of_readOptional (fun _ _ _ => length_of_readString) hr) ha
    split at h
    · obtain ⟨⟨t, r'⟩, ht, e'⟩ := map_eq_ok h
      cases e'
      exact length_of_readOnce (fun _ _ _ hr =>
        length_of_readOptional (fun _ _ _ => length_of_readInteger) hr) ht
    · split at h
      · cases h
      case h_2 rest' e' =>
        obtain ⟨r', hr, e''⟩ := map_eq_ok h
        cases e''
        exact Nat.le_trans (length_of_skipValue hr) (length_of_readColon e')

/-- The members up to the closing brace. -/
def Fields.readAll (fields : Fields) (first : Bool) (cs : List Char) :
    Except Failure (Fields × List Char) :=
  match h : nextKey first cs with
  | .error f => .error f
  | .ok none => .ok (fields, skipGap cs)
  | .ok (some rest) =>
    match h' : fields.readMember rest with
    | .error f => .error f
    | .ok (fields, rest') =>
      have h₁ := length_of_nextKey h
      have h₂ := length_of_readMember h'
      have : rest'.length < cs.length := Nat.lt_of_le_of_lt h₂ h₁
      fields.readAll false rest'
termination_by cs.length

/-- The header in an object, from behind its opening brace. -/
def readObject (cs : List Char) : Except Failure (Header × List Char) :=
  match Fields.readAll ⟨none, none, none⟩ true cs with
  | .error f => .error f
  | .ok (fields, rest) =>
    let rest := behindClosing '\x7d' rest
    match fields.id with
    | none => .error (.here (.missingField "id") rest)
    | some id => .ok (⟨id, fields.author.getD none, fields.time.getD none⟩, rest)

/-- An element of the list of that many fields before it; the list may have ended. -/
def readElement {α : Type} (before : Nat) (read : List Char → Except Failure (α × List Char))
    (cs : List Char) : Except Failure (α × List Char) :=
  match skipGap cs with
  | [] => .error (.here .endInList [])
  | c :: rest =>
    if c = ']' then .error (.here (.wrongLength before "struct ItemHeader with 3 elements") rest)
    else if before = 0 then read (c :: rest)
    else if c = ',' then
      match skipGap rest with
      | [] => .error (.here .endInValue [])
      | d :: rest =>
        if d = ']' then .error (.atNext .trailingComma (d :: rest)) else read (d :: rest)
    else .error (.atNext .expectedCommaOrBracket (c :: rest))

/-- The text behind the end of the list. -/
def readListEnd (cs : List Char) : Except Failure (List Char) :=
  match skipGap cs with
  | [] => .error (.here .endInList [])
  | c :: rest =>
    if c = ']' then .ok rest
    else if c = ',' then
      match skipGap rest with
      | ']' :: rest => .error (.atNext .trailingComma (']' :: rest))
      | rest => .error (.atNext .trailingCharacters rest)
    else .error (.atNext .trailingCharacters (c :: rest))

/-- The header as a list, from behind its opening bracket. -/
def readList (cs : List Char) : Except Failure (Header × List Char) := do
  let (id, rest) ← readElement 0 readId cs
  let (author, rest) ← readElement 1 readAuthor rest
  let (time, rest) ← readElement 2 readTime rest
  let rest ← readListEnd rest
  return (⟨id, author, time⟩, rest)

/-- A header at the beginning of a text. -/
def readValue (cs : List Char) : Except Failure (Header × List Char) :=
  match skipGap cs with
  | [] => .error (.here .endInValue [])
  | c :: rest =>
    if c = '[' then readList rest
    else if c = '\x7b' then readObject rest
    else .error (refuse "struct ItemHeader" (c :: rest))

/-- The header of a whole text, behind which only gaps may stand. -/
def read (cs : List Char) : Except Failure Header :=
  match readValue cs with
  | .error f => .error f
  | .ok (header, rest) =>
    match skipGap rest with
    | [] => .ok header
    | rest => .error (.atNext .trailingCharacters rest)

end Header
end FeedIngest
