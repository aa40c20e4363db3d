import FeedIngest.Proofs.Item.Keying
import FeedIngest.Proofs.Storage.Database

/-! The row that the insertion of a payload makes. The columns are members of the payload as the
database reads it, and what it reads them as is assumed: a string is decoded, a number keeps its
text, the last of several members counts, and a cast gives the number that a decimal spells. The
header of the item was read by other means, and is the same. -/

namespace FeedIngest.Storage

open Header Json

/-! ### The statement -/

/-- What a column is made from: a member of the payload as a text or cast to a number, or all of
the payload. -/
inductive Expression
  | text (key : String)
  | integer (key : String)
  | payload

def Expression.sql : Expression → String
  | .text key => "payload->>'" ++ key ++ "'"
  | .integer key => "(payload->>'" ++ key ++ "')::BIGINT"
  | .payload => "payload"

/-- What an insertion has behind the name of the table. -/
def selection (columns : List (String × Expression)) : String :=
  " (" ++ ", ".intercalate (columns.map (·.1)) ++ ")\nSELECT\n    " ++
    ",\n    ".intercalate (columns.map (·.2.sql)) ++
    "\nFROM (SELECT $1::TEXT::JSONB AS payload) AS incoming\n        "

/-- The insertion of one payload, by its columns. -/
def insertion (table : String) (columns : List (String × Expression)) : String :=
  "\nINSERT INTO " ++ table ++ selection columns

def itemColumns : List (String × Expression) :=
  [("id", .integer "id"), ("author", .text "by"), ("time", .integer "time"), ("item", .payload)]

theorem insertRow_eq (table : String) : insertRow table = insertion table itemColumns := by
  have behind : selection itemColumns =
      " (id, author, time, item)\nSELECT\n    (payload->>'id')::BIGINT,\n" ++
        "    payload->>'by',\n    (payload->>'time')::BIGINT,\n    payload\n" ++
        "FROM (SELECT $1::TEXT::JSONB AS payload) AS incoming\n        " := by decide +kernel
  rw [insertion, behind, ← String.append_assoc, ← String.append_assoc]
  rfl

/-! ### Members and their values -/

/-- The value of the last member that has the key. -/
def lastValue (members : List (String × List Char)) (key : String) : Option (List Char) :=
  members.reverse.lookup key

theorem mem_of_lastValue {members : List (String × List Char)} {key : String} {value : List Char}
    (last : lastValue members key = some value) : (key, value) ∈ members := by
  obtain ⟨l, l', split, -⟩ := List.lookup_eq_some_iff.1 last
  rw [← List.mem_reverse, split]
  simp

theorem not_mem_of_lastValue {members : List (String × List Char)} {key : String}
    (none : lastValue members key = none) : key ∉ members.map Prod.fst := by
  intro mem
  obtain ⟨p, hp, same⟩ := List.mem_map.1 mem
  have := List.lookup_eq_none_iff.1 none p (List.mem_reverse.2 hp)
  simp [same] at this

/-- What a value is as a text, or null: a string is decoded, an integer is as it stands. -/
inductive Shows : List Char → Option String → Prop
  | null : Shows ['n', 'u', 'l', 'l'] none
  | string {text : String} {cs : List Char} (written : Spelled text.toList cs) :
    Shows ('"' :: (cs ++ ['"'])) (some text)
  | number (i : Int) : Shows (toString i).toList (some (toString i))

/-- The integer in decimal. -/
def decimal? : List Char → Option Int
  | '-' :: cs => (Digits.value? cs).map fun n => -(n : Int)
  | cs => (Digits.value? cs).map fun n => (n : Int)

theorem decimal?_toString (i : Int) : decimal? (toString i).toList = some i := by
  have value (n : Nat) : Digits.value? (Digits.write n) = some n :=
    Digits.spells_iff.1 (Digits.spells_write n)
  have natural (n : Nat) : decimal? (toString (n : Int)).toList = some (n : Int) := by
    rw [toList_toString_natCast]
    obtain ⟨c, cs, hw, hc, -⟩ := Digits.exists_write_eq_cons n
    have notMinus : c ≠ '-' := by rintro rfl; cases hc
    have read := value n
    rw [hw] at read ⊢
    simp [decimal?, notMinus, read]
  obtain ⟨n, rfl | rfl⟩ := i.eq_nat_or_neg
  · exact natural n
  · cases n with
    | zero => exact natural 0
    | succ n =>
      rw [toList_toString_neg (Nat.succ_pos n), decimal?, value]
      rfl

theorem Shows.unique {value : List Char} {shows shows' : Option String} (h : Shows value shows)
    (h' : Shows value shows') : shows = shows' := by
  have integer (i : Int) {cs : List Char} (same : cs = (toString i).toList) :
      decimal? cs = some i := by
    rw [same, decimal?_toString]
  generalize same : value = value' at h'
  cases h with
  | null =>
    cases h' with
    | null => rfl
    | string => cases same
    | number i => cases integer i same
  | string written =>
    cases h' with
    | null => cases same
    | string written' =>
      have letters : _ ++ '"' :: [] = _ ++ '"' :: [] := List.tail_eq_of_cons_eq same
      rw [(key_unique written written' letters).1]
    | number i => cases integer i same
  | number i =>
    cases h' with
    | null => cases integer i same.symm
    | string => cases integer i same.symm
    | number j => rw [String.toList_inj.1 same]

/-! ### The database -/

/-- A field of a row. -/
inductive Cell
  | null
  | integer (value : Int)
  | text (value : String)
  | json (payload : String)
  deriving DecidableEq

def Cell.ofText : Option String → Cell
  | none => .null
  | some s => .text s

def Cell.ofInteger : Option Int → Cell
  | none => .null
  | some i => .integer i

abbrev Row := List (String × Cell)

/-- What the database makes of texts. -/
structure Extractor where
  /-- A member of a payload as a text, or null, unless the payload is refused. -/
  member : String → String → Option (Option String)
  /-- A text as a number of 64 bits, unless it is refused. -/
  bigint : String → Option Int

/-- What is relied on. Payloads may be refused, and so may numbers out of range. -/
structure Extractor.Documented (s : Extractor) : Prop where
  noObject : ∀ {payload key found}, (∀ members, ¬ ObjectText members payload.toList) →
    s.member payload key = some found → found = none
  absent : ∀ {payload key found members}, ObjectText members payload.toList →
    lastValue members key = none → s.member payload key = some found → found = none
  shown : ∀ {payload key found members value shows}, ObjectText members payload.toList →
    lastValue members key = some value → Shows value shows →
    s.member payload key = some found → found = shows
  bigint : ∀ {i j}, s.bigint (toString i) = some j ↔
    j = i ∧ -9223372036854775808 ≤ i ∧ i ≤ 9223372036854775807

namespace Extractor

variable {s : Extractor} {h : Header} {payload name : String} {members : List (String × List Char)}
  {columns : List (String × Expression)} {found : Option String} {row : Row}

/-- A column for a payload. A cast of null is null. -/
def cell (s : Extractor) (payload : String) : Expression → Option Cell
  | .text key => (s.member payload key).map Cell.ofText
  | .integer key => (s.member payload key).bind fun
    | none => some .null
    | some text => (s.bigint text).map .integer
  | .payload => some (.json payload)

def cells (s : Extractor) (payload : String) : List (String × Expression) → Option Row
  | [] => some []
  | (name, e) :: columns => do
    let c ← s.cell payload e
    let row ← s.cells payload columns
    return (name, c) :: row

/-- The row of a payload, if there is one. The key of a row is not null. -/
def insert (s : Extractor) (columns : List (String × Expression)) (payload : String) : Option Row :=
  (s.cells payload columns).filter fun row => row.lookup "id" ≠ some .null

theorem cells_lookup {e : Expression} (made : s.cells payload columns = some row)
    (column : columns.lookup name = some e) :
    ∃ c, s.cell payload e = some c ∧ row.lookup name = some c := by
  induction columns generalizing row with
  | nil => cases column
  | cons first columns ih =>
    obtain ⟨first, e'⟩ := first
    obtain ⟨c, hc, made⟩ := Option.bind_eq_some_iff.1 made
    obtain ⟨others, later, made⟩ := Option.bind_eq_some_iff.1 made
    cases made
    rw [List.lookup_cons] at column ⊢
    split at column
    case h_1 => cases column; exact ⟨c, hc, rfl⟩
    case h_2 => exact ih later column

theorem cell_text {key : String} {c : Cell} (made : s.cell payload (.text key) = some c) :
    ∃ found, s.member payload key = some found ∧ c = .ofText found := by
  obtain ⟨found, read, rfl⟩ := Option.map_eq_some_iff.1 made
  exact ⟨found, read, rfl⟩

theorem cell_integer {key : String} {c : Cell} (made : s.cell payload (.integer key) = some c) :
    (s.member payload key = some none ∧ c = .null) ∨
      ∃ text i, s.member payload key = some (some text) ∧ s.bigint text = some i ∧
        c = .integer i := by
  obtain ⟨found, read, cast⟩ := Option.bind_eq_some_iff.1 made
  cases found with
  | none => cases cast; exact .inl ⟨read, rfl⟩
  | some text =>
    obtain ⟨i, value, rfl⟩ := Option.map_eq_some_iff.1 cast
    exact .inr ⟨text, i, read, value, rfl⟩

/-! ### The header -/

theorem found_eq {key : String} {expected : Option String} (documented : s.Documented)
    (object : ObjectText members payload.toList)
    (missing : key ∉ members.map Prod.fst → expected = none)
    (there : ∀ value, (key, value) ∈ members → Shows value expected)
    (read : s.member payload key = some found) : found = expected := by
  cases last : lastValue members key with
  | none =>
    rw [missing (not_mem_of_lastValue last)]
    exact documented.absent object last read
  | some value => exact documented.shown object last (there value (mem_of_lastValue last)) read

theorem found_id (documented : s.Documented) (object : ObjectText members payload.toList)
    (carried : h.Carried members) (read : s.member payload "id" = some found) :
    found = some (toString (h.id.toNat : Int)) := by
  refine found_eq documented object ?_ ?_ read
  · exact fun missing => absurd (List.mem_map_of_mem carried.id_mem) missing
  · intro value mem
    obtain rfl := value_eq_of_count carried.id carried.id_mem mem
    exact .number (h.id.toNat : Int)

theorem found_author (documented : s.Documented) (object : ObjectText members payload.toList)
    (carried : h.Carried members) (read : s.member payload "by" = some found) :
    found = h.author := by
  refine found_eq documented object ?_ ?_ read
  · exact fun missing => by_contra fun some => missing (carried.author some)
  · intro value mem
    have fits := carried.values _ mem
    generalize name : "by" = key at fits
    cases fits with
    | author some written => rw [some]; exact .string written
    | noAuthor none => rw [none]; exact .null
    | id | time | noTime => exact absurd name (by decide)
    | other _ notAuthor => exact absurd name.symm notAuthor

theorem found_time (documented : s.Documented) (object : ObjectText members payload.toList)
    (carried : h.Carried members) (read : s.member payload "time" = some found) :
    found = h.time.map toString := by
  refine found_eq documented object ?_ ?_ read
  · exact fun missing => by
      rw [by_contra fun some => missing (carried.time some)]
      rfl
  · intro value mem
    have fits := carried.values _ mem
    generalize name : "time" = key at fits
    cases fits with
    | time some => rw [some]; exact .number _
    | noTime none => rw [none]; exact .null
    | id | author | noAuthor => exact absurd name (by decide)
    | other _ _ notTime => exact absurd name.symm notTime

/-! ### Rows -/

theorem lookup_integer {key : String} (value : Option Int) (documented : s.Documented)
    (made : s.cells payload columns = some row) (column : columns.lookup name = some (.integer key))
    (member : ∀ found, s.member payload key = some found → found = value.map toString) :
    row.lookup name = some (.ofInteger value) := by
  obtain ⟨c, hc, there⟩ := cells_lookup made column
  rw [there]
  rcases cell_integer hc with ⟨read, rfl⟩ | ⟨text, i, read, cast, rfl⟩
  · cases value with
    | none => rfl
    | some j => cases member _ read
  · cases value with
    | none => cases member _ read
    | some j =>
      obtain rfl := Option.some.inj (member _ read)
      rw [(documented.bigint.1 cast).1]
      rfl

theorem lookup_text {key : String} {value : Option String}
    (made : s.cells payload columns = some row) (column : columns.lookup name = some (.text key))
    (member : ∀ found, s.member payload key = some found → found = value) :
    row.lookup name = some (.ofText value) := by
  obtain ⟨c, hc, there⟩ := cells_lookup made column
  obtain ⟨found, read, rfl⟩ := cell_text hc
  rw [there, member _ read]

/-- A list has no row, as it has no member that could be its key. -/
theorem not_listed (documented : s.Documented)
    (inserted : s.insert itemColumns payload = some row) : ¬ h.Listed payload.toList := by
  intro listed
  obtain ⟨made, key⟩ := Option.filter_eq_some_iff.1 inserted
  have null : row.lookup "id" = some .null := lookup_integer none documented made rfl fun found read =>
    documented.noObject (fun _ => listed.no_object) read
  simp [null] at key

end Extractor

variable {s : Extractor} {raw : String} {item : Item} {row : Row}

/-- The insertion of an item sends its payload, and where that makes a row, the row has the header
of the item. -/
theorem row_of_item (documented : s.Documented) (accepted : Item.parse raw = .ok item)
    (inserted : s.insert itemColumns raw = some row) (table : String) :
    (Database.ready table).query? insertItem item = some ⟨insertion table itemColumns, [raw]⟩ ∧
    row.lookup "id" = some (.integer item.id.toNat) ∧
    row.lookup "author" = some (.ofText item.author) ∧
    row.lookup "time" = some (.ofInteger item.time) := by
  obtain ⟨made, -⟩ := Option.filter_eq_some_iff.1 inserted
  obtain ⟨h, read, rfl⟩ := Item.exists_read accepted
  have written : h.Written raw.toList :=
    (read_eq_ok_iff.1 read).1.resolve_right (s.not_listed documented inserted)
  obtain ⟨members, object, carried⟩ := written.carried
  refine ⟨?_, ?_, ?_, ?_⟩
  · rw [← insertRow_eq]
    rfl
  · exact s.lookup_integer (some h.id.toNat) documented made rfl fun _ =>
      s.found_id documented object carried
  · exact s.lookup_text made rfl fun _ => s.found_author documented object carried
  · exact s.lookup_integer h.time documented made rfl fun _ =>
      s.found_time documented object carried

/-! ### A payload and its row -/

/-- An object with a repeated member, and a header under an escaped key. -/
def doubledText : String := "\x7b\"k\":[],\"by\":\"p\\u0067\",\"\\u0069d\":7,\"k\":null\x7d"

def doubledMembers : List Member :=
  [⟨⟨"\"k\":".toList, ['[', ']'], []⟩, "k"⟩,
    ⟨⟨"\"by\":".toList, "\"p\\u0067\"".toList, []⟩, "by"⟩,
    ⟨⟨"\"\\u0069d\":".toList, ['7'], []⟩, "id"⟩,
    ⟨⟨"\"k\":".toList, ['n', 'u', 'l', 'l'], []⟩, "k"⟩]

theorem doubled_author : Spelled "pg".toList "p\\u0067".toList :=
  .cons (.plain (by decide)) (.cons (.unit (n := 103) (by decide) (.mk (k := 0) (l := 0) (m := 6)
    (n := 7) (by decide) (by decide) (by decide) (by decide))) .nil)

theorem doubled_id : Keyed (Spelled "id".toList) "\"\\u0069d\":".toList :=
  .mk [] "\\u0069d".toList [] [] (by decide)
    (.cons (.unit (q := "0069".toList) (by decide) (.mk (k := 0) (l := 0) (m := 6) (n := 9)
      (by decide) (by decide) (by decide) (by decide))) (spelled_plain (by decide)))
    (by decide) (by decide)

theorem doubled_fits : ∀ m ∈ doubledMembers, m.Fits ⟨⟨7⟩, some "pg", none⟩ := by
  have plain {key : String} (h : Plain key.toList) :
      Keyed (Spelled key.toList) ('"' :: (key.toList ++ ['"', ':'])) :=
    keyed_plain [] [] h (by decide) (by decide) rfl
  simp only [doubledMembers, List.forall_mem_cons]
  exact ⟨⟨plain (by decide), .other (by decide) (by decide) (by decide) (.emptyList [] (by decide)),
      by decide⟩,
    ⟨plain (by decide), @MemberValue.author _ _ "p\\u0067".toList rfl doubled_author, by decide⟩,
    ⟨doubled_id, .id, by decide⟩,
    ⟨plain (by decide), .other (by decide) (by decide) (by decide) .null, by decide⟩,
    List.forall_mem_nil _⟩

theorem toList_doubledText : doubledText.toList =
    [] ++ '\x7b' :: (joined (entries doubledMembers) ++ '\x7d' :: []) := by cbv

theorem doubled_written : Written ⟨⟨7⟩, some "pg", none⟩ doubledText.toList := by
  rw [toList_doubledText]
  exact .object (by decide) (by decide) doubled_fits (by decide) (by decide) (by decide)
    (by decide) (by decide)

theorem doubled_object : ObjectText (pairs doubledMembers) doubledText.toList := by
  rw [toList_doubledText]
  exact .members (by decide) (by decide) (by decide) fun m hm => (doubled_fits m hm).stands

/-- A database that knows this payload and refuses any other. -/
def doubledExtractor : Extractor where
  member payload key :=
    if payload = doubledText then some ([("by", "pg"), ("id", "7")].lookup key) else none
  bigint text := (decimal? text.toList).filter fun i =>
    -9223372036854775808 ≤ i ∧ i ≤ 9223372036854775807

theorem doubled_member {payload key : String} {found : Option String}
    (read : doubledExtractor.member payload key = some found) :
    payload = doubledText ∧ found = [("by", "pg"), ("id", "7")].lookup key := by
  simp only [doubledExtractor] at read
  split at read
  case isTrue same => cases read; exact ⟨same, rfl⟩
  case isFalse => cases read

/-- The members of the one payload that is known, with their values. -/
theorem doubled_value {payload key : String} {found : Option String} {value : List Char}
    {members : List (String × List Char)} (object : ObjectText members payload.toList)
    (last : lastValue members key = some value)
    (read : doubledExtractor.member payload key = some found) :
    (key = "k" ∧ (value = ['[', ']'] ∨ value = ['n', 'u', 'l', 'l']) ∧ found = none) ∨
      (key = "by" ∧ value = "\"p\\u0067\"".toList ∧ found = some "pg") ∨
      (key = "id" ∧ value = ['7'] ∧ found = some "7") := by
  obtain ⟨rfl, rfl⟩ := doubled_member read
  obtain rfl := object.unique doubled_object
  have mem := mem_of_lastValue last
  simp only [pairs, doubledMembers, List.map_cons, List.map_nil, List.mem_cons, Prod.mk.injEq,
    List.not_mem_nil, or_false] at mem
  rcases mem with ⟨rfl, rfl⟩ | ⟨rfl, rfl⟩ | ⟨rfl, rfl⟩ | ⟨rfl, rfl⟩
  · exact .inl ⟨rfl, .inl rfl, rfl⟩
  · exact .inr (.inl ⟨rfl, rfl, rfl⟩)
  · exact .inr (.inr ⟨rfl, rfl, rfl⟩)
  · exact .inl ⟨rfl, .inr rfl, rfl⟩

theorem not_shows_list {shows : Option String} : ¬ Shows ['[', ']'] shows := by
  intro h
  generalize same : ['[', ']'] = value at h
  cases h with
  | null | string => cases same
  | number i =>
    have := decimal?_toString i
    rw [← same] at this
    cases this

theorem doubled_documented : doubledExtractor.Documented where
  noObject none read := by
    obtain ⟨rfl, -⟩ := doubled_member read
    exact absurd doubled_object (none _)
  absent object none read := by
    obtain ⟨rfl, rfl⟩ := doubled_member read
    obtain rfl := object.unique doubled_object
    have missing := not_mem_of_lastValue none
    simp only [pairs, doubledMembers, List.map_cons, List.map_nil, List.mem_cons, not_or] at missing
    obtain ⟨-, notAuthor, notId, -⟩ := missing
    simp [List.lookup_cons, beq_false_of_ne notAuthor, beq_false_of_ne notId]
  shown object last shown read := by
    rcases doubled_value object last read with
      ⟨-, rfl | rfl, rfl⟩ | ⟨-, rfl, rfl⟩ | ⟨-, rfl, rfl⟩
    · exact absurd shown not_shows_list
    · exact Shows.null.unique shown
    · exact (Shows.string doubled_author).unique shown
    · exact (Shows.number 7).unique shown
  bigint {i j} := by
    simp only [doubledExtractor, decimal?_toString, Option.filter_eq_some_iff, Option.some.injEq,
      decide_eq_true_eq]
    constructor
    · rintro ⟨rfl, range⟩
      exact ⟨rfl, range⟩
    · rintro ⟨rfl, range⟩
      exact ⟨rfl, range⟩

theorem row_of_item_doubled : doubledExtractor.Documented ∧ ∃ item row,
    Item.parse doubledText = .ok item ∧ doubledExtractor.insert itemColumns doubledText = some row ∧
      row.lookup "id" = some (.integer 7) ∧ row.lookup "author" = some (.text "pg") ∧
        row.lookup "time" = some .null := by
  have accepted : Item.parse doubledText = .ok ⟨⟨7⟩, some "pg", none, doubledText⟩ := by
    rw [Item.parse, read_written doubled_written (by simp [TimeFits])]
  have inserted : doubledExtractor.insert itemColumns doubledText = some [("id", .integer 7),
    ("author", .text "pg"), ("time", .null), ("item", .json doubledText)] := by decide
  exact ⟨doubled_documented, _, _, accepted, inserted,
    (row_of_item doubled_documented accepted inserted "items").2⟩

end FeedIngest.Storage
