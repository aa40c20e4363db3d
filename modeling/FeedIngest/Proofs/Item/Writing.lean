import FeedIngest.Item.Basic
import FeedIngest.Proofs.Json.Skipping

/-! The objects that carry a header, and what is read from them. The members may stand in any
order, with any others among them, with whitespace wherever the grammar has it and their strings
written in any way. An author or time that there is none of is left out or null. Whatever the
choice, the header is read back, and the payload is kept as it came. -/

namespace FeedIngest

open Json

namespace Header

/-- A member of the outermost object, and the key that it has. -/
structure Member extends Entry where
  key : String

/-- What a member of that key may hold in an object with the header. -/
inductive MemberValue (h : Header) : String → List Char → Prop
  | id : MemberValue h "id" (toString h.id.toNat).toList
  | author {author : String} {cs : List Char} (some : h.author = some author)
    (written : Spelled author.toList cs) : MemberValue h "by" ('"' :: (cs ++ ['"']))
  | noAuthor (none : h.author = none) : MemberValue h "by" ['n', 'u', 'l', 'l']
  | time {time : Int} (some : h.time = some time) : MemberValue h "time" (toString time).toList
  | noTime (none : h.time = none) : MemberValue h "time" ['n', 'u', 'l', 'l']
  | other {key : String} {cs : List Char} (id : key ≠ "id") (author : key ≠ "by")
    (time : key ≠ "time") (value : Value cs) : MemberValue h key cs

structure Member.Fits (h : Header) (m : Member) : Prop where
  lead : Keyed (Spelled m.key.toList) m.lead
  value : MemberValue h m.key m.value
  gap : Gap m.gap

/-- The texts of objects with the header. -/
inductive Written (h : Header) : List Char → Prop
  | object {before behind : List Char} {members : List Member} (hb : Gap before) (ha : Gap behind)
    (fits : ∀ m ∈ members, m.Fits h)
    (id : (members.map Member.key).count "id" = 1)
    (author : (members.map Member.key).count "by" ≤ 1)
    (time : (members.map Member.key).count "time" ≤ 1)
    (authorThere : h.author ≠ none → "by" ∈ members.map Member.key)
    (timeThere : h.time ≠ none → "time" ∈ members.map Member.key) :
    Written h (before ++ '\x7b' :: (joined (members.map Member.toEntry) ++ '\x7d' :: behind))

/-- Whether the time fits 64 bits. -/
def TimeFits (h : Header) : Prop :=
  ∀ t ∈ h.time, -9223372036854775808 ≤ t ∧ t ≤ 9223372036854775807

variable {h : Header} {g cs rest : List Char}

/-! ### The values of the fields -/

theorem read_gap {t : IntegerType} (hg : Gap g) (cs : List Char) :
    t.read (g ++ cs) = t.read cs := by
  rw [IntegerType.read, IntegerType.read, skipGap_append hg]

theorem readId_written (h : Header) (hg : Gap g) (ends : Ends rest) :
    readId (g ++ ((toString h.id.toNat).toList ++ rest)) = .ok (h.id, rest) := by
  have small : h.id.toNat < 18446744073709551616 := h.id.val.toNat_lt
  have text : (toString h.id.toNat).toList = Digits.write h.id.toNat := by simp [Digits.write]
  have value := IntegerType.read_write (t := .unsigned64) small (Int.natCast_nonneg _)
    (by simp only [IntegerType.unsigned64]; omega) ends
  have same : (⟨UInt64.ofNat h.id.toNat⟩ : ItemId) = h.id := by simp [ItemId.toNat]
  rw [readId, read_gap hg, text, value]
  simp [Except.map, same]

theorem readString_written {author : String} (written : Spelled author.toList cs)
    (rest : List Char) : readString ('"' :: (cs ++ '"' :: rest)) = .ok (author, rest) := by
  simp [readString, skipGap_cons (c := '"') rfl, readText_spelled written]

/-- A value that may be null, where it is. -/
theorem readOptional_null {α : Type} (read : List Char → Except Failure (α × List Char))
    (hg : Gap g) (rest : List Char) :
    readOptional read (g ++ 'n' :: 'u' :: 'l' :: 'l' :: rest) = .ok (none, rest) := by
  rw [readOptional, skipGap_append hg, skipGap_cons (c := 'n') rfl]
  rfl

/-- A value that may be null, where it is not. -/
theorem readOptional_eq {α : Type} (read : List Char → Except Failure (α × List Char)) {c : Char}
    (hg : Gap g) (notGap : isGap c = false) (notNull : c ≠ 'n') (cs : List Char) :
    readOptional read (g ++ c :: cs) = (read (c :: cs)).map fun (a, rest) => (some a, rest) := by
  rw [readOptional, skipGap_append hg, skipGap_cons notGap]
  split
  · rename_i heq
    cases heq
    exact absurd rfl notNull
  · rfl

theorem readOptional_some {α : Type} {read : List Char → Except Failure (α × List Char)} {c : Char}
    {a : α} (hg : Gap g) (notGap : isGap c = false) (notNull : c ≠ 'n')
    (value : read (c :: cs) = .ok (a, rest)) :
    readOptional read (g ++ c :: cs) = .ok (some a, rest) := by
  rw [readOptional_eq read hg notGap notNull, value]
  rfl

theorem readTime_written {time : Int} (hl : -9223372036854775808 ≤ time)
    (hu : time ≤ 9223372036854775807) (hg : Gap g) (ends : Ends rest) :
    readTime (g ++ ((toString time).toList ++ rest)) = .ok (some time, rest) := by
  cases time with
  | ofNat n =>
    have text : (toString (Int.ofNat n)).toList = Digits.write n := by
      show (Nat.repr n).toList = _
      simp [Digits.write]
    have small : n < 18446744073709551616 := by simp only [Int.ofNat_eq_natCast] at hu; omega
    have value := IntegerType.read_write (t := .signed64) small
      (by simp only [IntegerType.signed64]; omega) hu ends
    obtain ⟨c, ds, hw, hc, -⟩ := Digits.exists_write_eq_cons n
    rw [text]
    rw [hw] at value ⊢
    refine readOptional_some hg (isGap_of_isDigit hc) ?_ value
    rintro rfl
    cases hc
  | negSucc n =>
    have text : (toString (Int.negSucc n)).toList = '-' :: Digits.write (n + 1) := by
      show ("-" ++ Nat.repr (n + 1)).toList = _
      simp [Digits.write]
    have value := IntegerType.read_minus_write (t := .signed64) (n := n + 1) (Nat.succ_pos n)
      (by omega) (by simp only [IntegerType.signed64]; omega)
      (by simp only [IntegerType.signed64]; omega) ends
    rw [text]
    exact readOptional_some hg rfl (by decide) value

/-! ### Members -/

/-- The fields once a member of that key has been read. -/
def Fields.add (h : Header) (fields : Fields) (key : String) : Fields :=
  if key = "id" then ⟨some h.id, fields.author, fields.time⟩
  else if key = "by" then ⟨fields.id, some h.author, fields.time⟩
  else if key = "time" then ⟨fields.id, fields.author, some h.time⟩
  else fields

/-- Each field comes at most once, among those seen and those to come. -/
structure Fields.Open (fields : Fields) (keys : List String) : Prop where
  id : fields.id.toList.length + keys.count "id" ≤ 1
  author : fields.author.toList.length + keys.count "by" ≤ 1
  time : fields.time.toList.length + keys.count "time" ≤ 1

theorem readColon_gap (hg : Gap g) (cs : List Char) : readColon (g ++ ':' :: cs) = .ok cs := by
  simp [readColon, skipGap_append hg, skipGap_cons (c := ':') rfl]

theorem readOnce_none {α : Type} (name : String)
    (read : List Char → Except Failure (α × List Char)) (hg : Gap g) (cs : List Char) :
    readOnce none name read (g ++ ':' :: cs) = read cs := by
  simp [readOnce, readColon_gap hg]

theorem eq_none_of_length {α : Type} {o : Option α} {n : Nat}
    (h : o.toList.length + (n + 1) ≤ 1) : o = none := by
  cases o with
  | none => rfl
  | some a => simp at h

/-- A member is read to its end, and sets its field. -/
theorem readMember_written {fields : Fields} {key : String} {keys : List String}
    {behind after value : List Char} (fits : h.TimeFits) (hs : Spelled key.toList cs)
    (hb : Gap behind) (ha : Gap after) (hv : MemberValue h key value)
    (unseen : fields.Open (key :: keys)) (ends : Ends rest) :
    fields.readMember (cs ++ '"' :: (behind ++ ':' :: (after ++ (value ++ rest)))) =
      .ok (fields.add h key, rest) := by
  obtain ⟨id, author, time⟩ := fields
  obtain ⟨noId, noAuthor, noTime⟩ := unseen
  rw [Fields.readMember, readText_spelled hs, List.reverse_nil, List.nil_append,
    String.ofList_toList]
  dsimp only
  cases hv with
  | id =>
    obtain rfl : id = none := eq_none_of_length (by simpa using noId)
    rw [if_pos rfl, readOnce_none _ _ hb, readId_written h ha ends]
    rfl
  | author some written =>
    obtain rfl : author = none := eq_none_of_length (by simpa using noAuthor)
    have value := readOptional_some ha rfl (by decide) (readString_written written rest)
    simp [readOnce_none _ _ hb, readAuthor, value, Fields.add, some, Except.map]
  | noAuthor none =>
    obtain rfl : author = Option.none := eq_none_of_length (by simpa using noAuthor)
    simp [readOnce_none _ _ hb, readAuthor, readOptional_null _ ha, Fields.add, none, Except.map]
  | time some =>
    obtain rfl : time = none := eq_none_of_length (by simpa using noTime)
    obtain ⟨hl, hu⟩ := fits _ some
    rw [if_neg (by decide), if_neg (by decide), if_pos rfl, readOnce_none _ _ hb,
      readTime_written hl hu ha ends]
    simp [Fields.add, some, Except.map]
  | noTime none =>
    obtain rfl : time = Option.none := eq_none_of_length (by simpa using noTime)
    simp [readOnce_none _ _ hb, readTime, readOptional_null _ ha, Fields.add, none, Except.map]
  | other notId notAuthor notTime value =>
    simp [notId, notAuthor, notTime, readColon_gap hb, skipValue_gap ha, value.skips _ _ ends,
      Fields.add, Except.map]

/-! ### Objects -/

theorem readAll_none {fields : Fields} {first : Bool} (h : nextKey first cs = .ok none) :
    fields.readAll first cs = .ok (fields, skipGap cs) := by
  rw [Fields.readAll]
  split <;> simp_all

theorem readAll_some {fields next : Fields} {first : Bool} {key : List Char}
    (hk : nextKey first cs = .ok (some key)) (hm : fields.readMember key = .ok (next, rest)) :
    fields.readAll first cs = next.readAll false rest := by
  rw [Fields.readAll]
  split
  · simp_all
  · simp_all
  · rename_i heq
    rw [hk] at heq
    cases heq
    split
    · simp_all
    · rename_i heq
      rw [hm] at heq
      cases heq
      rfl

theorem readAll_error {fields : Fields} {first : Bool} {key : List Char} {f : Failure}
    (hk : nextKey first cs = .ok (some key)) (hm : fields.readMember key = .error f) :
    fields.readAll first cs = .error f := by
  rw [Fields.readAll]
  split
  · simp_all
  · simp_all
  · rename_i heq
    rw [hk] at heq
    cases heq
    split <;> simp_all

theorem Fields.Open.add {fields : Fields} {key : String} {keys : List String}
    (unseen : fields.Open (key :: keys)) : (fields.add h key).Open keys := by
  obtain ⟨id, author, time⟩ := unseen
  rw [List.count_cons] at id author time
  unfold Fields.add
  split
  · subst_vars
    constructor <;> simp at * <;> omega
  split
  · subst_vars
    constructor <;> simp at * <;> omega
  split
  · subst_vars
    constructor <;> simp at * <;> omega
  · constructor <;> simp at * <;> omega

/-- In front of a member, its key comes next, and behind that the member is read. -/
theorem Member.Fits.read {m : Member} (member : m.Fits h) (fits : h.TimeFits) {fields : Fields}
    {keys : List String} (unseen : fields.Open (m.key :: keys)) (ends : Ends rest) :
    ∃ key, nextKey true (m.lead ++ (m.value ++ rest)) = .ok (some key) ∧
      (∀ g, Gap g → nextKey false (g ++ ',' :: (m.lead ++ (m.value ++ rest))) = .ok (some key)) ∧
      fields.readMember key = .ok (fields.add h m.key, rest) := by
  obtain ⟨keyed, value, -⟩ := member
  generalize m.lead = lead at keyed ⊢
  cases keyed with
  | mk before cs behind after hb hs hk ha =>
    refine ⟨cs ++ '"' :: (behind ++ ':' :: (after ++ (m.value ++ rest))), ?_, fun g hg => ?_,
      readMember_written fits hs hk ha value unseen ends⟩
    · simp [nextKey, skipGap_append hb, skipGap_cons (c := '"') rfl]
    · simp [nextKey, skipGap_append hg, skipGap_append hb, skipGap_cons (c := '"') rfl,
        skipGap_cons (c := ',') rfl]

/-- The entries of members. -/
abbrev entries (members : List Member) : List Entry := members.map Member.toEntry

/-- Members are read one by one, as long as they are written for the header. -/
theorem readAll_leading (fits : h.TimeFits) {leading : List Member} (later : List Member)
    (written : ∀ m ∈ leading, m.Fits h) {fields : Fields}
    (unseen : fields.Open (leading.map Member.key)) (hg : Gap g) (rest : List Char) :
    ∃ g', Gap g' ∧
      fields.readAll false (g ++ Frame.object.behind (entries (leading ++ later)) rest) =
        ((leading.map Member.key).foldl (Fields.add h) fields).readAll false
          (g' ++ Frame.object.behind (entries later) rest) := by
  induction leading generalizing fields g with
  | nil => exact ⟨g, hg, rfl⟩
  | cons m leading ih =>
    rw [List.forall_mem_cons] at written
    have ends := (Frame.object.ends_behind (entries (leading ++ later)) rest).gap written.1.gap
    obtain ⟨key, -, next, read⟩ := written.1.read fits unseen ends
    have comma : g ++ Frame.object.behind (entries (m :: (leading ++ later))) rest =
        g ++ ',' :: (m.lead ++ (m.value ++ (m.gap ++
          Frame.object.behind (entries (leading ++ later)) rest))) :=
      congrArg (g ++ ',' :: ·) (joined_cons_append .object m.toEntry (entries (leading ++ later)) rest)
    obtain ⟨g', hg', same⟩ := ih written.2 unseen.add written.1.gap
    refine ⟨g', hg', ?_⟩
    rw [List.cons_append, comma, readAll_some (next g hg) read, same]
    rfl

/-- The members from behind one of them on are read to the closing brace. -/
theorem readAll_behind (fits : h.TimeFits) {members : List Member}
    (written : ∀ m ∈ members, m.Fits h) {fields : Fields}
    (unseen : fields.Open (members.map Member.key)) (hg : Gap g) (rest : List Char) :
    fields.readAll false (g ++ Frame.object.behind (entries members) rest) =
      .ok ((members.map Member.key).foldl (Fields.add h) fields, '\x7d' :: rest) := by
  obtain ⟨g', hg', same⟩ := readAll_leading fits [] written unseen hg rest
  have last : nextKey false (g' ++ '\x7d' :: rest) = .ok none := by
    simp [nextKey, skipGap_append hg', skipGap_cons (c := '\x7d') rfl]
  have closing : Frame.object.behind (entries []) rest = '\x7d' :: rest := rfl
  rw [List.append_nil] at same
  rw [same, closing, readAll_none last, skipGap_append hg', skipGap_cons rfl]

/-- The first member is read as if another one had been in front of it. -/
theorem readAll_first (fits : h.TimeFits) {m : Member} (member : m.Fits h) {fields : Fields}
    {keys : List String} (unseen : fields.Open (m.key :: keys)) (members : List Member)
    (rest : List Char) : fields.readAll true (joined (entries (m :: members)) ++ '\x7d' :: rest) =
      fields.readAll false (Frame.object.behind (entries (m :: members)) rest) := by
  have ends := (Frame.object.ends_behind (entries members) rest).gap member.gap
  obtain ⟨key, first, next, read⟩ := member.read fits unseen ends
  have text : joined (entries (m :: members)) ++ '\x7d' :: rest =
      m.lead ++ (m.value ++ (m.gap ++ Frame.object.behind (entries members) rest)) :=
    joined_cons_append .object m.toEntry (entries members) rest
  have comma : Frame.object.behind (entries (m :: members)) rest = [] ++ ',' :: _ :=
    congrArg (',' :: ·) text
  rw [text, comma, readAll_some first read, readAll_some (next [] (by simp [Gap])) read]

/-- Each field has been set to what the header has there, if a member was its own. -/
theorem foldl_add (h : Header) (keys : List String) (fields : Fields) :
    keys.foldl (Fields.add h) fields =
      ⟨if "id" ∈ keys then some h.id else fields.id,
        if "by" ∈ keys then some h.author else fields.author,
        if "time" ∈ keys then some h.time else fields.time⟩ := by
  induction keys generalizing fields with
  | nil => rfl
  | cons key keys ih =>
    rw [List.foldl_cons, ih, Fields.add]
    by_cases hid : key = "id"
    · subst hid
      simp
    by_cases hauthor : key = "by"
    · subst hauthor
      simp
    by_cases htime : key = "time"
    · subst htime
      simp
    simp [hid, hauthor, htime, eq_comm (b := key)]

/-- All members are read, up to the closing brace. -/
theorem readAll_joined (fits : h.TimeFits) {members : List Member} (some : members ≠ [])
    (written : ∀ m ∈ members, m.Fits h) {fields : Fields}
    (unseen : fields.Open (members.map Member.key)) (rest : List Char) :
    fields.readAll true (joined (entries members) ++ '\x7d' :: rest) =
      .ok ((members.map Member.key).foldl (Fields.add h) fields, '\x7d' :: rest) := by
  cases members with
  | nil => exact absurd rfl some
  | cons m members =>
    rw [readAll_first fits (written m List.mem_cons_self) unseen]
    exact readAll_behind fits written unseen (g := []) (by simp [Gap]) rest

/-- What is written for a header is read as that header. -/
theorem read_written (written : h.Written cs) (fits : h.TimeFits) : read cs = .ok h := by
  obtain ⟨hb, ha, members, id, author, time, authorThere, timeThere⟩ := written
  rename_i before behind ms
  have some : ms ≠ [] := by
    rintro rfl
    cases id
  have unseen : (⟨none, none, none⟩ : Fields).Open (ms.map Member.key) :=
    ⟨by simp [id], by simpa using author, by simpa using time⟩
  have idThere : "id" ∈ ms.map Member.key := List.count_pos_iff.1 (by omega)
  have object : readObject (joined (entries ms) ++ '\x7d' :: behind) = .ok (h, behind) := by
    rw [readObject, readAll_joined fits some members unseen, foldl_add]
    simp only [idThere, if_true, behindClosing, skipGap_cons (c := '\x7d') rfl]
    congr 2
    obtain ⟨i, a, t⟩ := h
    congr 1
    · cases a with
      | none => split <;> rfl
      | some a => rw [if_pos (authorThere (Option.some_ne_none a))]; rfl
    · cases t with
      | none => split <;> rfl
      | some t => rw [if_pos (timeThere (Option.some_ne_none t))]; rfl
  rw [read, readValue, skipGap_append hb, skipGap_cons (c := '\x7b') rfl]
  simp [object, skipGap_eq_nil ha]

end Header

/-- Reading undoes writing: the item of any payload that carries a header has that header, and
the payload as its raw text. -/
theorem Item.parse_written {h : Header} {raw : String} (written : h.Written raw.toList)
    (fits : h.TimeFits) : Item.parse raw = .ok ⟨h.id, h.author, h.time, raw⟩ := by
  rw [Item.parse, Header.read_written written fits]

namespace Header

/-- The greatest identifier, the least time, and an author beyond the first 16 bits. -/
def extreme : Header := ⟨⟨18446744073709551615⟩, some "😀\n", some (-9223372036854775808)⟩

/-- An object with that header, behind an unknown member. -/
def extremeText : String :=
  " \x7b\"I\\\"\":\x7b\"\\ud800\":[-0.5E+9,\n[]]\x7d,\"time\"\r:-9223372036854775808\t," ++
    "\"\\u0069d\":18446744073709551615,\"by\": \"\\uD83d\\uDE00\\n\"\x7d"

def extremeMembers : List Member :=
  [⟨⟨"\"I\\\"\":".toList, "\x7b\"\\ud800\":[-0.5E+9,\n[]]\x7d".toList, []⟩, "I\""⟩,
    ⟨⟨"\"time\"\r:".toList, (toString (-9223372036854775808 : Int)).toList, ['\t']⟩, "time"⟩,
    ⟨⟨"\"\\u0069d\":".toList, (toString 18446744073709551615).toList, []⟩, "id"⟩,
    ⟨⟨"\"by\": ".toList, "\"\\uD83d\\uDE00\\n\"".toList, []⟩, "by"⟩]

theorem extreme_unknown : Value "\x7b\"\\ud800\":[-0.5E+9,\n[]]\x7d".toList := by
  have number : Value "-0.5E+9".toList :=
    @Value.negative "0.5E+9".toList (.mk (w := ['0']) (f := ['.', '5']) (e := "E+9".toList) .zero
      (.digits (by decide)) (.digits ['+'] ['9'] (.inr rfl) (by decide) (by decide)))
  have list : Value "[-0.5E+9,\n[]]".toList :=
    .list [⟨[], "-0.5E+9".toList, []⟩, ⟨['\n'], ['[', ']'], []⟩] (by simp) (by decide)
      (by simpa using ⟨number, Value.emptyList [] (by decide)⟩) (by decide)
  have key : Keyed Pieces "\"\\ud800\":".toList :=
    .mk [] "\\ud800".toList [] [] (by decide)
      (.cons (.unit (q := "d800".toList) (.mk (k := 13) (l := 8) (m := 0) (n := 0)
        (by decide) (by decide) (by decide) (by decide))) .nil)
      (by decide) (by decide)
  exact .object [⟨"\"\\ud800\":".toList, "[-0.5E+9,\n[]]".toList, []⟩] (by simp)
    (by simpa using key) (by simpa using list) (by decide)

theorem extreme_author : Spelled ['😀', '\n'] "\\uD83d\\uDE00\\n".toList := by
  have high : Quad 0xD83D "D83d".toList :=
    .mk (k := 13) (l := 8) (m := 3) (n := 13) (by decide) (by decide) (by decide) (by decide)
  have low : Quad 0xDE00 "DE00".toList :=
    .mk (k := 13) (l := 14) (m := 0) (n := 0) (by decide) (by decide) (by decide) (by decide)
  exact .cons (.pair (by decide) high low) (.cons (.letter (by decide)) .nil)

theorem extreme_written : extreme.Written extremeText.toList := by
  have unknown : (extremeMembers[0]).Fits extreme :=
    ⟨.mk [] "I\\\"".toList [] [] (by decide)
      (.cons (.plain (by decide)) (.cons (.letter (by decide)) .nil)) (by decide) (by decide),
      .other (by decide) (by decide) (by decide) extreme_unknown, by decide⟩
  have time : (extremeMembers[1]).Fits extreme :=
    ⟨keyed_plain ['\r'] [] (by decide) (by decide) (by decide) rfl, .time rfl,
      by decide⟩
  have id : (extremeMembers[2]).Fits extreme :=
    ⟨.mk [] "\\u0069d".toList [] [] (by decide)
      (.cons (.unit (q := "0069".toList) (by decide) (.mk (k := 0) (l := 0) (m := 6) (n := 9)
        (by decide) (by decide) (by decide) (by decide))) (spelled_plain (by decide)))
      (by decide) (by decide), .id, by decide⟩
  have author : (extremeMembers[3]).Fits extreme :=
    ⟨keyed_plain [] [' '] (by decide) (by decide) (by decide) rfl,
      @MemberValue.author _ _ "\\uD83d\\uDE00\\n".toList rfl extreme_author, by decide⟩
  have text : extremeText.toList =
      [' '] ++ '\x7b' :: (joined (entries extremeMembers) ++ '\x7d' :: []) := by cbv
  rw [text]
  refine .object (by decide) (by decide) ?_ (by decide) (by decide) (by decide) (by decide)
    (by decide)
  simpa [extremeMembers] using ⟨unknown, time, id, author⟩

end Header

theorem Item.parse_written_extreme : Header.extreme.Written Header.extremeText.toList ∧
    Header.extreme.TimeFits ∧ Item.parse Header.extremeText =
      .ok ⟨⟨18446744073709551615⟩, some "😀\n", some (-9223372036854775808),
        Header.extremeText⟩ := by
  have fits : Header.extreme.TimeFits := by
    simp [Header.TimeFits, Header.extreme]
  exact ⟨Header.extreme_written, fits, Item.parse_written Header.extreme_written fits⟩

end FeedIngest
