import FeedIngest.Storage.Database
import Mathlib.Data.List.Induction

/-! The storage in a database, call by call. The database may reply anything to what it is sent.
Which statements are known depends on the history alone: the insertion of an item is, once a
setup has succeeded, and nothing else ever is. An execution of what is not known sends nothing;
any other sends the payload once, and its result tells success, a taken key and every other
failure apart. -/

namespace FeedIngest

theorem DatabaseFault.isUniqueViolation_iff {fault : DatabaseFault} :
    fault.isUniqueViolation = true ↔ ∃ text, fault = .server "23505" text := by
  cases fault <;> simp [isUniqueViolation]

namespace Storage

/-- What a storage is called for. -/
inductive Call
  | setup
  | execute (statement : String) (item : Item)
  deriving DecidableEq

/-- What the database replies to a query. -/
abbrev Reply := Except DatabaseFault Unit

/-- What a call comes to. -/
abbrev Outcome := Except StorageError Unit

namespace Database

variable {d : Database} {table statement : String} {item : Item} {reply : Reply}

/-- The query that a call sends, if it sends any. -/
def sent? (d : Database) : Call → Option Query
  | .setup => some d.setupQuery
  | .execute statement item => d.query? statement item

/-- The storage after a call, and what the call comes to, if a query would be replied to so. -/
def call (d : Database) (c : Call) (reply : Reply) : Database × Outcome :=
  match c with
  | .setup => d.setup reply
  | .execute statement item => (d, d.execute statement item reply)

/-- The calls of a storage, each with the reply to its query if it sends one. -/
abbrev History := List (Call × Reply)

def after (d : Database) (h : History) : Database := h.foldl (fun d e => (d.call e.1 e.2).1) d

/-- Whether a setup has succeeded. -/
def SetUp (h : History) : Prop := (.setup, .ok ()) ∈ h

/-- Whether a statement is known after a history. -/
def Known (h : History) (statement : String) : Prop := SetUp h ∧ statement = insertItem

instance (h : History) : Decidable (SetUp h) := inferInstanceAs (Decidable (_ ∈ h))

instance (h : History) (statement : String) : Decidable (Known h statement) :=
  inferInstanceAs (Decidable (_ ∧ _))

/-- The storage of a table before any setup has succeeded. -/
def opened (table : String) : Database := ⟨table, []⟩

/-- The storage of a table once a setup has succeeded. -/
def ready (table : String) : Database := ⟨table, [(insertItem, insertRow table)]⟩

theorem open?_eq (accepted : isTableName table = true) : open? table = .ok (opened table) :=
  if_pos accepted

theorem after_append (d : Database) (h later : History) :
    d.after (h ++ later) = (d.after h).after later :=
  List.foldl_append

theorem after_concat (d : Database) (h : History) (e : Call × Reply) :
    d.after (h ++ [e]) = ((d.after h).call e.1 e.2).1 :=
  after_append d h [e]

theorem setUp_concat {h : History} {e : Call × Reply} :
    SetUp (h ++ [e]) ↔ SetUp h ∨ e = (.setup, .ok ()) := by
  rw [SetUp, List.mem_append, List.mem_singleton, eq_comm (a := e)]
  rfl

/-- Only the first setup that succeeds changes the storage. -/
theorem after_cases (table : String) (h : History) :
    (SetUp h ∧ (opened table).after h = ready table) ∨
    (¬ SetUp h ∧ (opened table).after h = opened table) := by
  induction h using List.reverseRecOn with
  | nil => exact .inr ⟨List.not_mem_nil, rfl⟩
  | append_singleton h e ih =>
    rw [after_concat, setUp_concat]
    match e with
    | (.setup, .ok ()) =>
      refine .inl ⟨.inr rfl, ?_⟩
      obtain ⟨-, same⟩ | ⟨-, same⟩ := ih <;> rw [same] <;> rfl
    | (.setup, .error fault) | (.execute statement item, reply) => simpa [call, setup] using ih

theorem lookup_ready : (ready table).statements.lookup statement =
    if statement = insertItem then some (insertRow table) else none := by
  unfold ready
  by_cases h : statement = insertItem
  · simp [h]
  · simp [List.lookup_cons, beq_false_of_ne h, h]

theorem query?_opened (table statement : String) (item : Item) :
    (opened table).query? statement item = none := rfl

theorem query?_ready (table : String) (item : Item) :
    (ready table).query? insertItem item = some ⟨insertRow table, [item.raw]⟩ := by
  rw [query?, lookup_ready, if_pos rfl, Option.map_some]

theorem query?_ready_of_ne (other : statement ≠ insertItem) (table : String) (item : Item) :
    (ready table).query? statement item = none := by
  rw [query?, lookup_ready, if_neg other, Option.map_none]

theorem query?_after_of_known (table : String) {h : History}
    (known : Known h statement) (item : Item) :
    ((opened table).after h).query? statement item = some ⟨insertRow table, [item.raw]⟩ := by
  obtain ⟨-, same⟩ | ⟨missing, -⟩ := after_cases table h
  · rw [same, known.2, query?_ready]
  · exact absurd known.1 missing

theorem query?_after_of_unknown (table : String) {h : History}
    (unknown : ¬ Known h statement) (item : Item) :
    ((opened table).after h).query? statement item = none := by
  obtain ⟨done, same⟩ | ⟨-, same⟩ := after_cases table h
  · rw [same, query?_ready_of_ne fun name => unknown ⟨done, name⟩]
  · rw [same, query?_opened]

theorem table_after (table : String) (h : History) : ((opened table).after h).table = table := by
  obtain ⟨-, same⟩ | ⟨-, same⟩ := after_cases table h <;> rw [same] <;> rfl

/-- A setup that succeeds makes the storage ready, whatever came before. -/
theorem setup_after (table : String) (h : History) :
    (((opened table).after h).call .setup (.ok ())).1 = ready table := by
  obtain ⟨-, same⟩ | ⟨-, same⟩ := after_cases table h <;> rw [same] <;> rfl

/-- What an execution comes to once its query has been replied to. -/
def told (statement : String) (item : Item) : Reply → Outcome
  | .ok _ => .ok ()
  | .error fault =>
    .error (if fault.isUniqueViolation then .duplicate item.id else .query statement fault)

theorem execute_of_sent {q : Query} (h : d.query? statement item = some q) (reply : Reply) :
    d.execute statement item reply = told statement item reply := by
  unfold execute
  rw [h]
  cases reply <;> rfl

theorem execute_of_silent (h : d.query? statement item = none) (reply : Reply) :
    d.execute statement item reply = .error (.unknownStatement statement) := by
  unfold execute
  rw [h]

theorem told_ne_unknown : told statement item reply ≠ .error (.unknownStatement statement) := by
  cases reply with
  | ok _ => simp [told]
  | error fault => cases h : fault.isUniqueViolation <;> simp [told, h]

theorem told_eq_ok : told statement item reply = .ok () ↔ reply = .ok () := by
  cases reply <;> simp [told]

theorem told_eq_duplicate {id : ItemId} : told statement item reply = .error (.duplicate id) ↔
    id = item.id ∧ ∃ text, reply = .error (.server "23505" text) := by
  cases reply with
  | ok _ => simp [told]
  | error fault =>
    have taken := fault.isUniqueViolation_iff
    cases h : fault.isUniqueViolation with
    | true => simpa [told, h, eq_comm] using fun _ => taken.1 h
    | false => simpa [told, h] using fun _ text same => by simpa [h] using taken.2 ⟨text, same⟩

/-- How the calls after a history are settled. -/
structure Settles (table : String) (h : History) (d : Database) : Prop where
  /-- Exactly the statements that are not known are refused as unknown. -/
  unknown : ∀ statement item reply,
    (d.call (.execute statement item) reply).2 = .error (.unknownStatement statement) ↔
      ¬ Known h statement
  /-- Exactly for those nothing is sent. -/
  silent : ∀ statement item, d.sent? (.execute statement item) = none ↔ ¬ Known h statement
  sent : ∀ statement item, Known h statement →
    d.sent? (.execute statement item) = some ⟨insertRow table, [item.raw]⟩
  stored : ∀ statement item reply, Known h statement →
    ((d.call (.execute statement item) reply).2 = .ok () ↔ reply = .ok ())
  duplicate : ∀ statement item id reply, Known h statement →
    ((d.call (.execute statement item) reply).2 = .error (.duplicate id) ↔
      id = item.id ∧ ∃ text, reply = .error (.server "23505" text))
  failed : ∀ statement item fault, Known h statement → (∀ text, fault ≠ .server "23505" text) →
    (d.call (.execute statement item) (.error fault)).2 = .error (.query statement fault)
  /-- Neither an execution nor a setup that fails changes what is registered. -/
  kept : ∀ statement item reply, (d.call (.execute statement item) reply).1 = d
  asked : d.sent? .setup = some ⟨createTable table, []⟩
  refused : ∀ fault, d.call .setup (.error fault) = (d, .error (.query "CREATE TABLE" fault))
  registered : (d.call .setup (.ok ())).2 = .ok () ∧
    ∀ statement, (d.call .setup (.ok ())).1.statements.lookup statement =
      if statement = insertItem then some (insertRow table) else d.statements.lookup statement
  /-- A setup that succeeds again is seen by no later call. -/
  again : SetUp h → ∀ later c reply,
    ((d.call .setup (.ok ())).1.after later).sent? c = (d.after later).sent? c ∧
    (((d.call .setup (.ok ())).1.after later).call c reply).2 = ((d.after later).call c reply).2

theorem settles_after (table : String) (h : History) :
    Settles table h ((opened table).after h) := by
  have answered {statement : String} (known : Known h statement) (item : Item) (reply : Reply) :=
    execute_of_sent (query?_after_of_known table known item) reply
  have refused {statement : String} (unknown : ¬ Known h statement) (item : Item)
      (reply : Reply) :=
    execute_of_silent (query?_after_of_unknown table unknown item) reply
  constructor
  case unknown =>
    intro statement item reply
    refine ⟨fun result known => ?_, fun unknown => refused unknown item reply⟩
    exact told_ne_unknown ((answered known item reply).symm.trans result)
  case silent =>
    intro statement item
    refine ⟨fun nothing known => ?_, fun unknown => query?_after_of_unknown table unknown item⟩
    cases (query?_after_of_known table known item).symm.trans nothing
  case sent => exact fun statement item known => query?_after_of_known table known item
  case stored =>
    intro statement item reply known
    rw [call, answered known, told_eq_ok]
  case duplicate =>
    intro statement item id reply known
    rw [call, answered known, told_eq_duplicate]
  case failed =>
    intro statement item fault known other
    have plain : ¬ fault.isUniqueViolation = true := by
      rw [DatabaseFault.isUniqueViolation_iff]
      exact not_exists.2 other
    rw [call, answered known, told, if_neg plain]
  case kept => exact fun _ _ _ => rfl
  case asked =>
    rw [sent?, setupQuery, table_after]
  case refused => exact fun _ => rfl
  case registered =>
    refine ⟨rfl, fun statement => ?_⟩
    rw [setup_after]
    obtain ⟨-, same⟩ | ⟨-, same⟩ := after_cases table h
    · rw [same, lookup_ready]
      split <;> rfl
    · rw [same, lookup_ready]
      rfl
  case again =>
    intro done later c reply
    obtain ⟨-, same⟩ | ⟨missing, -⟩ := after_cases table h
    · rw [setup_after, same]
      exact ⟨rfl, rfl⟩
    · exact absurd done missing

/-- The storage of any table that is accepted settles all its calls. -/
theorem settles_calls {table : String} (accepted : isTableName table = true) :
    ∃ d, open? table = .ok d ∧ ∀ h, Settles table h (d.after h) :=
  ⟨opened table, open?_eq accepted, settles_after table⟩

/-- Called too early, then with a setup that fails and one that does not. -/
theorem settles_calls_late :
    let item : Item := ⟨⟨1⟩, some "a", some 10, "\x7b\"by\":\"a\",\"id\":1,\"time\":10\x7d"⟩
    let early : History := [(.execute insertItem item, .ok ()), (.setup, .error .poolTimedOut)]
    let late : History := early ++ [(.setup, .ok ())]
    isTableName "hn" = true ∧ ∃ d, open? "hn" = .ok d ∧
      (d.after early).sent? (.execute insertItem item) = none ∧
      (d.after late).sent? (.execute insertItem item) = some ⟨insertRow "hn", [item.raw]⟩ ∧
      ((d.after late).call (.execute insertItem item) (.error (.server "23505" "taken"))).2 =
        .error (.duplicate ⟨1⟩) ∧
      ((d.after late).call (.execute insertItem item) (.error (.server "23503" "lost"))).2 =
        .error (.query insertItem (.server "23503" "lost")) ∧
      (d.after late).sent? (.execute "upsert_item" item) = none := by
  intro item early late
  have accepted : isTableName "hn" = true := by decide
  obtain ⟨d, opened, settles⟩ := settles_calls accepted
  have known : Known late insertItem := by decide
  refine ⟨accepted, d, opened, ?_, ?_, ?_, ?_, ?_⟩
  · exact ((settles early).silent _ item).2 (by decide)
  · exact (settles late).sent _ item known
  · exact ((settles late).duplicate _ item _ _ known).2 ⟨rfl, "taken", rfl⟩
  · exact (settles late).failed _ item _ known (by simp)
  · exact ((settles late).silent _ item).2 (by decide)

end Database
end Storage
end FeedIngest
