import FeedIngest.Item.Basic
import FeedIngest.Proofs.Storage.Database
import FeedIngest.Proofs.Storage.Memory

/-! The storage in memory in place of the storage in a database. Behind the database stands a
server that keeps one row for each key. One call after another, in whatever order and however
often repeated, both come to the same, and afterwards both have rows for the same identifiers,
each written by the same call. What each knows is found in different places: the storage in memory
keeps its readiness and its rows, the other a list of statements, and the rows are the server's. -/

namespace FeedIngest.Storage

section Calls

variable {σ τ : Type}

/-- The state after some calls. -/
def stateAfter (call : σ → Call → σ × Outcome) (s : σ) (calls : List Call) : σ :=
  calls.foldl (fun s c => (call s c).1) s

/-- What each of some calls comes to. -/
def outcomes (call : σ → Call → σ × Outcome) (s : σ) : List Call → List Outcome
  | [] => []
  | c :: calls => (call s c).2 :: outcomes call (call s c).1 calls

theorem stateAfter_concat (call : σ → Call → σ × Outcome) (s : σ) (calls : List Call) (c : Call) :
    stateAfter call s (calls ++ [c]) = (call (stateAfter call s calls) c).1 :=
  List.foldl_append

/-- A relation that each call keeps while it comes to the same is kept by all calls. -/
theorem outcomes_eq_of_step {call : σ → Call → σ × Outcome} {call' : τ → Call → τ × Outcome}
    {Related : σ → τ → Prop} {Admitted : Call → Prop}
    (step : ∀ s t c, Related s t → Admitted c →
      (call s c).2 = (call' t c).2 ∧ Related (call s c).1 (call' t c).1)
    {calls : List Call} (admitted : ∀ c ∈ calls, Admitted c) {s : σ} {t : τ} (h : Related s t) :
    outcomes call s calls = outcomes call' t calls ∧
      Related (stateAfter call s calls) (stateAfter call' t calls) := by
  induction calls generalizing s t with
  | nil => exact ⟨rfl, h⟩
  | cons c calls ih =>
    obtain ⟨first, rest⟩ := List.forall_mem_cons.1 admitted
    obtain ⟨same, related⟩ := step s t c h first
    obtain ⟨later, ends⟩ := ih rest related
    exact ⟨congrArg₂ List.cons same later, ends⟩

end Calls

namespace Memory

variable {m : Memory} {statement : String} {item : Item} {calls : List Call} {c : Call}

/-- The storage after a call, and what the call comes to. -/
def call (m : Memory) : Call → Memory × Outcome
  | .setup => (m.setup, .ok ())
  | .execute statement item => m.execute statement item

/-- A call leaves all rows or is an insertion that writes a row where there was none. -/
theorem call_cases (m : Memory) (c : Call) :
    (∀ id, (m.call c).1.row? id = m.row? id) ∨
    ∃ item, c = .execute insertItem item ∧ m.row? item.id = none ∧
      ∀ id, (m.call c).1.row? id = if item.id = id then some item else m.row? id := by
  cases c with
  | setup => exact .inl fun _ => rfl
  | execute statement item =>
    obtain ⟨e, -, he⟩ | ⟨-, rfl, -, new, he⟩ := m.execute_cases statement item
    · refine .inl fun id => ?_
      rw [call, he]
      rfl
    · refine .inr ⟨item, rfl, row?_eq_none_iff.2 new, fun id => ?_⟩
      rw [call, he]
      exact row?_write new id

/-- The storage after some calls from its start, with no writes set to fail. -/
def after (calls : List Call) : Memory := stateAfter call (empty []) calls

theorem after_concat (calls : List Call) (c : Call) :
    after (calls ++ [c]) = ((after calls).call c).1 :=
  stateAfter_concat call _ calls c

/-- An item was written by the call between others, and has been held ever since. -/
structure Written (calls : List Call) (item : Item) (before later : List Call) : Prop where
  split : calls = before ++ .execute insertItem item :: later
  vacant : (after before).row? item.id = none
  held : ∀ meanwhile, meanwhile <+: later →
    (after (before ++ .execute insertItem item :: meanwhile)).row? item.id = some item

theorem id_of_row? {id : ItemId} (h : m.row? id = some item) : item.id = id := by
  simpa using List.find?_some h

theorem Written.concat {before later : List Call} (h : Written calls item before later)
    (still : (after (calls ++ [c])).row? item.id = some item) :
    Written (calls ++ [c]) item before (later ++ [c]) := by
  constructor
  case split => simp [h.split]
  case vacant => exact h.vacant
  case held =>
    intro meanwhile early
    rcases List.prefix_concat_iff.1 early with rfl | early
    · simpa [h.split] using still
    · exact h.held meanwhile early

/-- Every row was written by one call. -/
theorem exists_written {id : ItemId} (h : (after calls).row? id = some item) :
    ∃ before later, Written calls item before later := by
  induction calls using List.reverseRecOn generalizing id with
  | nil => cases h
  | append_singleton calls c ih =>
    -- The row stood before the last call, or that call wrote it.
    have still := h
    rw [after_concat] at h
    obtain kept | ⟨new, rfl, vacant, written⟩ := (after calls).call_cases c
    · rw [kept] at h
      obtain ⟨before, later, w⟩ := ih h
      exact ⟨before, later ++ [c], w.concat ((id_of_row? h) ▸ still)⟩
    · rw [written] at h
      split at h
      case isTrue same =>
        cases h
        refine ⟨calls, [], rfl, vacant, fun meanwhile early => ?_⟩
        rw [List.prefix_nil.1 early, after_concat, written, if_pos rfl]
      case isFalse other =>
        obtain ⟨before, later, w⟩ := ih h
        exact ⟨before, later ++ [_], w.concat ((id_of_row? h) ▸ still)⟩

end Memory

/-- An item as it was read from its payload, with an identifier that is a key. -/
structure Storable (item : Item) : Prop where
  read : Item.parse item.raw = .ok item
  fits : item.id.toNat ≤ 9223372036854775807

/-- A call with a storable item, if it has one. -/
def Call.Storable : Call → Prop
  | .setup => True
  | .execute _ item => Storage.Storable item

/-- A server that answers queries, and what can be told of the one table that matters. -/
structure Server (σ ρ : Type) where
  serve : σ → Query → σ × Reply
  created : σ → Prop
  row? : σ → ItemId → Option ρ
  /-- The row that is made of a payload. -/
  rowOf : String → ρ

namespace Server

variable {σ ρ : Type} {S : Server σ ρ} {table : String}

/-- Rows are kept by their keys: a storable item is added at once, or its key is taken. -/
structure Keyed (S : Server σ ρ) (table : String) : Prop where
  creates : ∀ s, (S.serve s ⟨createTable table, []⟩).2 = .ok () ∧
    S.created (S.serve s ⟨createTable table, []⟩).1 ∧
    ∀ id, S.row? (S.serve s ⟨createTable table, []⟩).1 id = S.row? s id
  adds : ∀ s item, S.created s → Storable item → S.row? s item.id = none →
    (S.serve s ⟨insertRow table, [item.raw]⟩).2 = .ok () ∧
    S.created (S.serve s ⟨insertRow table, [item.raw]⟩).1 ∧
    ∀ id, S.row? (S.serve s ⟨insertRow table, [item.raw]⟩).1 id =
      if item.id = id then some (S.rowOf item.raw) else S.row? s id
  refuses : ∀ s item, S.created s → Storable item → (S.row? s item.id).isSome →
    (∃ text, (S.serve s ⟨insertRow table, [item.raw]⟩).2 = .error (.server "23505" text)) ∧
    S.created (S.serve s ⟨insertRow table, [item.raw]⟩).1 ∧
    ∀ id, S.row? (S.serve s ⟨insertRow table, [item.raw]⟩).1 id = S.row? s id

end Server

/-- A table that holds payloads, once it has been created. -/
structure Table where
  created : Bool
  rows : ItemId → Option String

namespace Table

/-- A table that is not there. -/
def missing : Table := ⟨false, fun _ => none⟩

/-- The table after a payload was to become a row, and the reply to it. -/
def insert (t : Table) (payload : String) : Table × Reply :=
  match Item.parse payload with
  | .error _ => (t, .error (.server "22P02" "invalid input syntax for type json"))
  | .ok item =>
    if 9223372036854775807 < item.id.toNat then
      (t, .error (.server "22003" "value is out of range for type bigint"))
    else if (t.rows item.id).isSome then
      (t, .error (.server "23505" "duplicate key value violates unique constraint"))
    else ({ t with rows := fun id => if item.id = id then some payload else t.rows id }, .ok ())

/-- The table after a query, and the reply to it. -/
def serve (name : String) (t : Table) (q : Query) : Table × Reply :=
  match q.values with
  | [] =>
    if q.sql = createTable name then ({ t with created := true }, .ok ())
    else (t, .error (.server "42601" "syntax error"))
  | payload :: _ =>
    if q.sql = insertRow name ∧ t.created then t.insert payload
    else (t, .error (.server "42P01" "relation does not exist"))

def server (name : String) : Server Table String := ⟨serve name, (·.created = true), rows, id⟩

theorem serve_insertRow (name : String) {t : Table} (created : t.created = true) {item : Item}
    (storable : Storable item) : (server name).serve t ⟨insertRow name, [item.raw]⟩ =
      if (t.rows item.id).isSome then
        (t, .error (.server "23505" "duplicate key value violates unique constraint"))
      else ({ t with rows := fun id => if item.id = id then some item.raw else t.rows id },
        .ok ()) := by
  simp only [server, serve, created, and_self, if_true, insert, storable.read,
    if_neg (Nat.not_lt.2 storable.fits)]

/-- A server with nothing but this table keeps its rows by their keys. -/
theorem keyed_server (name : String) : (server name).Keyed name := by
  constructor
  case creates =>
    intro t
    have reply : (server name).serve t ⟨createTable name, []⟩ =
        ({ t with created := true }, .ok ()) := if_pos rfl
    rw [reply]
    exact ⟨rfl, rfl, fun _ => rfl⟩
  case adds =>
    intro t item created storable (free : t.rows item.id = none)
    rw [serve_insertRow name created storable, free]
    exact ⟨rfl, created, fun _ => rfl⟩
  case refuses =>
    intro t item created storable (taken : (t.rows item.id).isSome = true)
    rw [serve_insertRow name created storable, if_pos taken]
    exact ⟨⟨_, rfl⟩, created, fun _ => rfl⟩

end Table

/-- A storage in a database, and the server behind it. -/
structure Served (σ : Type) where
  database : Database
  server : σ

namespace Served

variable {σ ρ : Type} {S : Server σ ρ} {table : String} {t : Served σ} {c : Call}

/-- The two after a call whose query, if it has one, reaches the server, and what it comes to. -/
def call (S : Server σ ρ) (t : Served σ) (c : Call) : Served σ × Outcome :=
  match t.database.sent? c with
  | some q =>
    let (server, reply) := S.serve t.server q
    let (database, outcome) := t.database.call c reply
    (⟨database, server⟩, outcome)
  | none =>
    -- without a query there is no reply that the call could depend on
    let (database, outcome) := t.database.call c (.ok ())
    (⟨database, t.server⟩, outcome)

theorem call_of_sent {q : Query} (h : t.database.sent? c = some q) :
    t.call S c = (⟨(t.database.call c (S.serve t.server q).2).1, (S.serve t.server q).1⟩,
      (t.database.call c (S.serve t.server q).2).2) := by
  rw [call, h]

theorem call_of_silent (h : t.database.sent? c = none) :
    t.call S c = (⟨(t.database.call c (.ok ())).1, t.server⟩, (t.database.call c (.ok ())).2) := by
  rw [call, h]

end Served

variable {σ ρ : Type} {S : Server σ ρ} {table : String} {m : Memory} {t : Served σ}

/-- What the two storages have in common. -/
structure Alike (S : Server σ ρ) (table : String) (m : Memory) (t : Served σ) : Prop where
  spared : m.failing = []
  database : t.database = if m.ready then Database.ready table else Database.opened table
  created : m.ready = true → S.created t.server
  rows : ∀ id, S.row? t.server id = (m.row? id).map fun item => S.rowOf item.raw

namespace Alike

variable {statement : String} {item : Item}

theorem start (table : String) {s : σ} (vacant : ∀ id, S.row? s id = none) :
    Alike S table (.empty []) ⟨.opened table, s⟩ where
  spared := rfl
  database := rfl
  created := by rintro ⟨⟩
  rows := vacant

/-- An attempt that writes nothing in either leaves them alike. -/
theorem attempt (h : Alike S table m t) {s : σ} (created : m.ready = true → S.created s)
    (rows : ∀ id, S.row? s id = S.row? t.server id) :
    Alike S table (m.attempt item) ⟨t.database, s⟩ where
  spared := h.spared
  database := h.database
  created := created
  rows id := (rows id).trans (h.rows id)

theorem setup (keyed : S.Keyed table) (h : Alike S table m t) :
    (m.call .setup).2 = (t.call S .setup).2 ∧
      Alike S table (m.call .setup).1 (t.call S .setup).1 := by
  have sent : t.database.sent? .setup = some ⟨createTable table, []⟩ := by
    rw [h.database]
    split <;> rfl
  have succeeds : t.database.call .setup (.ok ()) = (.ready table, .ok ()) := by
    rw [h.database]
    split <;> rfl
  obtain ⟨reply, created, kept⟩ := keyed.creates t.server
  rw [Served.call_of_sent sent, reply, succeeds]
  exact ⟨rfl, h.spared, rfl, fun _ => created, fun id => (kept id).trans (h.rows id)⟩

/-- Before a setup, and under any other name, neither knows the statement. -/
theorem execute_unknown (h : Alike S table m t) (item : Item)
    (unknown : ¬ (m.ready = true ∧ statement = insertItem)) :
    (m.call (.execute statement item)).2 = (t.call S (.execute statement item)).2 ∧
      Alike S table (m.call (.execute statement item)).1
        (t.call S (.execute statement item)).1 := by
  have silent : t.database.query? statement item = none := by
    rw [h.database]
    split
    case isTrue ready => exact Database.query?_ready_of_ne (fun same => unknown ⟨ready, same⟩) _ _
    case isFalse => exact Database.query?_opened table statement item
  have refusal : m.refusal? statement item = some (.unknownStatement statement) := by
    rw [Memory.refusal?, if_pos]
    simpa [imp_iff_not_or] using unknown
  rw [Served.call_of_silent (c := .execute statement item) silent, Memory.call,
    Memory.execute_of_refused refusal]
  exact ⟨(Database.execute_of_silent silent _).symm, h.attempt h.created fun _ => rfl⟩

/-- Once they are set up, an insertion writes to both or to neither. -/
theorem execute_known (keyed : S.Keyed table) (h : Alike S table m t) (ready : m.ready = true)
    (storable : Storable item) :
    (m.call (.execute insertItem item)).2 = (t.call S (.execute insertItem item)).2 ∧
      Alike S table (m.call (.execute insertItem item)).1
        (t.call S (.execute insertItem item)).1 := by
  have sent : t.database.query? insertItem item = some ⟨insertRow table, [item.raw]⟩ := by
    rw [h.database, if_pos ready, Database.query?_ready]
  rw [Served.call_of_sent (c := .execute insertItem item) sent, Memory.call]
  cases row : m.row? item.id with
  | none =>
    have free : S.row? t.server item.id = none := by rw [h.rows, row, Option.map_none]
    obtain ⟨reply, created, added⟩ := keyed.adds _ _ (h.created ready) storable free
    have new : item.id ∉ m.storedIds := Memory.row?_eq_none_iff.1 row
    have refusal : m.refusal? insertItem item = none := by
      simp [Memory.refusal?, ready, h.spared, row]
    have done : t.database.execute insertItem item (.ok ()) = .ok () :=
      Database.execute_of_sent sent _
    rw [reply, Memory.execute_of_admitted refusal]
    refine ⟨done.symm, h.spared, h.database, fun _ => created, fun id => ?_⟩
    rw [added, Memory.row?_write new, h.rows]
    split <;> rfl
  | some old =>
    have taken : (S.row? t.server item.id).isSome := by rw [h.rows, row]; rfl
    obtain ⟨⟨text, reply⟩, created, kept⟩ := keyed.refuses _ _ (h.created ready) storable taken
    have refusal : m.refusal? insertItem item = some (.duplicate item.id) := by
      simp [Memory.refusal?, ready, h.spared, row]
    have refused : t.database.execute insertItem item (.error (.server "23505" text)) =
        .error (.duplicate item.id) := by
      rw [Database.execute_of_sent sent, Database.told_eq_duplicate]
      exact ⟨rfl, text, rfl⟩
    rw [reply, Memory.execute_of_refused refusal]
    exact ⟨refused.symm, h.attempt (fun _ => created) kept⟩

theorem call (keyed : S.Keyed table) (m : Memory) (t : Served σ) (c : Call)
    (h : Alike S table m t) (storable : c.Storable) :
    (m.call c).2 = (t.call S c).2 ∧ Alike S table (m.call c).1 (t.call S c).1 := by
  cases c with
  | setup => exact h.setup keyed
  | execute statement item =>
    by_cases known : m.ready = true ∧ statement = insertItem
    · obtain ⟨ready, rfl⟩ := known
      exact h.execute_known keyed ready storable
    · exact h.execute_unknown item known

end Alike

namespace Served

/-- The storage in a database after some calls from its start, its server being in that state. -/
def after (S : Server σ ρ) (d : Database) (start : σ) (calls : List Call) : Served σ :=
  stateAfter (call S) ⟨d, start⟩ calls

/-- Both have the row of an identifier from one and the same call: none before it, and what its
item makes ever since. -/
structure FromOneCall (S : Server σ ρ) (d : Database) (start : σ) (calls : List Call) (item : Item)
    (before later : List Call) : Prop where
  inMemory : Memory.Written calls item before later
  vacant : S.row? (after S d start before).server item.id = none
  held : ∀ meanwhile, meanwhile <+: later →
    S.row? (after S d start (before ++ .execute insertItem item :: meanwhile)).server item.id =
      some (S.rowOf item.raw)

/-- How the two storages compare after some calls. -/
structure Simulated (S : Server σ ρ) (d : Database) (start : σ) (calls : List Call) : Prop where
  outcomes : outcomes Memory.call (.empty []) calls = outcomes (call S) ⟨d, start⟩ calls
  sameIds : ∀ id, id ∈ (Memory.after calls).storedIds ↔
    (S.row? (after S d start calls).server id).isSome
  sameCalls : ∀ id ∈ (Memory.after calls).storedIds, ∃ item before later,
    item.id = id ∧ FromOneCall S d start calls item before later

end Served

theorem alike_after (keyed : S.Keyed table) {start : σ} (vacant : ∀ id, S.row? start id = none)
    {calls : List Call} (storable : ∀ c ∈ calls, c.Storable) :
    outcomes Memory.call (.empty []) calls =
        outcomes (Served.call S) ⟨.opened table, start⟩ calls ∧
      Alike S table (Memory.after calls) (Served.after S (.opened table) start calls) :=
  outcomes_eq_of_step (fun m t c h hc => Alike.call keyed m t c h hc) storable
    (Alike.start table vacant)

/-- As far as their callers can tell, the storage in memory is one in a database whose table was
empty, whatever they are called for. -/
theorem simulates {start : σ} (accepted : isTableName table = true) (keyed : S.Keyed table)
    (vacant : ∀ id, S.row? start id = none) :
    ∃ d, Database.open? table = .ok d ∧
      ∀ calls : List Call, (∀ c ∈ calls, c.Storable) → Served.Simulated S d start calls := by
  refine ⟨.opened table, Database.open?_eq accepted, fun calls storable => ?_⟩
  -- They are alike after each part of the calls, so a row that one of them has since some call
  -- the other has since that call too.
  have alike {first : List Call} (early : first <+: calls) := (alike_after keyed vacant
    fun c hc => storable c (early.subset hc)).2
  constructor
  case outcomes => exact (alike_after keyed vacant storable).1
  case sameIds =>
    intro id
    rw [(alike List.prefix_rfl).rows, Option.isSome_map, Memory.isSome_row?]
  case sameCalls =>
    intro id stored
    obtain ⟨item, row⟩ := Option.isSome_iff_exists.1 (Memory.isSome_row?.2 stored)
    obtain ⟨before, later, written⟩ := Memory.exists_written row
    refine ⟨item, before, later, Memory.id_of_row? row, written, ?_, fun meanwhile early => ?_⟩
    · have first : before <+: calls := ⟨_, written.split.symm⟩
      rw [(alike first).rows, written.vacant, Option.map_none]
    · have first : before ++ .execute insertItem item :: meanwhile <+: calls := by
        rw [written.split, List.prefix_append_right_inj, List.cons_prefix_cons]
        exact ⟨rfl, early⟩
      rw [(alike first).rows, written.held meanwhile early, Option.map_some]

/-- Called too early, with an identifier a second time, and under a name that is not known. -/
theorem simulates_mixed :
    let first : Item := ⟨⟨1⟩, some "a", some 10, "\x7b\"by\":\"a\",\"id\":1,\"time\":10\x7d"⟩
    let second : Item := ⟨⟨1⟩, some "b", some 20, "\x7b\"by\":\"b\",\"id\":1,\"time\":20\x7d"⟩
    let third : Item := ⟨⟨2⟩, none, none, "\x7b\"id\":2\x7d"⟩
    let calls : List Call := [.execute insertItem first, .setup, .execute insertItem first,
      .execute insertItem second, .execute "upsert_item" third, .setup, .execute insertItem third]
    isTableName "hn" = true ∧ (Table.server "hn").Keyed "hn" ∧
      (∀ id, (Table.server "hn").row? .missing id = none) ∧ (∀ c ∈ calls, c.Storable) ∧
      ∃ d, Database.open? "hn" = .ok d ∧
        Served.Simulated (Table.server "hn") d .missing calls ∧
        outcomes (Served.call (Table.server "hn")) ⟨d, .missing⟩ calls =
          [.error (.unknownStatement insertItem), .ok (), .ok (), .error (.duplicate ⟨1⟩),
            .error (.unknownStatement "upsert_item"), .ok (), .ok ()] := by
  intro first second third calls
  have accepted : isTableName "hn" = true := by decide
  have keyed := Table.keyed_server "hn"
  have vacant : ∀ id, (Table.server "hn").row? .missing id = none := fun _ => rfl
  have storable : ∀ c ∈ calls, c.Storable := by
    have one : Storable first := ⟨by decide +kernel, by decide⟩
    have two : Storable second := ⟨by decide +kernel, by decide⟩
    have three : Storable third := ⟨by decide +kernel, by decide⟩
    simp only [calls, List.forall_mem_cons]
    exact ⟨one, trivial, one, two, three, trivial, three, List.forall_mem_nil _⟩
  obtain ⟨d, opened, simulated⟩ := simulates accepted keyed vacant
  refine ⟨accepted, keyed, vacant, storable, d, opened, simulated calls storable, ?_⟩
  rw [← (simulated calls storable).outcomes]
  rfl

end FeedIngest.Storage
