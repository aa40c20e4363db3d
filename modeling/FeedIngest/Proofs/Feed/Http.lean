import FeedIngest.Feed.Http
import Mathlib.Tactic.Tauto

/-! What a lookup over HTTP finds. The final reply is the first answer that refers to no other
address. Its body makes an item if the status is one of success, the body is not `null`, and it
is a payload that has the identifier asked for. -/

namespace FeedIngest

namespace Http

/-- The answer that an exchange ends with, after so many redirects at most. -/
inductive Final : Nat → Url → List Outcome → Answer → Prop
  | here {left : Nat} {address : Url} {a : Answer} {rest : List Outcome}
    (web : address.scheme = "http" ∨ address.scheme = "https")
    (last : a.redirect? address = none) : Final left address (.answer a :: rest) a
  | redirect {left : Nat} {address next : Url} {a final : Answer} {rest : List Outcome}
    (web : address.scheme = "http" ∨ address.scheme = "https")
    (further : a.redirect? address = some next) (later : Final left next rest final) :
    Final (left + 1) address (.answer a :: rest) final

theorem known_scheme {address : Url} : ¬ (address.scheme ≠ "http" ∧ address.scheme ≠ "https") ↔
    address.scheme = "http" ∨ address.scheme = "https" := by
  tauto

theorem Final.result_exchange {client : Client} {left : Nat} {address : Url}
    {outcomes : List Outcome} {a : Answer} (h : Final left address outcomes a) :
    (exchange client left address outcomes).result = .ok (client.reply a) := by
  induction h with
  | here web last =>
    unfold exchange
    rw [if_neg (known_scheme.2 web)]
    simp only [last]
  | redirect web further _ ih =>
    unfold exchange
    rw [if_neg (known_scheme.2 web)]
    simp only [further]
    exact ih

theorem final_of_exchange {client : Client} {left : Nat} {address : Url}
    {outcomes : List Outcome} {r : Reply}
    (h : (exchange client left address outcomes).result = .ok r) :
    ∃ a, Final left address outcomes a ∧ client.reply a = r := by
  induction outcomes generalizing left address with
  | nil =>
    unfold exchange at h
    split at h <;> cases h
  | cons outcome rest ih =>
    unfold exchange at h
    split at h
    case isTrue => cases h
    case isFalse known =>
      have web := known_scheme.1 known
      cases outcome with
      | fault fault => cases fault <;> cases h
      | answer a =>
        dsimp only at h
        split at h
        case h_1 last => exact ⟨a, .here web last, Except.ok.inj h⟩
        case h_2 => cases h
        case h_3 further =>
          obtain ⟨b, later, same⟩ := ih h
          exact ⟨b, .redirect web further later, same⟩

/-- An exchange has a reply where it ends with an answer, and the reply is that answer. -/
theorem exchange_eq_ok {client : Client} {left : Nat} {address : Url} {outcomes : List Outcome}
    {r : Reply} : (exchange client left address outcomes).result = .ok r ↔
      ∃ a, Final left address outcomes a ∧ client.reply a = r := by
  constructor
  · exact final_of_exchange
  · rintro ⟨a, final, rfl⟩
    exact final.result_exchange

end Http

namespace HttpFeed

/-- What an answer's body says, if it is the reply to a lookup of an identifier: an item. -/
structure Carries (client : Http.Client) (id : ItemId) (a : Http.Answer) (item : Item) : Prop
    where
  success : 200 ≤ a.status ∧ a.status < 300
  /-- The whole of the decoded body is kept. -/
  raw : item.raw = client.decode a
  notNull : Text.trim item.raw.toList ≠ "null".toList
  /-- The other fields are those of its header, which has the identifier asked for. -/
  header : Header.read item.raw.toList = .ok ⟨id, item.author, item.time⟩
  same : item.id = id

theorem parse_eq_ok {raw : String} {item : Item} : Item.parse raw = .ok item ↔
    item.raw = raw ∧ Header.read raw.toList = .ok ⟨item.id, item.author, item.time⟩ := by
  obtain ⟨id, author, time, kept⟩ := item
  unfold Item.parse
  cases read : Header.read raw.toList with
  | error f => simp [read]
  | ok h =>
    obtain ⟨id', author', time'⟩ := h
    simp only [read, Except.ok.injEq, Item.mk.injEq, Header.mk.injEq]
    tauto

theorem parseFor_eq_ok {id : ItemId} {raw : String} {item : Item} :
    Item.parseFor id raw = .ok item ↔ Item.parse raw = .ok item ∧ item.id = id := by
  unfold Item.parseFor
  cases Item.parse raw with
  | error e => simp
  | ok found =>
    by_cases same : found.id = id
    · simp only [same, if_true, Except.ok.injEq]
      exact ⟨fun h => ⟨h, h ▸ same⟩, fun h => h.1⟩
    · simp only [same, if_false, Except.ok.injEq, reduceCtorEq, false_iff]
      rintro ⟨rfl, h⟩
      exact same h

/-- What an answer carries is what is read from its reply. -/
theorem carries_iff {client : Http.Client} {id : ItemId} {a : Http.Answer} {item : Item} :
    Carries client id a item ↔
      ofReply (readItem id) (client.reply a) = .ok (.available item) := by
  have status : a.status.isSuccess = true ↔ 200 ≤ a.status ∧ a.status < 300 := by
    simp [Http.Status.isSuccess]
  have read : readItem id (client.reply a).body = .ok (.available item) ↔
      Text.trim (client.reply a).body.toList ≠ "null".toList ∧
        Item.parse (client.reply a).body = .ok item ∧ item.id = id := by
    rw [← parseFor_eq_ok]
    unfold readItem
    by_cases null : Text.trim (client.reply a).body.toList = "null".toList
    · simp [null]
    · rw [if_neg null]
      cases Item.parseFor id (client.reply a).body with
      | error e => simp
      | ok found => simpa using fun _ => null
  unfold ofReply
  by_cases success : a.status.isSuccess = true
  · have same : (client.reply a).status.isSuccess = true := success
    rw [if_pos same, read, parse_eq_ok]
    constructor
    · intro h
      refine ⟨?_, ⟨h.raw, ?_⟩, h.same⟩
      · rw [← show item.raw = (client.reply a).body from h.raw]
        exact h.notNull
      · rw [← show item.raw = (client.reply a).body from h.raw, h.same]
        exact h.header
    · rintro ⟨notNull, ⟨raw, header⟩, same⟩
      rw [← raw] at notNull header
      rw [same] at header
      exact ⟨status.1 success, raw, notNull, header, same⟩
  · have same : ¬ (client.reply a).status.isSuccess = true := success
    rw [if_neg same]
    constructor
    · intro h
      exact absurd (status.2 h.success) success
    · rintro ⟨⟩

/-- A lookup finds an item where its final reply carries one. -/
theorem result_item_eq_available {f : HttpFeed} {id : ItemId} {network : List Http.Outcome}
    {item : Item} : (f.item id network).result = .ok (.available item) ↔
      ∃ address a, f.itemAddress id = .ok address ∧
        Http.Final Http.maxRedirects address network a ∧ Carries f.client id a item := by
  unfold HttpFeed.item call
  cases f.itemAddress id with
  | error e => simp
  | ok address =>
    have result : ofResult (readItem id)
        (Http.exchange f.client Http.maxRedirects address network).result = .ok (.available item) ↔
        ∃ r, (Http.exchange f.client Http.maxRedirects address network).result = .ok r ∧
          ofReply (readItem id) r = .ok (.available item) := by
      cases (Http.exchange f.client Http.maxRedirects address network).result <;> simp [ofResult]
    refine result.trans ?_
    constructor
    · rintro ⟨r, hr, found⟩
      obtain ⟨a, final, rfl⟩ := Http.exchange_eq_ok.1 hr
      exact ⟨address, a, rfl, final, carries_iff.2 found⟩
    · rintro ⟨_, a, ⟨⟩, final, carries⟩
      exact ⟨f.client.reply a, Http.exchange_eq_ok.2 ⟨a, final, rfl⟩, carries_iff.1 carries⟩

end HttpFeed
end FeedIngest
