import FeedIngest.Http.Charset
import FeedIngest.Proofs.Feed.Http
import FeedIngest.Proofs.Item.Keying

/-! What is told from the final reply of a call. A status that is none of success is an error,
whatever the body. Other replies fall apart by their bodies: the text `null` with any blanks around
it, the payloads of the item that is asked for, and the rest. The blanks are more than the
whitespace of a payload, but no payload of an item begins as the text `null` does. -/

namespace FeedIngest

namespace Text

open Json

theorem isBlank_of_gap {g : List Char} (hg : Gap g) : ∀ c ∈ g, isBlank c = true := by
  intro c hc
  obtain rfl | rfl | rfl | rfl := hg c hc <;> rfl

/-- A text is trimmed from its first character that is no blank on. -/
theorem trim_prefix {g rest : List Char} {c : Char} (hg : Gap g) (hc : isBlank c = false) :
    trim (g ++ c :: rest) <+: c :: rest := by
  have start : (g ++ c :: rest).dropWhile isBlank = c :: rest := by
    rw [List.dropWhile_append_of_pos (isBlank_of_gap hg)]
    exact List.dropWhile_cons_of_neg (by simp [hc])
  rw [trim, start]
  exact List.rdropWhile_prefix isBlank (c :: rest)

/-- Blanks around a text are trimmed, and nothing of a text without blanks. -/
theorem trim_surrounded {u cs v : List Char} (hu : ∀ c ∈ u, isBlank c = true)
    (hv : ∀ c ∈ v, isBlank c = true) (hcs : ∀ c ∈ cs, isBlank c = false) :
    trim (u ++ (cs ++ v)) = cs := by
  have blank : ∀ c ∈ v.reverse, isBlank c = true := fun c hc => hv c (List.mem_reverse.1 hc)
  have kept {ds : List Char} (h : ∀ c ∈ ds, isBlank c = false) : ds.dropWhile isBlank = ds := by
    cases ds with
    | nil => rfl
    | cons d ds => exact List.dropWhile_cons_of_neg (by simp [h d])
  rw [trim, List.dropWhile_append_of_pos hu]
  cases cs with
  | nil =>
    rw [List.nil_append, List.dropWhile_eq_nil_iff.2 hv]
    rfl
  | cons c cs =>
    have start : (c :: cs ++ v).dropWhile isBlank = c :: cs ++ v :=
      List.dropWhile_cons_of_neg (by simp [hcs c])
    rw [start, List.reverse_append, List.dropWhile_append_of_pos blank, kept, List.reverse_reverse]
    exact fun d hd => hcs d (List.mem_reverse.1 hd)

theorem exists_trim (cs : List Char) : ∃ u v, (∀ c ∈ u, isBlank c = true) ∧
    (∀ c ∈ v, isBlank c = true) ∧ cs = u ++ (trim cs ++ v) := by
  refine ⟨cs.takeWhile isBlank, ((cs.dropWhile isBlank).reverse.takeWhile isBlank).reverse,
    fun c => List.mem_takeWhile_imp, fun c mem => List.mem_takeWhile_imp (List.mem_reverse.1 mem), ?_⟩
  rw [trim, ← List.reverse_append, List.takeWhile_append_dropWhile, List.reverse_reverse,
    List.takeWhile_append_dropWhile]

theorem trim_null {g g' : List Char} (hg : Gap g) (hg' : Gap g') :
    trim (g ++ ("null".toList ++ g')) = "null".toList :=
  trim_surrounded (isBlank_of_gap hg) (isBlank_of_gap hg') (by simp [isBlank])

end Text

/-! ### Bodies -/

/-- A header is read from an object or a list. -/
theorem Header.skipGap_of_read {cs : List Char} {h : Header} (accepted : Header.read cs = .ok h) :
    ∃ c rest, Json.skipGap cs = c :: rest ∧ (c = '[' ∨ c = '\x7b') := by
  unfold Header.read at accepted
  split at accepted
  case h_1 => cases accepted
  case h_2 header after value =>
    unfold Header.readValue at value
    split at value
    case h_1 => cases value
    case h_2 c rest skipped =>
      refine ⟨c, rest, skipped, ?_⟩
      split at value
      case isTrue bracket => exact .inl bracket
      split at value
      case isTrue brace => exact .inr brace
      case isFalse => cases value

/-- What is trimmed to `null` is no payload. -/
theorem Item.parse_ne_of_trim {body : String} {item : Item}
    (null : Text.trim body.toList = "null".toList) : Item.parse body ≠ .ok item := by
  intro accepted
  obtain ⟨h, read, -⟩ := Item.exists_read accepted
  obtain ⟨c, rest, skipped, first⟩ := Header.skipGap_of_read read
  obtain ⟨g, hg, hc⟩ := Json.exists_of_skipGap skipped
  have blank : Text.isBlank c = false := by rcases first with rfl | rfl <;> rfl
  have trimmed : "null".toList <+: c :: rest := by
    rw [← null, hc]
    exact Text.trim_prefix hg blank
  obtain ⟨behind, same⟩ := trimmed
  have : 'n' = c := List.head_eq_of_cons_eq same
  rcases first with rfl | rfl <;> exact absurd this (by decide)

/-! ### Replies -/

namespace HttpFeed

variable {client : Http.Client} {network : List Http.Outcome} {r : Http.Reply}

/-- The final reply of a call for the resource at an address. -/
def Replied (client : Http.Client) (address : Except FeedError Url) (network : List Http.Outcome)
    (r : Http.Reply) : Prop :=
  ∃ url a, address = .ok url ∧ Http.Final Http.maxRedirects url network a ∧ client.reply a = r

def Succeeds (r : Http.Reply) : Prop := 200 ≤ r.status ∧ r.status < 300

theorem isSuccess_iff : r.status.isSuccess = true ↔ Succeeds r := by
  simp [Http.Status.isSuccess, Succeeds]

theorem call_of_replied {α : Type} {address : Except FeedError Url}
    {read : String → Except FeedError α} (replied : Replied client address network r) :
    (call client address read network).result = ofReply read r := by
  obtain ⟨url, a, rfl, final, rfl⟩ := replied
  simp [call, ofResult, final.result_exchange]

/-- Nothing is read but from a final reply. -/
theorem replied_of_call {α : Type} {address : Except FeedError Url}
    {read : String → Except FeedError α} {x : α}
    (h : (call client address read network).result = .ok x) :
    ∃ r, Replied client address network r ∧ ofReply read r = .ok x := by
  unfold call at h
  split at h
  case h_1 => cases h
  case h_2 url =>
    dsimp only at h
    cases result : (Http.exchange client Http.maxRedirects url network).result with
    | error fault => rw [result] at h; cases h
    | ok r =>
      obtain ⟨a, final, same⟩ := Http.exchange_eq_ok.1 result
      rw [result] at h
      exact ⟨r, ⟨url, a, rfl, final, same⟩, h⟩

/-- What a lookup makes of its final reply. -/
structure Tells (id : ItemId) (r : Http.Reply) (result : Except FeedError Lookup) : Prop where
  failure : ¬ Succeeds r → result = .error (.status r.status)
  notAvailable : Succeeds r →
    (result = .ok .notAvailable ↔ Text.trim r.body.toList = "null".toList)
  available : Succeeds r → ∀ item,
    (result = .ok (.available item) ↔ Item.parse r.body = .ok item ∧ item.id = id)
  other : Succeeds r → Text.trim r.body.toList ≠ "null".toList →
    (¬ ∃ item, Item.parse r.body = .ok item ∧ item.id = id) →
    ∃ text, result = .error (.parse text)

theorem tells_ofReply (id : ItemId) (r : Http.Reply) : Tells id r (ofReply (readItem id) r) := by
  have read (success : Succeeds r) : ofReply (readItem id) r = readItem id r.body :=
    if_pos (isSuccess_iff.2 success)
  constructor
  · exact fun failure => if_neg fun success => failure (isSuccess_iff.1 success)
  · intro success
    rw [read success, readItem]
    split
    case isTrue null => exact iff_of_true rfl null
    case isFalse notNull =>
      refine iff_of_false ?_ notNull
      split <;> rintro ⟨⟩
  · intro success item
    rw [read success, readItem, ← parseFor_eq_ok]
    split
    case isTrue null =>
      have refused : Item.parseFor id r.body ≠ .ok item := fun accepted =>
        Item.parse_ne_of_trim null (parseFor_eq_ok.1 accepted).1
      simp [refused]
    case isFalse =>
      split
      case h_1 found same => simp [same]
      case h_2 e same => simp [same]
  · intro success notNull none
    rw [read success, readItem, if_neg notNull]
    split
    case h_1 item accepted => exact absurd ⟨item, parseFor_eq_ok.1 accepted⟩ none
    case h_2 e _ => exact ⟨e.message, rfl⟩

theorem readMaximum_eq_ok {body : String} {n : ItemId} (h : readMaximum body = .ok n) :
    ∃ ds, (Text.trim body.toList = ds ∨ Text.trim body.toList = '+' :: ds) ∧
      Digits.Spells ds n.toNat := by
  unfold readMaximum at h
  split at h
  case h_2 => cases h
  case h_1 found read =>
    cases h
    obtain ⟨value, digits, number⟩ := Option.bind_eq_some_iff.1 read
    rw [ItemId.ofNat?_eq_some.1 number]
    exact (Digits.read?_eq_some_iff.1 digits).1

/-- How what calls come to is told from their final replies. -/
structure ToldByReply (f : HttpFeed) (network : List Http.Outcome) : Prop where
  lookup : ∀ id r, Replied f.client (f.itemAddress id) network r →
    Tells id r (f.item id network).result
  /-- Without a reply a lookup fails. -/
  unanswered : ∀ id, (¬ ∃ r, Replied f.client (f.itemAddress id) network r) →
    ∃ e, (f.item id network).result = .error e
  /-- What tells that an item is not there yet is no item. -/
  apart : ∀ (body : String) item,
    ¬ (Text.trim body.toList = "null".toList ∧ Item.parse body = .ok item)
  /-- Every text of the value `null` tells it. -/
  null : ∀ (body : String) g g', Json.Gap g → Json.Gap g' →
    body.toList = g ++ ("null".toList ++ g') → Text.trim body.toList = "null".toList
  /-- Every text of an object with a header is an item. -/
  written : ∀ (body : String) (h : Header), h.Written body.toList → h.TimeFits →
    ∃ item, Item.parse body = .ok item ∧ item.id = h.id
  /-- There is no number but what a body of success spells. -/
  maximum : ∀ n, (f.maximum network).result = .ok n →
    ∃ r, Replied f.client f.maximumAddress network r ∧ Succeeds r ∧
      ∃ ds, (Text.trim r.body.toList = ds ∨ Text.trim r.body.toList = '+' :: ds) ∧
        Digits.Spells ds n.toNat

/-- What calls come to is told from the final reply alone. -/
theorem told_by_reply (f : HttpFeed) (network : List Http.Outcome) : ToldByReply f network := by
  constructor
  case lookup =>
    intro id r replied
    rw [HttpFeed.item, call_of_replied replied]
    exact tells_ofReply id r
  case unanswered =>
    intro id none
    cases result : (f.item id network).result with
    | error e => exact ⟨e, rfl⟩
    | ok lookup =>
      obtain ⟨r, replied, -⟩ := replied_of_call result
      exact absurd ⟨r, replied⟩ none
  case apart =>
    rintro body item ⟨null, accepted⟩
    exact Item.parse_ne_of_trim null accepted
  case null =>
    intro body g g' hg hg' text
    rw [text]
    exact Text.trim_null hg hg'
  case written =>
    intro body h written fits
    refine ⟨⟨h.id, h.author, h.time, body⟩, ?_, rfl⟩
    rw [Item.parse, Header.read_written written fits]
  case maximum =>
    intro n result
    obtain ⟨r, replied, read⟩ := replied_of_call result
    unfold ofReply at read
    split at read
    case isFalse => cases read
    case isTrue success => exact ⟨r, replied, isSuccess_iff.1 success, readMaximum_eq_ok read⟩

/-- A feed of a machine of the name `h`, below `v0`. -/
def versionFeed : HttpFeed :=
  ⟨.byCharset,
    ⟨"http", some ⟨[], [], some (.domain ['h']), none⟩, .segments [['v', '0'], []], none, none⟩⟩

/-- A payload of the item 7 that is served with a status, the first letter of its author in two
bytes. -/
def servedPayload (status : Http.Status) : List Http.Outcome :=
  [.answer ⟨status, [], "\x7b\"id\":7,\"by\":\"é\"\x7d".toUTF8.toList⟩]

/-- It is an item where the status is one of success, and otherwise an error all the same. -/
theorem told_by_reply_served :
    (versionFeed.item ⟨7⟩ (servedPayload 200)).result =
        .ok (.available ⟨⟨7⟩, some "é", none, "\x7b\"id\":7,\"by\":\"é\"\x7d"⟩) ∧
      (versionFeed.item ⟨7⟩ (servedPayload 404)).result = .error (.status 404) := by
  have replied (status : Http.Status) (last : status = 200 ∨ status = 404) :
      Replied versionFeed.client (versionFeed.itemAddress ⟨7⟩) (servedPayload status)
        ⟨status, "\x7b\"id\":7,\"by\":\"é\"\x7d"⟩ := by
    refine ⟨⟨"http", some ⟨[], [], some (.domain ['h']), none⟩,
      .segments ["v0".toList, "item".toList, "7.json".toList], none, none⟩, _, ?_,
      .here (.inl rfl) ?_, ?_⟩
    · decide +kernel
    · obtain rfl | rfl := last <;> decide +kernel
    · obtain rfl | rfl := last <;> decide +kernel
  constructor
  · refine (((told_by_reply _ _).lookup _ _ (replied 200 (.inl rfl))).available ?_ _).2 ?_
    · exact isSuccess_iff.1 rfl
    · decide +kernel
  · refine ((told_by_reply _ _).lookup _ _ (replied 404 (.inr rfl))).failure ?_
    rw [← isSuccess_iff]
    decide

end HttpFeed
end FeedIngest
