import FeedIngest.Http.Charset
import FeedIngest.Proofs.Feed.Http
import FeedIngest.Proofs.Outcomes
import FeedIngest.Proofs.Units

/-! Where stored items come from, if the feed is read over HTTP. Whatever the server answers, and
in whatever order tasks take their steps, an item is stored only in the step of a unit of work
that has the final reply to its own last lookup, and it is what that reply carries. -/

namespace FeedIngest

namespace Event

/-- Whether it belongs to a lookup. -/
def looksUp : Event → Bool
  | lookupCalled _ | lookupAnswered _ _ => true
  | _ => false

end Event

theorem UnitOfWork.over_of_move {loops : Loops} {now : Nat} {cancelled : Bool}
    {reply : Option Reply} {id : ItemId} {before after : Phase} {events : List Event}
    (m : Move loops now cancelled reply id before after events)
    (passed : ∀ f, before ≠ .fetching f) :
    (∀ e ∈ events, e.looksUp = false) ∧ ∀ f, after ≠ .fetching f := by
  cases m with
  | fetch | find | giveUp | fetchCrashes => exact absurd rfl (passed _)
  | await | store | refuse | storeCrashes | rest => simp [Event.looksUp]

namespace Pipeline

variable {loops : Loops} {p : Pipeline} {inputs : List Input} {k : Nat} {u : UnitOfWork}

/-- Whether it answers a lookup. -/
def Input.answersLookup : Input → Bool
  | unit _ (some (.lookup (.ok _))) => true
  | _ => false

/-- A unit of work whose fetch is over looks nothing up any more. -/
theorem over_run (loops : Loops) (there : p.dispatch.units[k]? = some u)
    (passed : ∀ f, u.phase ≠ .fetching f) (inputs : List Input) :
    ∀ e ∈ p.doneBy loops (Input.isUnit k) inputs, e.looksUp = false := by
  induction inputs generalizing p u with
  | nil => exact List.forall_mem_nil _
  | cons i inputs ih =>
    rw [doneBy]
    rcases unit_step loops i there with ⟨-, hq, he⟩ | ⟨reply, -, hq, he⟩
    · rw [he]
      exact ih hq passed
    · obtain ⟨silent, still⟩ := UnitOfWork.over_of_move u.poll_move passed
      rw [he, List.forall_mem_append]
      exact ⟨silent, ih hq still⟩

end Pipeline

namespace HttpFeed

/-- What happens in a pipeline that reads its feed over HTTP: a lookup of a unit of work is
answered from what the network does, or anything but that. -/
inductive Act
  | reply (k : Nat) (network : List Http.Outcome)
  | other (i : Pipeline.Input) (apart : i.answersLookup = false)

/-- The input of an act. The reply goes to the unit whose lookup it answers. -/
def Act.input (f : HttpFeed) (p : Pipeline) : Act → Pipeline.Input
  | reply k network => .unit k (p.dispatch.units[k]?.map fun u =>
      .lookup (.ok (f.item u.id network).result))
  | other i _ => i

/-- The inputs of acts, one after the other. -/
def inputs (loops : Loops) (f : HttpFeed) (p : Pipeline) : List Act → List Pipeline.Input
  | [] => []
  | a :: acts => a.input f p :: inputs loops f (p.step loops (a.input f p)).1 acts

/-- The pipeline after acts in any order. -/
def after (loops : Loops) (f : HttpFeed) (p : Pipeline) (acts : List Act) : Pipeline :=
  (p.run loops (f.inputs loops p acts)).pipeline

/-- What an act does after others. -/
def doneAt (loops : Loops) (f : HttpFeed) (p : Pipeline) (earlier : List Act) (a : Act) :
    List Event :=
  ((f.after loops p earlier).step loops (a.input f (f.after loops p earlier))).2

/-- What a unit of work does in acts after others. -/
def doneLater (loops : Loops) (f : HttpFeed) (p : Pipeline) (k : Nat) (earlier later : List Act) :
    List Event :=
  (f.after loops p earlier).doneBy loops (Pipeline.Input.isUnit k)
    (f.inputs loops (f.after loops p earlier) later)

/-- An item that is stored in the step of an act after others, and where it comes from. -/
structure Origin (loops : Loops) (f : HttpFeed) (p : Pipeline) (earlier : List Act) (k : Nat)
    (network : List Http.Outcome) (later : List Act) (id : ItemId) (item : Item) : Prop where
  /-- It is stored by a unit of work of its own identifier. -/
  unit : ∃ u, (f.after loops p earlier).dispatch.units[k]? = some u ∧ u.id = id
  /-- The lookup is answered with it in the same step. -/
  answered : f.doneAt loops p earlier (.reply k network) =
    [.lookupAnswered id (.ok (.available item)), .executeCalled id loops.statement item]
  /-- It is what the final reply to the lookup carries. -/
  carried : ∃ address a, f.itemAddress id = .ok address ∧
    Http.Final Http.maxRedirects address network a ∧ Carries f.client id a item
  /-- That lookup is the last of the unit. -/
  last : ∀ e ∈ f.doneLater loops p k (earlier ++ [.reply k network]) later, e.looksUp = false

/-- What an answer must not be for an item to be stored: an error, `null`, no payload, or one
that has another identifier. -/
def Unfit (client : Http.Client) (id : ItemId) (a : Http.Answer) : Prop :=
  (a.status < 200 ∨ 300 ≤ a.status) ∨
  Text.trim (client.decode a).toList = "null".toList ∨
  ∀ item, Item.parse (client.decode a) = .ok item → item.id ≠ id

/-- How the items that are stored are those that were served, in the run of some acts. -/
structure Faithful (loops : Loops) (f : HttpFeed) (p : Pipeline) (acts : List Act) : Prop where
  origin : ∀ earlier a later, acts = earlier ++ a :: later → ∀ id statement item,
    .executeCalled id statement item ∈ f.doneAt loops p earlier a →
    ∃ k network, a = .reply k network ∧ Origin loops f p earlier k network later id item
  /-- A lookup without a final reply, or with one that is unfit, has nothing stored. -/
  refused : ∀ earlier k network later u, acts = earlier ++ .reply k network :: later →
    (f.after loops p earlier).dispatch.units[k]? = some u →
    (∀ address a, f.itemAddress u.id = .ok address →
      Http.Final Http.maxRedirects address network a → Unfit f.client u.id a) →
    ∀ id statement item,
      .executeCalled id statement item ∉ f.doneAt loops p earlier (.reply k network)

variable {loops : Loops} {f : HttpFeed} {p : Pipeline} {id : ItemId} {a : Http.Answer} {item : Item}

theorem not_carries_of_unfit (h : Unfit f.client id a) : ¬ Carries f.client id a item := by
  intro carries
  rcases h with h | h | h
  · obtain ⟨least, greatest⟩ := carries.success
    exact h.elim (Nat.not_lt.2 least) (Nat.not_le.2 greatest)
  · rw [← carries.raw] at h
    exact carries.notNull h
  · refine h item (parse_eq_ok.2 ⟨carries.raw, ?_⟩) carries.same
    rw [← carries.raw, carries.same]
    exact carries.header

theorem inputs_concat (loops : Loops) (f : HttpFeed) (p : Pipeline) (acts : List Act) (a : Act) :
    f.inputs loops p (acts ++ [a]) =
      f.inputs loops p acts ++ [a.input f (f.after loops p acts)] := by
  induction acts generalizing p with
  | nil => rfl
  | cons b acts ih =>
    rw [List.cons_append, inputs, inputs, ih, List.cons_append, after, after, inputs,
      Pipeline.run_cons]

theorem after_concat (loops : Loops) (f : HttpFeed) (p : Pipeline) (acts : List Act) (a : Act) :
    f.after loops p (acts ++ [a]) =
      ((f.after loops p acts).step loops (a.input f (f.after loops p acts))).1 := by
  rw [after, inputs_concat, Pipeline.run_concat]
  rfl

/-- An act in whose step an item is stored is the reply to a lookup. -/
theorem origin_of_executes (h : p.dispatch.units = []) {earlier : List Act} {a : Act}
    {statement : String} (he : .executeCalled id statement item ∈ f.doneAt loops p earlier a)
    (later : List Act) :
    ∃ k network, a = .reply k network ∧ Origin loops f p earlier k network later id item := by
  have m : Pipeline.Move loops (f.after loops p earlier)
      (a.input f (f.after loops p earlier)) _ _ := Pipeline.step_move _ _
  have proper := Pipeline.proper_run loops h (f.inputs loops p earlier)
  rcases m.units_cases with ⟨-, -, -, other⟩ | ⟨k, reply, u, v, hi, there, same, task, hq⟩
  · -- Only units of work have items stored.
    rcases other with actor | none
    · have of := m.isOf _ he
      cases hk : (a.input f (f.after loops p earlier)).actor <;> rw [hk] at of actor
      · cases of
      · cases of
      · exact absurd rfl actor
      · cases of
    · rw [doneAt, none] at he
      cases he
  · obtain none | ⟨found, -, rfl, hv, events⟩ :=
      task.executes_cases (proper u (List.mem_of_getElem? there))
    · exact absurd (List.flatMap_eq_nil_iff.1 none _ he) (List.cons_ne_nil _ _)
    have done : f.doneAt loops p earlier a = _ := events
    obtain ⟨rfl, rfl⟩ : id = u.id ∧ item = found := by
      rw [done] at he
      simp only [List.mem_cons, List.not_mem_nil, or_false, reduceCtorEq, false_or,
        Event.executeCalled.injEq] at he
      exact ⟨he.1, he.2.2⟩
    cases a with
    | other i apart =>
      obtain rfl : i = _ := hi
      cases apart
    | reply j network =>
      obtain ⟨rfl, answer⟩ := Pipeline.Input.unit.inj hi
      rw [there, Option.map_some] at answer
      have available : (f.item u.id network).result = .ok (.available item) :=
        Except.ok.inj (UnitOfWork.Reply.lookup.inj (Option.some.inj answer))
      refine ⟨j, network, rfl, ⟨u, there, rfl⟩, done, result_item_eq_available.1 available, ?_⟩
      apply Pipeline.over_run loops (u := v)
      · rw [after_concat, hq, List.getElem?_set_self (List.getElem?_eq_some_iff.1 there).1]
      · rw [hv]
        rintro f ⟨⟩

/-- Whatever the server answers and however the tasks interleave, what is stored is what was
served for it. -/
theorem stores_what_was_served (h : p.dispatch.units = []) (acts : List Act) :
    Faithful loops f p acts := by
  constructor
  case origin =>
    intro earlier a later _ id statement item he
    exact origin_of_executes h he later
  case refused =>
    intro earlier k network later u _ there unfit id statement item he
    obtain ⟨j, network', same, origin⟩ := origin_of_executes h he later
    obtain ⟨rfl, rfl⟩ := Act.reply.inj same
    obtain ⟨v, hv, rfl⟩ := origin.unit
    obtain rfl := Option.some.inj (there.symm.trans hv)
    obtain ⟨address, a, known, final, carries⟩ := origin.carried
    exact not_carries_of_unfit (unfit address a known final) carries

def sampleFeed : HttpFeed :=
  ⟨.byCharset,
    ⟨"http", some ⟨[], [], some (.domain ['h']), none⟩, .segments [['v', '0'], []], none, none⟩⟩

def sampleBody : String := " \x7b\"time\":5,\"by\":\"é\",\"id\":7\x7d\n"

/-- The item 7 is served with a status of failure, as `null`, and then behind a redirect. -/
def sampleActs : List Act :=
  [.other (.send ⟨7⟩) rfl, .other .dispatch rfl, .other .dispatch rfl, .other .dispatch rfl,
    .other (.unit 0 none) rfl, .reply 0 [.answer ⟨503, [], sampleBody.toUTF8.toList⟩],
    .other (.advance 1000) rfl, .other (.unit 0 none) rfl, .other (.unit 0 none) rfl,
    .reply 0 [.answer ⟨200, [], " null".toUTF8.toList⟩],
    .other (.advance 1000) rfl, .other (.unit 0 none) rfl, .other (.unit 0 none) rfl,
    .reply 0 [.answer ⟨302, [("Location", "/new")], []⟩,
      .answer ⟨200, [], sampleBody.toUTF8.toList⟩]]

theorem stores_what_was_served_redirected :
    (Pipeline.dispatchOnly 1 1).dispatch.units = [] ∧
      Faithful .sample sampleFeed (.dispatchOnly 1 1) sampleActs ∧
      ((Pipeline.dispatchOnly 1 1).run .sample
          (sampleFeed.inputs .sample (.dispatchOnly 1 1) sampleActs)).collect Event.calls =
        [(⟨7⟩, ⟨⟨7⟩, some "é", some 5, sampleBody⟩)] :=
  ⟨rfl, stores_what_was_served rfl sampleActs, by decide +kernel⟩

end HttpFeed
end FeedIngest
