import FeedIngest.Feed.Http
import FeedIngest.Http.Charset
import FeedIngest.Proofs.Digits
import FeedIngest.Proofs.Url.Joining

/-! Where the resources of a feed lie. The slash is put behind the text of the base, and the
resources are found from the address of that text. So they lie below all segments of the base only
if its text ends with its path: behind a query or a fragment the slash closes no path, and then the
last segment gives way. A base with a path of its own is accepted too, though nothing can be found
from it. -/

namespace FeedIngest.HttpFeed

open Url

variable {client : Http.Client} {base : String} {f : HttpFeed}

/-- What can be asked of a feed. -/
inductive Resource
  | maximum
  | item (id : ItemId)

namespace Resource

/-- The names that lead to it. -/
def names : Resource → List (List Char)
  | maximum => ["maxitem.json".toList]
  | item id => ["item".toList, (id.text ++ ".json").toList]

theorem names_ne_nil (r : Resource) : r.names ≠ [] := by
  cases r <;> exact List.cons_ne_nil _ _

theorem isName (r : Resource) : ∀ s ∈ r.names, IsName s := by
  have digit {c : Char} (h : Digits.isDigit c = true) : isPlain c = true := by
    obtain ⟨low, high⟩ := Digits.isDigit_iff.1 h
    have : c.isDigit = true := Bool.and_eq_true_iff.2 ⟨decide_eq_true low, decide_eq_true high⟩
    simp [isPlain, Char.isAlphanum, this]
  cases r with
  | maximum =>
    rw [names, List.forall_mem_singleton]
    exact ⟨List.all_eq_true.1 (by decide), by decide⟩
  | item id =>
    rw [names, List.forall_mem_cons, List.forall_mem_singleton]
    have digits : ∀ c ∈ id.text.toList, isPlain c = true := by
      intro c hc
      rw [ItemId.text, String.toList_ofList] at hc
      exact digit (Digits.isDigit_of_mem_write hc)
    refine ⟨⟨List.all_eq_true.1 (by decide), by decide⟩, ?_, ?_⟩
    · rw [String.toList_append, List.forall_mem_append]
      exact ⟨digits, List.all_eq_true.1 (by decide)⟩
    · rw [String.toList_append, List.length_append]
      exact Nat.lt_of_lt_of_le (by decide) (Nat.le_add_left _ _)

/-- The reference to it. -/
def reference : Resource → String
  | maximum => "maxitem.json"
  | item id => "item/" ++ id.text ++ ".json"

theorem refers (r : Resource) : Refers r.names r.reference.toList := by
  have spelled : r.reference.toList = ['/'].intercalate r.names := by
    cases r with
    | maximum => rfl
    | item id =>
      rw [names, reference, List.intercalate_cons_cons, List.intercalate_singleton]
      simp [String.toList_append]
  rw [spelled]
  exact refers_intercalate r.names_ne_nil r.isName

end Resource

/-- Where a resource is. -/
def address (f : HttpFeed) : Resource → Except FeedError Url
  | .maximum => f.maximumAddress
  | .item id => f.itemAddress id

theorem address_eq (f : HttpFeed) (r : Resource) :
    f.address r = (f.base.join r.reference).mapError .url := by
  cases r <;> rfl

theorem address_segments {path : List (List Char)} (segments : f.base.path = .segments path)
    (r : Resource) : f.address r = .ok (f.base.below path r.names) := by
  rw [address_eq, r.refers.join segments]
  rfl

theorem address_own {own : List Char} (path : f.base.path = .own own) (r : Resource) :
    f.address r = .error (.url .relativeToOpaqueBase) := by
  rw [address_eq, r.refers.join_own path]
  rfl

/-- How the resources of a feed lie to the address that was meant as its base. -/
structure LiesBelow (b : Url) (f : HttpFeed) : Prop where
  scheme : f.base.scheme = b.scheme
  authority : f.base.authority = b.authority
  /-- All segments of the path are kept, and there is a slash between it and the names. -/
  kept : b.query = none → b.fragment = none → (∀ own, b.path = .own own → own = []) →
    ∀ r, ∃ u, f.address r = .ok u ∧ u.scheme = b.scheme ∧ u.authority = b.authority ∧
      u.target = slashed b.path.text ++ ['/'].intercalate r.names
  /-- Behind a query or a fragment the names take the place of the last segment. -/
  lost : b.query ≠ none ∨ b.fragment ≠ none → ∀ path, b.path = .segments path →
    ∀ r, f.address r = .ok (b.below path r.names)
  /-- Below a path of its own there is nothing. -/
  nowhere : ∀ own, b.path = .own own → own ≠ [] ∨ b.query ≠ none ∨ b.fragment ≠ none →
    ∀ r, f.address r = .error (.url .relativeToOpaqueBase)

/-- What becomes of a base. -/
structure Places (base : String) (f : HttpFeed) : Prop where
  /-- A slash at its end makes no difference. -/
  again : base.endsWith "/" = false → create f.client (base ++ "/") = .ok f
  /-- The resources can be found unless the path is one of the scheme's own. -/
  found : ∀ path, f.base.path = .segments path → ∀ r, f.address r = .ok (f.base.below path r.names)
  unfound : ∀ own, f.base.path = .own own → ∀ r,
    f.address r = .error (.url .relativeToOpaqueBase)
  /-- A text that does not end in a control, a blank or a backslash is an address itself. -/
  below : (∀ c ∈ base.toList.getLast?, 0x20 < c.toNat ∧ c ≠ '\\') →
    ∃ b, Url.parse base = .ok b ∧ LiesBelow b f

theorem endsWith_slash_iff : base.endsWith "/" = true ↔ ['/'] <:+ base.toList := by
  have := @String.Slice.endsWith_string_iff "/" base.toSlice
  rwa [String.copy_toSlice] at this

theorem create_eq_ok (accepted : create client base = .ok f) :
    f.client = client ∧ Url.parse (closed base) = .ok f.base := by
  unfold create at accepted
  split at accepted
  · next parsed =>
    cases accepted
    exact ⟨rfl, parsed⟩
  · cases accepted

theorem exists_append_of_endsWith (slash : base.endsWith "/" = true) :
    ∃ text, base = text ++ "/" := by
  obtain ⟨front, whole⟩ := endsWith_slash_iff.1 slash
  refine ⟨String.ofList front, String.toList_injective ?_⟩
  rw [String.toList_append, String.toList_ofList]
  exact whole.symm

/-- A slash that is put at the end is as good as one that stands there. -/
theorem closed_append (without : base.endsWith "/" = false) :
    closed (base ++ "/") = closed base := by
  have slash : (base ++ "/").endsWith "/" = true :=
    endsWith_slash_iff.2 ⟨base.toList, by rw [String.toList_append]; rfl⟩
  rw [closed, if_pos slash, closed, if_neg (by simp [without])]

/-- The request path below a path that ends with a slash. -/
theorem target_below {path : List (List Char)} (b : Url) (settles : settled b.kind path = path)
    (last : path = [] ∨ path.getLast? = some []) (r : Resource) : (b.below path r.names).target =
      (Path.segments path).closed.text ++ ['/'].intercalate r.names := by
  obtain ⟨s, ss, names⟩ := List.exists_cons_of_ne_nil r.names_ne_nil
  have name : s ≠ [] := by
    rintro rfl
    exact absurd (r.isName [] (names ▸ List.mem_cons_self)).long (by decide)
  have stays : settled b.kind (parent b.kind path ++ r.names) = parent b.kind path ++ r.names :=
    names ▸ settled_parent_append settles last name
  have text :
      (b.below path r.names).target = (Path.segments (parent b.kind path ++ r.names)).text :=
    (List.append_nil _).trans (congrArg (fun path => (Path.segments path).text) stays)
  rw [text, text_parent_append last r.names_ne_nil]

/-- A base that ends with a slash. -/
theorem liesBelow_self (parsed : Url.parse base = .ok f.base) (slash : base.endsWith "/" = true) :
    LiesBelow f.base f where
  scheme := rfl
  authority := rfl
  kept query fragment owns r := by
    obtain ⟨text, rfl⟩ := exists_append_of_endsWith slash
    obtain ⟨notOwn, closes⟩ := parse_of_slash parsed query fragment
    cases path : f.base.path with
    | own own => exact absurd (owns own path ▸ path) notOwn
    | segments parts =>
      refine ⟨_, address_segments path r, rfl, rfl, ?_⟩
      rw [target_below _ (settled_of_parse parsed path) (closes parts path),
        text_closed (slash_not_mem_parse parsed path)]
  lost _ _ path := address_segments path
  nowhere _ path _ := address_own path

/-- A base behind whose text a slash is put. -/
theorem liesBelow_closed {b : Url} {text : String} (parsed : Url.parse base = .ok b)
    (behind : Url.parse text = .ok f.base) (same : f.base = b.closed) : LiesBelow b f where
  scheme := by rw [same, closed_scheme]
  authority := by rw [same, closed_authority]
  kept query fragment owns r := by
    have closes : f.base.path = b.path.closed := by rw [same, closed_of_none query fragment]
    -- The path of the base becomes one that ends with a slash, and keeps its text otherwise.
    obtain ⟨parts, path, last, text⟩ : ∃ parts, f.base.path = .segments parts ∧
        parts.getLast? = some [] ∧ (Path.segments parts).text = slashed b.path.text := by
      rw [closes]
      cases path : b.path with
      | own own =>
        obtain rfl := owns own path
        exact ⟨[[]], rfl, rfl, rfl⟩
      | segments parts =>
        obtain ⟨ss, closed, last⟩ := exists_closed parts
        rw [← text_closed (slash_not_mem_parse parsed path), closed]
        exact ⟨ss, rfl, last, rfl⟩
    refine ⟨_, address_segments path r, ?_, ?_, ?_⟩
    · rw [below, same, closed_scheme]
    · rw [below, same, closed_authority]
    · rw [target_below _ (settled_of_parse behind path) (.inr last), closed_of_getLast? last, text]
  lost more path segments r := by
    have keeps : f.base.path = .segments path := by rw [same, closed_path more, segments]
    rw [address_segments keeps]
    simp [below, kind, same]
  nowhere own path more r := by
    by_cases further : b.query ≠ none ∨ b.fragment ≠ none
    · exact address_own (by rw [same, closed_path further, path]) r
    · obtain ⟨query, fragment⟩ := not_or.1 further
      have some : own ≠ [] := more.resolve_right further
      obtain ⟨c, own, rfl⟩ := List.exists_cons_of_ne_nil some
      have keeps : f.base.path = .own (c :: own ++ ['/']) := by
        rw [same, closed_of_none (not_not.1 query) (not_not.1 fragment), path]
        rfl
      exact address_own keeps r

/-- Where the resources of a feed lie, whatever its base is. -/
theorem places_of_create (accepted : create client base = .ok f) : Places base f := by
  obtain ⟨sameClient, parsed⟩ := create_eq_ok accepted
  constructor
  case again =>
    intro without
    rw [sameClient, create, closed_append without]
    exact accepted
  case found => exact fun path segments r => address_segments segments r
  case unfound => exact fun own path r => address_own path r
  case below =>
    intro visible
    cases slash : base.endsWith "/" with
    | true =>
      rw [closed, if_pos slash] at parsed
      exact ⟨f.base, parsed, liesBelow_self parsed slash⟩
    | false =>
      rw [closed, if_neg (by simp [slash])] at parsed
      have plain : EndsOpen base.toList := by
        intro c hc
        refine ⟨?_, (visible c hc).2⟩
        rintro rfl
        obtain ⟨front, whole⟩ := List.getLast?_eq_some_iff.1 hc
        have := endsWith_slash_iff.2 ⟨front, whole.symm⟩
        rw [slash] at this
        cases this
      obtain ⟨b, meant, same⟩ := parse_slash (fun c hc => (visible c hc).1) plain parsed
      exact ⟨b, meant, liesBelow_closed meant parsed same⟩

/-- A base without a slash at its end. -/
theorem places_of_create_version : ∃ f, create .byCharset "http://[::1]:8080/v0" = .ok f ∧
    Places "http://[::1]:8080/v0" f ∧
    (f.address (.item ⟨7⟩)).toOption.map Url.target = some "/v0/item/7.json".toList := by
  have target : ((create .byCharset "http://[::1]:8080/v0").toOption.bind fun f =>
      (f.address (.item ⟨7⟩)).toOption.map Url.target) = some "/v0/item/7.json".toList := by
    decide +kernel
  obtain ⟨f, accepted, target⟩ := Option.bind_eq_some_iff.1 target
  have accepted := eq_ok_of_toOption accepted
  exact ⟨f, accepted, places_of_create accepted, target⟩

/-- Behind a query the slash closes no path, and nothing can be found from an address of mail. -/
theorem loses_segment_behind_query :
    ((create .byCharset "http://[::1]:8080/v0?auth=x").toOption.bind fun f =>
      (f.address .maximum).toOption.map Url.target) = some "/maxitem.json".toList ∧
    ((create .byCharset "mailto:x").toOption.map fun f => (f.address .maximum).toOption.isSome) =
      some false := by
  decide +kernel

end FeedIngest.HttpFeed
