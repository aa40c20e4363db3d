import FeedIngest.Except
import FeedIngest.Proofs.Item.Members
import FeedIngest.Proofs.Json.Parsing

/-! The objects from which a header is read. They are those that carry it, so reading is the
converse of writing. The members are put together from the last one on: a field that is set stays
so, which makes each member fit the header that is read in the end. -/

namespace FeedIngest.Header

open Json

variable {g cs ds rest : List Char} {fields next final : Fields}

/-! ### The values of the fields -/

theorem readColon_eq_ok (h : readColon cs = .ok rest) : ∃ g, Gap g ∧ cs = g ++ ':' :: rest := by
  unfold readColon at h
  split at h
  case h_1 => cases h
  case h_2 c ds skipped =>
    obtain ⟨g, hg, rfl⟩ := exists_of_skipGap skipped
    split at h
    case isTrue colon => cases h; exact ⟨g, hg, by rw [colon]⟩
    case isFalse => cases h

/-- A field that is read has not been seen, and its value stands behind a colon. -/
theorem readOnce_eq_ok {α β : Type} {seen : Option α} {name : String} {f : α × List Char → β}
    {read : List Char → Except Failure (α × List Char)} {b : β}
    (h : (readOnce seen name read cs).map f = .ok b) :
    seen = none ∧ ∃ g ds a rest, Gap g ∧ cs = g ++ ':' :: ds ∧ read ds = .ok (a, rest) ∧
      b = f (a, rest) := by
  obtain ⟨⟨a, rest⟩, once, same⟩ := map_eq_ok h
  unfold readOnce at once
  split at once
  case isTrue => cases once
  case isFalse unseen =>
    split at once
    case h_1 => cases once
    case h_2 ds colon =>
      obtain ⟨g, hg, hc⟩ := readColon_eq_ok colon
      exact ⟨Option.not_isSome_iff_eq_none.1 unseen, g, ds, a, rest, hg, hc, once, same.symm⟩

theorem readId_eq_ok {id : ItemId} (h : readId cs = .ok (id, rest)) :
    ∃ g, Gap g ∧ cs = g ++ ((toString id.toNat).toList ++ rest) := by
  obtain ⟨⟨i, r⟩, value, e⟩ := map_eq_ok h
  cases e
  obtain ⟨g, hg, hc, least, greatest⟩ := IntegerType.read_eq_ok value
  refine ⟨g, hg, ?_⟩
  have nonneg : 0 ≤ i := least
  have small : i.toNat < 18446744073709551616 := by
    simp only [IntegerType.unsigned64] at greatest
    omega
  have same : (⟨UInt64.ofNat i.toNat⟩ : ItemId).toNat = i.toNat :=
    UInt64.toNat_ofNat_of_lt' small
  rw [same, hc, ← Int.toNat_of_nonneg nonneg]
  rfl

/-- What may stand for an author. -/
def AuthorText (author : Option String) (value : List Char) : Prop :=
  (author = none ∧ value = ['n', 'u', 'l', 'l']) ∨
    ∃ s u, author = some s ∧ Spelled s.toList u ∧ value = '"' :: (u ++ ['"'])

theorem readAuthor_eq_ok {author : Option String} (h : readAuthor cs = .ok (author, rest)) :
    ∃ g v, Gap g ∧ AuthorText author v ∧ cs = g ++ (v ++ rest) := by
  rcases readOptional_eq_ok h with ⟨rfl, g, hg, hc⟩ | ⟨s, rfl, value⟩
  · exact ⟨g, _, hg, .inl ⟨rfl, rfl⟩, hc⟩
  · obtain ⟨g, hg, hc⟩ := exists_skipGap cs
    obtain ⟨g', u, hg', spelled, hs⟩ := readString_eq_ok value
    refine ⟨g ++ g', _, hg.append hg', .inr ⟨s, u, rfl, spelled, rfl⟩, ?_⟩
    rw [hc, hs, List.append_assoc]

/-- What may stand for a time. -/
def TimeText (time : Option Int) (value : List Char) : Prop :=
  (time = none ∧ value = ['n', 'u', 'l', 'l']) ∨
    ∃ t, time = some t ∧ value = (toString t).toList

theorem readTime_eq_ok {time : Option Int} (h : readTime cs = .ok (time, rest)) :
    (∃ g v, Gap g ∧ TimeText time v ∧ cs = g ++ (v ++ rest)) ∧
      ∀ t ∈ time, -9223372036854775808 ≤ t ∧ t ≤ 9223372036854775807 := by
  rcases readOptional_eq_ok h with ⟨rfl, g, hg, hc⟩ | ⟨t, rfl, value⟩
  · exact ⟨⟨g, _, hg, .inl ⟨rfl, rfl⟩, hc⟩, by rintro t ⟨⟩⟩
  · obtain ⟨g, hg, hc⟩ := exists_skipGap cs
    obtain ⟨g', hg', ht, range⟩ := IntegerType.read_eq_ok value
    refine ⟨⟨g ++ g', _, hg.append hg', .inr ⟨t, rfl, rfl⟩, ?_⟩, by rintro t ⟨⟩; exact range⟩
    rw [hc, ht, List.append_assoc]

/-! ### Members -/

/-- The fields that have been seen are those of the header. -/
structure Fields.Agree (h : Header) (fields : Fields) : Prop where
  id : ∀ i, fields.id = some i → h.id = i
  author : ∀ a, fields.author = some a → h.author = a
  time : ∀ t, fields.time = some t → h.time = t

/-- Whether a time that has been seen fits 64 bits. -/
def Fields.InRange (fields : Fields) : Prop :=
  ∀ time, fields.time = some time →
    ∀ t ∈ time, -9223372036854775808 ≤ t ∧ t ≤ 9223372036854775807

/-- What the fields are when members of these keys have been read. -/
structure Fields.Grows (fields : Fields) (keys : List String) (final : Fields) : Prop where
  id : fields.id.toList.length + keys.count "id" = final.id.toList.length
  author : fields.author.toList.length + keys.count "by" = final.author.toList.length
  time : fields.time.toList.length + keys.count "time" = final.time.toList.length
  agree : ∀ {h}, Fields.Agree h final → Fields.Agree h fields
  inRange : fields.InRange → final.InRange

theorem Fields.Grows.refl (fields : Fields) : fields.Grows [] fields :=
  ⟨rfl, rfl, rfl, fun h => h, fun h => h⟩

theorem Fields.Grows.cons {key : String} {keys : List String} (first : fields.Grows [key] next)
    (others : next.Grows keys final) : fields.Grows (key :: keys) final := by
  have count (name : String) :
      (key :: keys).count name = [key].count name + keys.count name := by
    rw [← List.singleton_append, List.count_append]
  constructor
  · rw [count, ← others.id, ← first.id, Nat.add_assoc]
  · rw [count, ← others.author, ← first.author, Nat.add_assoc]
  · rw [count, ← others.time, ← first.time, Nat.add_assoc]
  · exact fun h => first.agree (others.agree h)
  · exact fun h => others.inRange (first.inRange h)

/-- A member stands there from behind the opening quote of its key on. -/
structure Fields.Reads (fields : Fields) (cs : List Char) (next : Fields) (key : String)
    (value rest : List Char) : Prop where
  text : ∃ u behind after, Spelled key.toList u ∧ Gap behind ∧ Gap after ∧
    cs = u ++ '"' :: (behind ++ ':' :: (after ++ (value ++ rest)))
  grows : fields.Grows [key] next
  fits : ∀ {h}, Fields.Agree h next → MemberValue h key value

theorem Fields.grows_id (id : ItemId) (author : Option (Option String))
    (time : Option (Option Int)) :
    Fields.Grows ⟨none, author, time⟩ ["id"] ⟨some id, author, time⟩ :=
  ⟨rfl, rfl, rfl, fun h => ⟨fun _ e => (by cases e), h.author, h.time⟩, fun h => h⟩

theorem Fields.grows_author (id : Option ItemId) (author : Option String)
    (time : Option (Option Int)) :
    Fields.Grows ⟨id, none, time⟩ ["by"] ⟨id, some author, time⟩ :=
  ⟨rfl, rfl, rfl, fun h => ⟨h.id, fun _ e => (by cases e), h.time⟩, fun h => h⟩

theorem Fields.grows_time (id : Option ItemId) (author : Option (Option String))
    {time : Option Int} (range : ∀ t ∈ time, -9223372036854775808 ≤ t ∧ t ≤ 9223372036854775807) :
    Fields.Grows ⟨id, author, none⟩ ["time"] ⟨id, author, some time⟩ := by
  refine ⟨rfl, rfl, rfl, fun h => ⟨h.id, h.author, fun _ e => (by cases e)⟩, ?_⟩
  rintro - time ⟨⟩
  exact range

theorem Fields.grows_other {key : String} (id : key ≠ "id") (author : key ≠ "by")
    (time : key ≠ "time") : fields.Grows [key] fields := by
  have none {name : String} (ne : key ≠ name) : [key].count name = 0 :=
    List.count_eq_zero_of_not_mem fun mem => ne (List.mem_singleton.1 mem).symm
  exact ⟨by rw [none id]; rfl, by rw [none author]; rfl, by rw [none time]; rfl, fun h => h,
    fun h => h⟩

section Member
variable {key : String} {u : List Char}

theorem AuthorText.fits {h : Header} {author : Option String} {value : List Char}
    (written : AuthorText author value) (same : h.author = author) : MemberValue h "by" value := by
  rcases written with ⟨rfl, rfl⟩ | ⟨s, u, rfl, spelled, rfl⟩
  · exact .noAuthor same
  · exact .author same spelled

theorem TimeText.fits {h : Header} {time : Option Int} {value : List Char}
    (written : TimeText time value) (same : h.time = time) : MemberValue h "time" value := by
  rcases written with ⟨rfl, rfl⟩ | ⟨t, rfl, rfl⟩
  · exact .noTime same
  · exact .time same

/-- A field stands behind its key, once. -/
theorem Fields.reads_once {α : Type} {seen : Option α} {name : String}
    {read : List Char → Except Failure (α × List Char)} (add : α → Fields)
    (spelled : Spelled name.toList u)
    (h : (readOnce seen name read ds).map (fun (a, r) => (add a, r)) = .ok (next, rest))
    (member : ∀ {cs a r}, seen = none → read cs = .ok (a, r) → fields.Grows [name] (add a) ∧
      ∃ g v, Gap g ∧ cs = g ++ (v ++ r) ∧ ∀ {h}, Fields.Agree h (add a) → MemberValue h name v) :
    ∃ value, fields.Reads (u ++ '"' :: ds) next name value rest := by
  obtain ⟨unseen, behind, ds, a, r, hb, rfl, value, e⟩ := readOnce_eq_ok h
  cases e
  obtain ⟨grows, after, v, ha, rfl, fits⟩ := member unseen value
  exact ⟨v, ⟨u, behind, after, spelled, hb, ha, rfl⟩, grows, fits⟩

theorem Fields.reads_id (spelled : Spelled "id".toList u)
    (h : (readOnce fields.id "id" readId ds).map
      (fun (i, r) => (⟨some i, fields.author, fields.time⟩, r)) = .ok (next, rest)) :
    ∃ value, fields.Reads (u ++ '"' :: ds) next "id" value rest := by
  obtain ⟨id, author, time⟩ := fields
  refine Fields.reads_once (⟨some ·, author, time⟩) spelled h fun {cs i r} unseen value => ?_
  obtain rfl : id = none := unseen
  obtain ⟨g, hg, hc⟩ := readId_eq_ok value
  refine ⟨Fields.grows_id i author time, g, _, hg, hc, fun agree => ?_⟩
  rw [← agree.id i rfl]
  exact .id

theorem Fields.reads_author (spelled : Spelled "by".toList u)
    (h : (readOnce fields.author "by" readAuthor ds).map
      (fun (a, r) => (⟨fields.id, some a, fields.time⟩, r)) = .ok (next, rest)) :
    ∃ value, fields.Reads (u ++ '"' :: ds) next "by" value rest := by
  obtain ⟨id, author, time⟩ := fields
  refine Fields.reads_once (⟨id, some ·, time⟩) spelled h fun {cs a r} unseen value => ?_
  obtain rfl : author = none := unseen
  obtain ⟨g, v, hg, written, hc⟩ := readAuthor_eq_ok value
  exact ⟨Fields.grows_author id a time, g, v, hg, hc, fun agree => written.fits (agree.author a rfl)⟩

theorem Fields.reads_time (spelled : Spelled "time".toList u)
    (h : (readOnce fields.time "time" readTime ds).map
      (fun (t, r) => (⟨fields.id, fields.author, some t⟩, r)) = .ok (next, rest)) :
    ∃ value, fields.Reads (u ++ '"' :: ds) next "time" value rest := by
  obtain ⟨id, author, time⟩ := fields
  refine Fields.reads_once (⟨id, author, some ·⟩) spelled h fun {cs t r} unseen value => ?_
  obtain rfl : time = none := unseen
  obtain ⟨⟨g, v, hg, written, hc⟩, range⟩ := readTime_eq_ok value
  exact ⟨Fields.grows_time id author range, g, v, hg, hc,
    fun agree => written.fits (agree.time t rfl)⟩

/-- A member that is no field is skipped. -/
theorem Fields.reads_other (id : key ≠ "id") (author : key ≠ "by") (time : key ≠ "time")
    (spelled : Spelled key.toList u) (colon : readColon ds = .ok cs)
    (h : (skipValue [] cs).map (fields, ·) = .ok (next, rest)) :
    ∃ value, fields.Reads (u ++ '"' :: ds) next key value rest := by
  obtain ⟨behind, hb, rfl⟩ := readColon_eq_ok colon
  obtain ⟨r, skipped, e⟩ := map_eq_ok h
  cases e
  obtain ⟨after, v, ha, value, rfl⟩ := value_of_skipValue skipped
  exact ⟨v, ⟨u, behind, after, spelled, hb, ha, rfl⟩, Fields.grows_other id author time,
    fun _ => .other id author time value⟩

/-- A member that has been read stands there, with a value that fits what is read in the end. -/
theorem readMember_eq_ok (h : fields.readMember cs = .ok (next, rest)) :
    ∃ key value, fields.Reads cs next key value rest := by
  unfold Fields.readMember at h
  split at h
  case h_1 => cases h
  case h_2 key ds text =>
    obtain ⟨u, spelled, rfl⟩ := spelled_of_readText text
    split at h
    case isTrue name => subst name; exact ⟨"id", Fields.reads_id spelled h⟩
    split at h
    case isTrue name => subst name; exact ⟨"by", Fields.reads_author spelled h⟩
    split at h
    case isTrue name => subst name; exact ⟨"time", Fields.reads_time spelled h⟩
    case isFalse notId notAuthor notTime =>
      split at h
      case h_1 => cases h
      case h_2 colon => exact ⟨key, Fields.reads_other notId notAuthor notTime spelled colon h⟩

end Member

/-! ### Objects -/

theorem nextKey_eq_none {first : Bool} (h : nextKey first cs = .ok none) :
    ∃ ds, skipGap cs = '\x7d' :: ds := by
  unfold nextKey at h
  split at h
  case h_1 => cases h
  case h_2 c ds skipped =>
    split at h
    case isTrue closing => exact ⟨ds, by rw [skipped, closing]⟩
    case isFalse =>
      split at h
      · split at h <;> cases h
      · split at h
        · split at h
          · cases h
          · split at h
            · cases h
            · split at h <;> cases h
        · cases h

theorem nextKey_true_eq_some {key : List Char} (h : nextKey true cs = .ok (some key)) :
    ∃ g, Gap g ∧ cs = g ++ '"' :: key := by
  unfold nextKey at h
  split at h
  case h_1 => cases h
  case h_2 c ds skipped =>
    obtain ⟨g, hg, hc⟩ := exists_of_skipGap skipped
    split at h
    case isTrue => cases h
    case isFalse =>
      rw [if_pos rfl] at h
      split at h
      case isTrue quote => cases h; exact ⟨g, hg, by rw [hc, quote]⟩
      case isFalse => cases h

theorem nextKey_false_eq_some {key : List Char} (h : nextKey false cs = .ok (some key)) :
    ∃ g before, Gap g ∧ Gap before ∧ cs = g ++ ',' :: (before ++ '"' :: key) := by
  unfold nextKey at h
  split at h
  case h_1 => cases h
  case h_2 c ds skipped =>
    obtain ⟨g, hg, hc⟩ := exists_of_skipGap skipped
    split at h
    case isTrue => cases h
    case isFalse =>
      rw [if_neg Bool.false_ne_true] at h
      split at h
      case isFalse => cases h
      case isTrue comma =>
        split at h
        case h_1 => cases h
        case h_2 d es skipped =>
          obtain ⟨before, hb, rfl⟩ := exists_of_skipGap skipped
          split at h
          case isTrue quote => cases h; exact ⟨g, before, hg, hb, by rw [hc, comma, quote]⟩
          case isFalse => split at h <;> cases h

/-- Members that have been read one after the other. -/
structure Fields.Collects (fields : Fields) (members : List Member) (final : Fields) : Prop where
  grows : fields.Grows (members.map Member.key) final
  fits : ∀ {h}, Fields.Agree h final → ∀ m ∈ members, m.Fits h

/-- A member that has been read and those behind it. -/
theorem Fields.Reads.cons {key : String} {before value : List Char} {members : List Member}
    (first : fields.Reads cs next key value (g ++ Frame.object.behind (entries members) rest))
    (hb : Gap before) (hg : Gap g) (others : next.Collects members final) :
    ∃ m, before ++ '"' :: cs = joined (entries (m :: members)) ++ '\x7d' :: rest ∧
      fields.Collects (m :: members) final := by
  obtain ⟨u, behind, after, spelled, hk, ha, rfl⟩ := first.text
  refine ⟨⟨⟨before ++ '"' :: (u ++ '"' :: (behind ++ ':' :: after)), value, g⟩, key⟩, ?_, ?_, ?_⟩
  · refine Eq.trans ?_ (joined_cons_append .object _ (entries members) rest).symm
    simp only [List.append_assoc, List.cons_append]
  · exact first.grows.cons others.grows
  · intro h agree
    refine List.forall_mem_cons.2 ⟨⟨?_, first.fits (others.grows.agree agree), hg⟩, others.fits agree⟩
    exact .mk before u behind after hb spelled hk ha

theorem readAll_eq_ok {first : Bool} (h : fields.readAll first cs = .ok (final, rest)) :
    (nextKey first cs = .ok none ∧ final = fields ∧ rest = skipGap cs) ∨
      ∃ key next behind, nextKey first cs = .ok (some key) ∧
        fields.readMember key = .ok (next, behind) ∧ next.readAll false behind = .ok (final, rest) := by
  rw [Fields.readAll] at h
  split at h
  · cases h
  case h_2 last => cases h; exact .inl ⟨last, rfl, rfl⟩
  case h_3 key some =>
    split at h
    · cases h
    case h_2 next behind read => exact .inr ⟨key, next, behind, some, read, h⟩

/-- By induction on the length of the text, as each member takes some of it. -/
theorem readAll_false_eq_ok {fields : Fields} {cs : List Char}
    (h : fields.readAll false cs = .ok (final, rest)) :
    ∃ g members behind, Gap g ∧ cs = g ++ Frame.object.behind (entries members) behind ∧
      rest = '\x7d' :: behind ∧ fields.Collects members final := by
  induction cs using (measure List.length).wf.induction generalizing fields with
  | _ cs shorter =>
    rcases readAll_eq_ok h with ⟨last, rfl, rfl⟩ | ⟨key, next, after, some, read, others⟩
    · obtain ⟨ds, skipped⟩ := nextKey_eq_none last
      obtain ⟨g, hg, hc⟩ := exists_of_skipGap skipped
      exact ⟨g, [], ds, hg, hc, skipped, Fields.Grows.refl _, by simp⟩
    · have less : after.length < cs.length :=
        Nat.lt_of_le_of_lt (length_of_readMember read) (length_of_nextKey some)
      obtain ⟨name, value, reads⟩ := readMember_eq_ok read
      obtain ⟨g', members, behind, hg', rfl, rfl, collects⟩ := shorter after less others
      obtain ⟨g, before, hg, hb, rfl⟩ := nextKey_false_eq_some some
      obtain ⟨m, text, all⟩ := reads.cons hb hg' collects
      exact ⟨g, m :: members, behind, hg, by rw [text]; rfl, rfl, all⟩

/-- The members of an object that has one at least are all there, up to the closing brace. -/
theorem readAll_true_eq_ok (h : fields.readAll true cs = .ok (final, rest)) :
    final = fields ∨ ∃ members behind, cs = joined (entries members) ++ '\x7d' :: behind ∧
      rest = '\x7d' :: behind ∧ fields.Collects members final := by
  rcases readAll_eq_ok h with ⟨-, rfl, -⟩ | ⟨key, next, after, some, read, others⟩
  · exact .inl rfl
  · obtain ⟨name, value, reads⟩ := readMember_eq_ok read
    obtain ⟨g', members, behind, hg', rfl, rfl, collects⟩ := readAll_false_eq_ok others
    obtain ⟨g, hg, rfl⟩ := nextKey_true_eq_some some
    obtain ⟨m, text, all⟩ := reads.cons hg hg' collects
    exact .inr ⟨m :: members, behind, text, rfl, all⟩

/-! ### Headers -/

theorem length_toList_le {α : Type} (o : Option α) : o.toList.length ≤ 1 := by
  cases o <;> simp

theorem ne_none_of_getD {α : Type} {o : Option (Option α)} (h : o.getD none ≠ none) :
    o ≠ none := by
  rintro rfl
  exact h rfl

theorem mem_of_count {α : Type} {keys : List String} {name : String} {o : Option α}
    (count : keys.count name = o.toList.length) (there : o ≠ none) : name ∈ keys := by
  obtain ⟨a, rfl⟩ := Option.ne_none_iff_exists'.1 there
  exact List.count_pos_iff.1 (count ▸ Nat.zero_lt_one)

theorem written_of_readObject {h : Header} (hg : Gap g) (object : readObject cs = .ok (h, rest))
    (ends : Gap rest) : h.Written (g ++ '\x7b' :: cs) ∧ h.TimeFits := by
  unfold readObject at object
  split at object
  case h_1 => cases object
  case h_2 final after all =>
    split at object
    case h_1 => cases object
    case h_2 id there =>
      cases object
      rcases readAll_true_eq_ok all with rfl | ⟨members, behind, rfl, rfl, grows, fits⟩
      · cases there
      rw [behindClosing, skipGap_cons (c := '\x7d') rfl] at ends
      have agree : Fields.Agree ⟨id, final.author.getD none, final.time.getD none⟩ final := by
        constructor
        · intro i e
          rw [there] at e
          exact Option.some.inj e
        · intro a e
          rw [e]
          rfl
        · intro t e
          rw [e]
          rfl
      have once : (members.map Member.key).count "id" = 1 := by
        have := grows.id
        rw [there] at this
        simpa using this
      have author : (members.map Member.key).count "by" = final.author.toList.length := by
        simpa using grows.author
      have time : (members.map Member.key).count "time" = final.time.toList.length := by
        simpa using grows.time
      refine ⟨.object hg ends (fits agree) once (author ▸ length_toList_le final.author)
        (time ▸ length_toList_le final.time) ?_ ?_, ?_⟩
      · exact fun some => mem_of_count author (ne_none_of_getD some)
      · exact fun some => mem_of_count time (ne_none_of_getD some)
      · intro t ht
        cases seen : final.time with
        | none => rw [seen] at ht; cases ht
        | some time =>
          rw [seen] at ht
          exact grows.inRange (by rintro time ⟨⟩) time seen t ht

end FeedIngest.Header
