import FeedIngest.Proofs.Item.Writing
import FeedIngest.Proofs.Json.Scanning

/-! Objects by their members: the keys as they are meant, and the texts of the values. A text is
that of an object in one way only, since reading a key and skipping a value come to the same end
however the text has been taken apart. An object with a header has its fields as members. -/

namespace FeedIngest.Header

open Json

structure Member.Stands (m : Member) : Prop where
  lead : Keyed (Spelled m.key.toList) m.lead
  value : Value m.value
  gap : Gap m.gap

/-- The keys of members, and the texts of their values. -/
def pairs (members : List Member) : List (String × List Char) :=
  members.map fun m => (m.key, m.value)

/-- The texts of objects with such members. -/
inductive ObjectText : List (String × List Char) → List Char → Prop
  | empty {before gap behind : List Char} (hb : Gap before) (hg : Gap gap) (ha : Gap behind) :
    ObjectText [] (before ++ '\x7b' :: (gap ++ '\x7d' :: behind))
  | members {before behind : List Char} {members : List Member} (hb : Gap before) (ha : Gap behind)
    (there : members ≠ []) (stands : ∀ m ∈ members, m.Stands) :
    ObjectText (pairs members)
      (before ++ '\x7b' :: (joined (entries members) ++ '\x7d' :: behind))

theorem skipGap_object {ms : List (String × List Char)} {cs : List Char} (h : ObjectText ms cs) :
    ∃ rest, skipGap cs = '\x7b' :: rest := by
  cases h with
  | empty hb | members hb => exact ⟨_, by rw [skipGap_append hb, skipGap_cons rfl]⟩

variable {g g' r r' : List Char} {m m' : Member}

/-- Whitespace ends where something else begins. -/
theorem gap_unique {c d : Char} (hg : Gap g) (hg' : Gap g') (hc : isGap c = false)
    (hd : isGap d = false) (h : g ++ c :: r = g' ++ d :: r') : c :: r = d :: r' := by
  have := congrArg skipGap h
  rw [skipGap_append hg, skipGap_append hg', skipGap_cons hc, skipGap_cons hd] at this
  exact this

theorem value_unique {v v' : List Char} (hg : Gap g) (hg' : Gap g') (hv : Value v) (hv' : Value v')
    (ends : Ends r) (ends' : Ends r') (h : g ++ (v ++ r) = g' ++ (v' ++ r')) :
    v = v' ∧ r = r' := by
  have skipped := congrArg (skipValue []) h
  rw [skipValue_gap hg, skipValue_gap hg', hv.skips _ _ ends, hv'.skips _ _ ends', skipRest_nil,
    skipRest_nil] at skipped
  cases skipped
  obtain ⟨c, cs, rfl, hc, -⟩ := hv.starts
  obtain ⟨c', cs', rfl, hc', -⟩ := hv'.starts
  have same : c :: (cs ++ r) = c' :: (cs' ++ r) := gap_unique hg hg' hc hc' h
  rw [← List.cons_append, ← List.cons_append] at same
  exact ⟨List.append_cancel_right same, rfl⟩

theorem key_unique {key key' : String} {cs cs' : List Char} (hs : Spelled key.toList cs)
    (hs' : Spelled key'.toList cs') (h : cs ++ '"' :: r = cs' ++ '"' :: r') :
    key = key' ∧ r = r' := by
  have read := congrArg (readText []) h
  rw [readText_spelled hs, readText_spelled hs'] at read
  simp only [List.reverse_nil, List.nil_append, String.ofList_toList, Except.ok.injEq,
    Prod.mk.injEq] at read
  exact read

theorem Member.Stands.unique (h : m.Stands) (h' : m'.Stands) (ends : Ends r) (ends' : Ends r')
    (text : m.lead ++ (m.value ++ r) = m'.lead ++ (m'.value ++ r')) :
    (m.key, m.value) = (m'.key, m'.value) ∧ r = r' := by
  obtain ⟨lead, value, -⟩ := h
  obtain ⟨lead', value', -⟩ := h'
  generalize m.lead = l at lead text
  generalize m'.lead = l' at lead' text
  obtain ⟨before, cs, behind, after, hb, hs, hk, ha⟩ := lead
  obtain ⟨before', cs', behind', after', hb', hs', hk', ha'⟩ := lead'
  simp only [List.append_assoc, List.cons_append] at text
  obtain ⟨key, colon⟩ := key_unique hs hs' (List.tail_eq_of_cons_eq (gap_unique hb hb' rfl rfl text))
  obtain ⟨same, rest⟩ := value_unique ha ha' value value' ends ends'
    (List.tail_eq_of_cons_eq (gap_unique hk hk' rfl rfl colon))
  exact ⟨by rw [key, same], rest⟩

/-- By induction on the members, each of which ends where the next begins. -/
theorem behind_unique {ms ms' : List Member} (h : ∀ m ∈ ms, m.Stands) (h' : ∀ m ∈ ms', m.Stands)
    (hg : Gap g) (hg' : Gap g') (text : g ++ Frame.object.behind (entries ms) r =
      g' ++ Frame.object.behind (entries ms') r') : pairs ms = pairs ms' := by
  induction ms generalizing ms' g g' with
  | nil =>
    cases ms' with
    | nil => rfl
    | cons m' ms' => cases gap_unique hg hg' (c := '\x7d') (d := ',') rfl rfl text
  | cons m ms ih =>
    cases ms' with
    | nil => cases gap_unique hg hg' (c := ',') (d := '\x7d') rfl rfl text
    | cons m' ms' =>
      rw [List.forall_mem_cons] at h h'
      have joined := List.tail_eq_of_cons_eq (gap_unique hg hg' (c := ',') (d := ',') rfl rfl text)
      have first : m.lead ++ (m.value ++ (m.gap ++ Frame.object.behind (entries ms) r)) =
          m'.lead ++ (m'.value ++ (m'.gap ++ Frame.object.behind (entries ms') r')) :=
        ((joined_cons_append .object m.toEntry (entries ms) r).symm.trans joined).trans
          (joined_cons_append .object m'.toEntry (entries ms') r')
      obtain ⟨pair, rest⟩ := h.1.unique h'.1 ((Frame.object.ends_behind _ r).gap h.1.gap)
        ((Frame.object.ends_behind _ r').gap h'.1.gap) first
      have others := ih h.2 h'.2 h.1.gap h'.1.gap rest
      rw [pairs, pairs, List.map_cons, List.map_cons, pair]
      exact congrArg (_ :: ·) others

theorem joined_unique {ms ms' : List Member} (there : ms ≠ []) (there' : ms' ≠ [])
    (h : ∀ m ∈ ms, m.Stands) (h' : ∀ m ∈ ms', m.Stands)
    (text : joined (entries ms) ++ '\x7d' :: r = joined (entries ms') ++ '\x7d' :: r') :
    pairs ms = pairs ms' := by
  have comma : [] ++ Frame.object.behind (entries ms) r =
      [] ++ Frame.object.behind (entries ms') r' := by
    cases ms with
    | nil => exact absurd rfl there
    | cons m ms =>
      cases ms' with
      | nil => exact absurd rfl there'
      | cons m' ms' => exact congrArg (',' :: ·) text
  exact behind_unique h h' (by simp [Gap]) (by simp [Gap]) comma

/-- No object with a member is written as the empty one is. -/
theorem empty_ne_joined {ms : List Member} (there : ms ≠ []) (h : ∀ m ∈ ms, m.Stands) (hg : Gap g) :
    g ++ '\x7d' :: r ≠ joined (entries ms) ++ '\x7d' :: r' := by
  intro text
  cases ms with
  | nil => exact absurd rfl there
  | cons m ms =>
    have lead := (h m List.mem_cons_self).lead
    replace text := text.trans (joined_cons_append .object m.toEntry (entries ms) r')
    change g ++ '\x7d' :: r = m.lead ++ _ at text
    generalize m.lead = l at lead text
    obtain ⟨before, cs, behind, after, hb, -, -, -⟩ := lead
    rw [List.append_assoc, List.cons_append] at text
    cases gap_unique hg hb (c := '\x7d') (d := '"') rfl rfl text

/-- The members of an object are told by its text. -/
theorem ObjectText.unique {ps ps' : List (String × List Char)} {cs : List Char}
    (h : ObjectText ps cs) (h' : ObjectText ps' cs) : ps = ps' := by
  generalize hc : cs = cs' at h'
  cases h with
  | empty hb hg =>
    cases h' with
    | empty => rfl
    | members hb' _ there stands =>
      exact absurd (List.tail_eq_of_cons_eq (gap_unique hb hb' rfl rfl hc))
        (empty_ne_joined there stands hg)
  | members hb _ there stands =>
    cases h' with
    | empty hb' hg' =>
      exact absurd (List.tail_eq_of_cons_eq (gap_unique hb' hb rfl rfl hc.symm))
        (empty_ne_joined there stands hg')
    | members hb' _ there' stands' =>
      exact joined_unique there there' stands stands'
        (List.tail_eq_of_cons_eq (gap_unique hb hb' rfl rfl hc))

/-! ### The members of a header -/

theorem MemberValue.toValue {h : Header} {key : String} {value : List Char}
    (fits : MemberValue h key value) : Value value := by
  cases fits with
  | id => exact value_natural h.id.toNat
  | author _ written => exact .string written.pieces
  | noAuthor | noTime => exact .null
  | time => exact value_integer _
  | other _ _ _ value => exact value

theorem Member.Fits.stands {h : Header} (fits : m.Fits h) : m.Stands :=
  ⟨fits.lead, fits.value.toValue, fits.gap⟩

/-- A member whose key comes once is told by it. -/
theorem value_eq_of_count {ps : List (String × List Char)} {key : String} {v v' : List Char}
    (once : (ps.map Prod.fst).count key = 1) (h : (key, v) ∈ ps) (h' : (key, v') ∈ ps) : v = v' := by
  induction ps with
  | nil => cases h
  | cons p ps ih =>
    rw [List.map_cons, List.count_cons] at once
    have later {w : List Char} (mem : (key, w) ∈ ps) : 0 < (ps.map Prod.fst).count key :=
      List.count_pos_iff.2 (List.mem_map_of_mem (f := Prod.fst) mem)
    rcases List.mem_cons.1 h with rfl | mem <;> rcases List.mem_cons.1 h' with same | mem'
    · exact (congrArg Prod.snd same).symm
    · rw [if_pos (beq_self_eq_true _)] at once
      exact absurd (later mem') (by omega)
    · rw [← same, if_pos (beq_self_eq_true _)] at once
      exact absurd (later mem) (by omega)
    · refine ih ?_ mem mem'
      have := later mem
      omega

/-- What the members of an object with a header are. -/
structure Carried (h : Header) (ps : List (String × List Char)) : Prop where
  values : ∀ p ∈ ps, MemberValue h p.1 p.2
  id : (ps.map Prod.fst).count "id" = 1
  author : h.author ≠ none → "by" ∈ ps.map Prod.fst
  time : h.time ≠ none → "time" ∈ ps.map Prod.fst

theorem Written.carried {h : Header} {cs : List Char} (written : h.Written cs) :
    ∃ ps, ObjectText ps cs ∧ h.Carried ps := by
  obtain ⟨hb, ha, fits, id, -, -, authorThere, timeThere⟩ := written
  rename_i before behind members
  have some : members ≠ [] := by
    rintro rfl
    cases id
  have keys : (pairs members).map Prod.fst = members.map Member.key := List.map_map
  refine ⟨pairs members, .members hb ha some fun m hm => (fits m hm).stands, ?_⟩
  constructor
  · intro p hp
    obtain ⟨m, hm, rfl⟩ := List.mem_map.1 hp
    exact (fits m hm).value
  · rw [keys]
    exact id
  · rw [keys]
    exact authorThere
  · rw [keys]
    exact timeThere

/-- The identifier stands in decimal. -/
theorem Carried.id_mem {h : Header} {ps : List (String × List Char)} (carried : h.Carried ps) :
    ("id", (toString h.id.toNat).toList) ∈ ps := by
  have there : "id" ∈ ps.map Prod.fst := List.count_pos_iff.1 (carried.id ▸ Nat.zero_lt_one)
  obtain ⟨⟨key, value⟩, mem, (name : key = "id")⟩ := List.mem_map.1 there
  have fits : MemberValue h key value := carried.values _ mem
  cases fits with
  | id => exact mem
  | author | noAuthor | time | noTime => exact absurd name (by decide)
  | other notId => exact absurd name notId

end FeedIngest.Header
