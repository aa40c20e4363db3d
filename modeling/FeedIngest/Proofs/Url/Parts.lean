import FeedIngest.Proofs.Url.Segments

/-! The parts of a text behind an authority. Its fragment begins at the first hash, its query at the
first question mark in front of that, and without either all of it is path. A slash at the end is
part of whatever comes last. -/

namespace FeedIngest.Url

variable {kind : SchemeKind} {cs ds : List Char} {mark : Char}

section Concat
variable {p : Char → Bool} {c : Char}

theorem takeWhile_append_cons (h : p c = false) (cs ds : List Char) :
    (cs ++ c :: ds).takeWhile p = cs.takeWhile p := by
  induction cs with
  | nil => simp [h]
  | cons d cs ih => simp [List.takeWhile_cons, ih]

theorem dropWhile_append_cons (h : p c = false) (cs ds : List Char) :
    (cs ++ c :: ds).dropWhile p = cs.dropWhile p ++ c :: ds := by
  induction cs with
  | nil => simp [h]
  | cons d cs ih =>
    rw [List.cons_append, List.dropWhile_cons, List.dropWhile_cons, ih]
    split <;> rfl

end Concat

/-- How a text ends tells how what is left of it ends. -/
theorem forall_getLast?_of_suffix {P : Char → Prop} (h : ∀ c ∈ cs.getLast?, P c)
    (rest : ds <:+ cs) : ∀ c ∈ ds.getLast?, P c := by
  obtain ⟨front, rfl⟩ := rest
  intro c hc
  exact h c (by rw [List.getLast?_append, Option.mem_def.1 hc]; rfl)

/-! ### Query and fragment -/

section Mark
variable {front : List Char}

theorem takeWhile_ne_of_not_mem (h : mark ∉ cs) : cs.takeWhile (· ≠ mark) = cs := by
  induction cs with
  | nil => rfl
  | cons c cs ih =>
    rw [List.mem_cons, not_or] at h
    rw [List.takeWhile_cons_of_pos (by simpa using Ne.symm h.1), ih h.2]

theorem dropWhile_ne_of_not_mem (h : mark ∉ cs) : cs.dropWhile (· ≠ mark) = [] := by
  rw [List.dropWhile_eq_nil_iff]
  intro c hc
  simpa using ne_of_mem_of_not_mem hc h

theorem takeWhile_ne_append (h : mark ∉ front) (rest : List Char) :
    (front ++ mark :: rest).takeWhile (· ≠ mark) = front := by
  rw [takeWhile_append_cons (by simp), takeWhile_ne_of_not_mem h]

theorem behind_of_not_mem (h : mark ∉ cs) : behind mark cs = none := by
  rw [behind, dropWhile_ne_of_not_mem h]

theorem behind_append (h : mark ∉ front) (rest : List Char) :
    behind mark (front ++ mark :: rest) = some rest := by
  rw [behind, dropWhile_append_cons (by simp), dropWhile_ne_of_not_mem h]
  rfl

/-- A text without marks is all path. -/
theorem splitParts_path (kind : SchemeKind) (query : '?' ∉ cs) (fragment : '#' ∉ cs) :
    splitParts kind cs = ⟨cs, none, none⟩ := by
  simp only [splitParts, takeWhile_ne_of_not_mem fragment, takeWhile_ne_of_not_mem query,
    behind_of_not_mem query, behind_of_not_mem fragment, Option.map_none]

theorem splitParts_query (kind : SchemeKind) (path : '?' ∉ front) (fragment : '#' ∉ front)
    (rest : '#' ∉ ds) : splitParts kind (front ++ '?' :: ds) =
      ⟨front, some (escape (if kind = .other then inQuery else inSpecialQuery) ds), none⟩ := by
  have none : '#' ∉ front ++ '?' :: ds := by simp [fragment, rest]
  simp only [splitParts, takeWhile_ne_of_not_mem none, takeWhile_ne_append path,
    behind_append path, behind_of_not_mem none, Option.map_none, Option.map_some]

theorem splitParts_fragment (kind : SchemeKind) (path : '#' ∉ front) (ds : List Char) :
    splitParts kind (front ++ '#' :: ds) =
      { splitParts kind front with fragment := some (escape inFragment ds) } := by
  simp only [splitParts, takeWhile_ne_append path, takeWhile_ne_of_not_mem path,
    behind_append path, Option.map_some]

end Mark

/-- The parts of a text with a slash at its end. -/
def Parts.closed (p : Parts) : Parts :=
  match p.query, p.fragment with
  | none, none => { p with path := p.path ++ ['/'] }
  | some query, none => { p with query := some (query ++ ['/']) }
  | _, some fragment => { p with fragment := some (fragment ++ ['/']) }

theorem splitParts_concat (kind : SchemeKind) (cs : List Char) :
    splitParts kind (cs ++ ['/']) = (splitParts kind cs).closed := by
  have escapes {set : Char → Bool} (h : set '/' = false) (ds : List Char) :
      escape set (ds ++ ['/']) = escape set ds ++ ['/'] := by
    rw [escape_append]
    simp [escape, h]
  -- What comes last is the fragment, or else the query, or else the path.
  by_cases fragment : '#' ∈ cs
  · obtain ⟨front, ds, rfl, path⟩ := List.eq_append_cons_of_mem fragment
    rw [List.append_assoc, List.cons_append, splitParts_fragment kind path,
      splitParts_fragment kind path, escapes (by decide)]
    cases hq : (splitParts kind front).query <;> simp [Parts.closed, hq]
  by_cases query : '?' ∈ cs
  · obtain ⟨front, ds, rfl, path⟩ := List.eq_append_cons_of_mem query
    simp only [List.mem_append, List.mem_cons, not_or] at fragment
    rw [List.append_assoc, List.cons_append, splitParts_query kind path fragment.1 fragment.2.2,
      splitParts_query kind path fragment.1 (by simpa using fragment.2.2),
      escapes (by split <;> decide)]
    rfl
  · rw [splitParts_path kind query fragment,
      splitParts_path kind (by simpa using query) (by simpa using fragment)]
    rfl

theorem path_splitParts (query : (splitParts kind cs).query = none)
    (fragment : (splitParts kind cs).fragment = none) : (splitParts kind cs).path = cs := by
  by_cases hash : '#' ∈ cs
  · obtain ⟨front, ds, rfl, path⟩ := List.eq_append_cons_of_mem hash
    simp [splitParts_fragment kind path] at fragment
  by_cases mark : '?' ∈ cs
  · obtain ⟨front, ds, rfl, path⟩ := List.eq_append_cons_of_mem mark
    simp only [List.mem_append, List.mem_cons, not_or] at hash
    simp [splitParts_query kind path hash.1 hash.2.2] at query
  · rw [splitParts_path kind mark hash]

end FeedIngest.Url
