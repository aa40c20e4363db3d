import FeedIngest.Url.Reference
import Mathlib.Data.List.Infix
import Mathlib.Data.List.TakeWhile

/-! The segments of paths. No segment of a text holds a slash, with or without escapes, so the text
of a path ends with a slash just where its last segment is empty. A slash behind the text of a path
that ends otherwise adds an empty segment, also behind a step in place or upwards. -/

namespace FeedIngest.Url

variable {kind : SchemeKind} {path ss : List (List Char)} {s cs : List Char} {set : Char → Bool}

/-! ### Escapes -/

theorem escape_append (set : Char → Bool) (cs ds : List Char) :
    escape set (cs ++ ds) = escape set cs ++ escape set ds := List.flatMap_append

theorem escape_eq_self (h : ∀ c ∈ cs, set c = false) : escape set cs = cs := by
  induction cs with
  | nil => rfl
  | cons c cs ih =>
    rw [List.forall_mem_cons] at h
    rw [escape, List.flatMap_cons, if_neg (by simp [h.1])]
    exact congrArg (c :: ·) (ih h.2)

theorem toList_loop_ne_nil (bs : ByteArray) (i : Nat) (r : List UInt8)
    (h : r ≠ [] ∨ i < bs.size) : ByteArray.toList.loop bs i r ≠ [] := by
  induction i, r using ByteArray.toList.loop.induct bs with
  | case1 i r more ih =>
    rw [ByteArray.toList.loop, if_pos more]
    exact ih (.inl (List.cons_ne_nil _ _))
  | case2 i r done =>
    rw [ByteArray.toList.loop, if_neg done]
    simpa using h.resolve_right done

theorem utf8_ne_nil (c : Char) : utf8 c ≠ [] := by
  refine toList_loop_ne_nil _ _ _ (.inr ?_)
  rw [String.toUTF8, String.toByteArray_singleton, List.utf8Encode_singleton,
    List.size_toByteArray, String.length_utf8EncodeChar]
  exact c.utf8Size_pos

theorem escape_ne_nil (h : cs ≠ []) : escape set cs ≠ [] := by
  obtain ⟨c, cs, rfl⟩ := List.exists_cons_of_ne_nil h
  rw [escape, List.flatMap_cons]
  refine List.append_ne_nil_of_left_ne_nil ?_ _
  split
  · obtain ⟨b, bs, hb⟩ := List.exists_cons_of_ne_nil (utf8_ne_nil c)
    simp [hb, escapeByte]
  · simp

theorem slash_not_mem_escapeByte (b : UInt8) : '/' ∉ escapeByte b := by
  have digit : ∀ n < 16, upperHex n ≠ '/' := by decide
  have := b.toNat_lt
  simp only [escapeByte, List.mem_cons, List.not_mem_nil, or_false, not_or]
  exact ⟨by decide, (digit _ (by omega)).symm, (digit _ (by omega)).symm⟩

theorem slash_not_mem_escape (h : '/' ∉ cs) : '/' ∉ escape set cs := by
  intro hm
  obtain ⟨c, hc, hm⟩ := List.mem_flatMap.1 hm
  split at hm
  · obtain ⟨b, -, hm⟩ := List.mem_flatMap.1 hm
    exact slash_not_mem_escapeByte b hm
  · obtain rfl := List.mem_singleton.1 hm
    exact h hc

/-! ### Parts between separators -/

theorem splitOn_ne_nil (sep : Char) (cs : List Char) : splitOn sep cs ≠ [] := by
  cases cs with
  | nil => simp [splitOn]
  | cons c cs =>
    unfold splitOn
    split
    · simp
    · split <;> simp

/-- A separator at the end leaves an empty part. -/
theorem splitOn_concat (sep : Char) (cs : List Char) :
    splitOn sep (cs ++ [sep]) = splitOn sep cs ++ [[]] := by
  induction cs with
  | nil => simp [splitOn]
  | cons c cs ih =>
    rw [List.cons_append, splitOn, splitOn, ih]
    split
    · rfl
    · cases h : splitOn sep cs with
      | nil => exact absurd h (splitOn_ne_nil sep cs)
      | cons p ps => rfl

/-- Another character there does not. -/
theorem getLast?_splitOn_concat_ne {sep c : Char} (h : c ≠ sep) (cs : List Char) :
    (splitOn sep (cs ++ [c])).getLast? ≠ some [] := by
  induction cs with
  | nil => simp [splitOn, h]
  | cons d cs ih =>
    rw [List.cons_append, splitOn]
    split
    · rwa [List.getLast?_cons_of_ne_nil (splitOn_ne_nil sep _)]
    · cases hs : splitOn sep (cs ++ [c]) with
      | nil => exact absurd hs (splitOn_ne_nil sep _)
      | cons p ps =>
        rw [hs] at ih
        cases ps with
        | nil => simp
        | cons q ps => simpa [List.getLast?_cons_cons] using ih

theorem not_mem_of_mem_splitOn {sep : Char} (h : s ∈ splitOn sep cs) : sep ∉ s := by
  induction cs generalizing s with
  | nil =>
    obtain rfl := List.mem_singleton.1 h
    simp
  | cons c cs ih =>
    rw [splitOn] at h
    split at h
    · obtain rfl | h := List.mem_cons.1 h
      · simp
      · exact ih h
    · next other =>
      cases hs : splitOn sep cs with
      | nil => exact absurd hs (splitOn_ne_nil sep cs)
      | cons p ps =>
        simp only [hs, List.mem_cons] at h ih
        obtain rfl | h := h
        · exact List.not_mem_cons_of_ne_of_not_mem (Ne.symm other) (ih (.inl rfl))
        · exact ih (.inr h)

theorem splitOn_of_not_mem {sep : Char} (h : sep ∉ cs) : splitOn sep cs = [cs] := by
  induction cs with
  | nil => rfl
  | cons c cs ih =>
    rw [List.mem_cons, not_or] at h
    rw [splitOn, if_neg (Ne.symm h.1), ih h.2]

theorem splitOn_append {sep : Char} (h : sep ∉ s) (cs : List Char) :
    splitOn sep (s ++ sep :: cs) = s :: splitOn sep cs := by
  induction s with
  | nil => simp [splitOn]
  | cons c s ih =>
    rw [List.mem_cons, not_or] at h
    rw [List.cons_append, splitOn, if_neg (Ne.symm h.1), ih h.2]

/-- The parts of parts that were put together. -/
theorem splitOn_intercalate {sep : Char} (ne : ss ≠ []) (h : ∀ s ∈ ss, sep ∉ s) :
    splitOn sep ([sep].intercalate ss) = ss := by
  induction ss with
  | nil => exact absurd rfl ne
  | cons s ss ih =>
    rw [List.forall_mem_cons] at h
    cases ss with
    | nil => simpa using splitOn_of_not_mem h.1
    | cons t ss =>
      rw [List.intercalate_cons_cons, List.append_assoc, List.singleton_append,
        splitOn_append h.1, ih (List.cons_ne_nil _ _) h.2]

/-! ### Walks -/

theorem push_nil (kind : SchemeKind) (path : List (List Char)) :
    push kind path [] = path ++ [[]] := by
  simp [push, isDrive, escape]

/-- A step behind a path, and whether it is the last one of a walk. -/
def stride (kind : SchemeKind) (path : List (List Char)) (s : List Char) (last : Bool) :
    List (List Char) :=
  match plainPoints s with
  | ['.'] => if last then path ++ [[]] else path
  | ['.', '.'] => if last then parent kind path ++ [[]] else parent kind path
  | _ => push kind path s

theorem walk_cons (kind : SchemeKind) (path ss : List (List Char)) (s : List Char) :
    walk kind path (s :: ss) = walk kind (stride kind path s ss.isEmpty) ss := rfl

/-- A walk ends with an empty segment if its last step goes nowhere. -/
theorem walk_concat_nil (kind : SchemeKind) (path ss : List (List Char)) :
    ∃ front, walk kind path (ss ++ [[]]) = front ++ [[]] := by
  induction ss generalizing path with
  | nil => exact ⟨path, push_nil kind path⟩
  | cons s ss ih => exact ih _

theorem getLast?_push_ne (h : s ≠ []) : (push kind path s).getLast? ≠ some [] := by
  rw [push, List.getLast?_concat]
  split
  · simp
  · simpa using escape_ne_nil h

theorem parent_subset (kind : SchemeKind) (path : List (List Char)) : parent kind path ⊆ path := by
  unfold parent
  split
  · split <;> simp
  · exact List.dropLast_subset _

/-- No segment of a walk has a slash if no step has. -/
theorem slash_not_mem_walk (hp : ∀ s ∈ path, '/' ∉ s) (hs : ∀ s ∈ ss, '/' ∉ s) :
    ∀ s ∈ walk kind path ss, '/' ∉ s := by
  induction ss generalizing path with
  | nil => exact hp
  | cons s ss ih =>
    rw [List.forall_mem_cons] at hs
    rw [walk_cons]
    refine ih ?_ hs.2
    have hd : ∀ s ∈ parent kind path, '/' ∉ s := fun s h => hp s (parent_subset _ _ h)
    have append_nil {path : List (List Char)} (h : ∀ s ∈ path, '/' ∉ s) :
        ∀ s ∈ path ++ [[]], '/' ∉ s := by
      rw [List.forall_mem_append, List.forall_mem_singleton]
      exact ⟨h, List.not_mem_nil⟩
    unfold stride
    split
    · split
      · exact append_nil hp
      · exact hp
    · split
      · exact append_nil hd
      · exact hd
    · rw [push, List.forall_mem_append, List.forall_mem_singleton]
      refine ⟨hp, ?_⟩
      split
      · rw [List.mem_append, not_or]
        exact ⟨fun h => hs.1 (List.mem_of_mem_take h), by decide⟩
      · exact slash_not_mem_escape hs.1

theorem slash_not_mem_readSegments (hp : ∀ s ∈ path, '/' ∉ s) :
    ∀ s ∈ readSegments kind path cs, '/' ∉ s :=
  slash_not_mem_walk hp fun _ h => not_mem_of_mem_splitOn h

/-! ### Closed paths -/

namespace Path

/-- The path with a slash at its end. -/
def closed : Path → Path
  | .segments parts => .segments (if parts.getLast? = some [] then parts else parts ++ [[]])
  | .own [] => .segments [[]]
  | .own text => .own (text ++ ['/'])

end Path

theorem closed_of_getLast? (last : path.getLast? = some []) :
    (Path.segments path).closed = .segments path := by
  rw [Path.closed, if_pos last]

theorem exists_closed (path : List (List Char)) :
    ∃ ss, (Path.segments path).closed = .segments ss ∧ ss.getLast? = some [] := by
  by_cases last : path.getLast? = some []
  · exact ⟨path, closed_of_getLast? last, last⟩
  · exact ⟨path ++ [[]], congrArg Path.segments (if_neg last), List.getLast?_concat⟩

theorem walk_closed (ne : ss ≠ []) (h : ss.getLast? ≠ some []) :
    .segments (walk kind path (ss ++ [[]])) = (Path.segments (walk kind path ss)).closed := by
  induction ss generalizing path with
  | nil => exact absurd rfl ne
  | cons s ss ih =>
    cases ss with
    | cons t ss => exact ih (List.cons_ne_nil _ _) (by simpa [List.getLast?_cons_cons] using h)
    | nil =>
      have hs : s ≠ [] := by simpa using h
      -- A step that leads nowhere adds the empty segment itself if nothing follows it.
      have last : (Path.segments (stride kind path s true)).closed =
          .segments (push kind (stride kind path s false) []) := by
        rw [push_nil, stride, stride]
        split
        · simp [Path.closed]
        · simp [Path.closed]
        · rw [Path.closed, if_neg (getLast?_push_ne hs)]
      exact last.symm

/-- A text with a slash at its end. -/
def slashed (cs : List Char) : List Char := if cs.getLast? = some '/' then cs else cs ++ ['/']

theorem getLast?_text_segments (h : ∀ s ∈ path, '/' ∉ s) :
    (Path.segments path).text.getLast? = some '/' ↔ path.getLast? = some [] := by
  induction path using List.reverseRecOn with
  | nil => simp [Path.text]
  | append_singleton path s _ =>
    have free : '/' ∉ s := h s (by simp)
    rw [Path.text, List.flatMap_append, List.flatMap_singleton]
    cases s using List.reverseRecOn with
    | nil => simp
    | append_singleton s c =>
      have other : c ≠ '/' := by rintro rfl; simp at free
      rw [← List.cons_append, ← List.append_assoc, List.getLast?_concat, List.getLast?_concat]
      simp [other]

theorem text_closed (h : ∀ s ∈ path, '/' ∉ s) :
    (Path.segments path).closed.text = slashed (Path.segments path).text := by
  rw [slashed, Path.closed]
  by_cases last : path.getLast? = some []
  · rw [if_pos last, if_pos ((getLast?_text_segments h).2 last)]
  · rw [if_neg last, if_neg (mt (getLast?_text_segments h).1 last)]
    simp [Path.text]

theorem parent_concat_nil (kind : SchemeKind) (path : List (List Char)) :
    parent kind (path ++ [[]]) = path := by
  cases path with
  | nil => cases kind <;> rfl
  | cons s path =>
    have long : parent kind (s :: path ++ [[]]) = (s :: path ++ [[]]).dropLast := by
      cases kind <;> cases path <;> rfl
    rw [long, List.dropLast_concat]

theorem text_intercalate (ne : ss ≠ []) :
    (Path.segments ss).text = '/' :: ['/'].intercalate ss := by
  induction ss with
  | nil => exact absurd rfl ne
  | cons s ss ih =>
    cases ss with
    | nil => simp [Path.text]
    | cons t ss =>
      rw [Path.text, List.flatMap_cons, List.intercalate_cons_cons]
      change _ ++ (Path.segments (t :: ss)).text = _
      simp [ih (List.cons_ne_nil _ _)]

/-- Behind a closed path, what a reference names stands below all its segments. -/
theorem text_parent_append (last : path = [] ∨ path.getLast? = some []) (ne : ss ≠ []) :
    (Path.segments (parent kind path ++ ss)).text =
      (Path.segments path).closed.text ++ ['/'].intercalate ss := by
  obtain rfl | last := last
  · have none : parent kind [] = [] := by cases kind <;> rfl
    rw [none, List.nil_append, text_intercalate ne]
    rfl
  · obtain ⟨front, rfl⟩ := List.getLast?_eq_some_iff.1 last
    rw [parent_concat_nil, closed_of_getLast? last, Path.text, Path.text, List.flatMap_append]
    change _ ++ (Path.segments ss).text = _
    simp [text_intercalate ne]

/-! ### Settled paths -/

/-- Either all segments are empty, or one is not and has only empty ones in front. -/
theorem empty_or_append (path : List (List Char)) : (∀ s ∈ path, s = []) ∨
    ∃ front s rest, (∀ t ∈ front, t = []) ∧ s ≠ [] ∧ path = front ++ s :: rest := by
  induction path with
  | nil => exact .inl (by simp)
  | cons s path ih =>
    by_cases hs : s = []
    · subst hs
      obtain h | ⟨front, t, rest, h, ht, rfl⟩ := ih
      · exact .inl (by simpa using h)
      · exact .inr ⟨[] :: front, t, rest, by simpa using h, ht, rfl⟩
    · exact .inr ⟨[], s, path, by simp, hs, rfl⟩

theorem settled_of_ne (other : kind ≠ .file) (path : List (List Char)) :
    settled kind path = path := if_neg other

theorem settled_of_empty (h : ∀ s ∈ path, s = []) : settled .file path = [[]] := by
  have left : path.dropWhile (· = []) = [] := List.dropWhile_eq_nil_iff.2 (by simpa using h)
  rw [settled, if_pos rfl, left]

theorem settled_append {front rest : List (List Char)} (h : ∀ t ∈ front, t = []) (hs : s ≠ []) :
    settled .file (front ++ s :: rest) = s :: rest := by
  have left : (front ++ s :: rest).dropWhile (· = []) = s :: rest := by
    rw [List.dropWhile_append_of_pos (by simpa using h)]
    exact List.dropWhile_cons_of_neg (by simpa using hs)
  rw [settled, if_pos rfl, left]

theorem settled_cons (hs : s ≠ []) (kind : SchemeKind) (path : List (List Char)) :
    settled kind (s :: path) = s :: path := by
  by_cases file : kind = .file
  · subst file
    exact settled_append (List.forall_mem_nil _) hs
  · exact settled_of_ne file _

theorem settled_settled (kind : SchemeKind) (path : List (List Char)) :
    settled kind (settled kind path) = settled kind path := by
  by_cases file : kind = .file
  · subst file
    obtain h | ⟨front, s, rest, h, hs, rfl⟩ := empty_or_append path
    · rw [settled_of_empty h]
      rfl
    · rw [settled_append h hs, settled_cons hs]
  · rw [settled_of_ne file, settled_of_ne file]

theorem mem_settled (h : s ∈ settled kind path) : s ∈ path ∨ s = [] := by
  by_cases file : kind = .file
  · subst file
    obtain empty | ⟨front, t, rest, empty, ht, rfl⟩ := empty_or_append path
    · rw [settled_of_empty empty] at h
      exact .inr (List.mem_singleton.1 h)
    · rw [settled_append empty ht] at h
      exact .inl (List.mem_append_right front h)
  · rw [settled_of_ne file] at h
    exact .inl h

theorem getLast?_settled (last : path.getLast? = some []) :
    (settled kind path).getLast? = some [] := by
  by_cases file : kind = .file
  · subst file
    obtain h | ⟨front, s, rest, h, hs, rfl⟩ := empty_or_append path
    · rw [settled_of_empty h]
      rfl
    · rw [settled_append h hs]
      simpa [List.getLast?_append] using last
  · rwa [settled_of_ne file]

/-- A slash at its end does not change how a path settles. -/
theorem settled_closed (closes : .segments ss = (Path.segments path).closed) :
    .segments (settled kind ss) = (Path.segments (settled kind path)).closed := by
  by_cases file : kind = .file
  · subst file
    rw [Path.closed, Path.segments.injEq] at closes
    obtain h | ⟨front, s, rest, h, hs, rfl⟩ := empty_or_append path
    · have all : ∀ s ∈ ss, s = [] := by
        rw [closes]
        split
        · exact h
        · rw [List.forall_mem_append]
          exact ⟨h, by simp⟩
      rw [settled_of_empty h, settled_of_empty all]
      rfl
    · have same : (front ++ s :: rest).getLast? = (s :: rest).getLast? := by
        exact List.getLast?_append_cons front s rest
      rw [settled_append h hs, Path.closed, closes, same]
      split
      · rw [settled_append h hs]
      · rw [List.append_assoc, List.cons_append, settled_append h hs]
  · rw [settled_of_ne file, settled_of_ne file, closes]

/-- Where there are further segments the first one of a settled path is not empty. -/
theorem ne_nil_of_settled {t : List Char}
    (settles : settled .file (s :: t :: path) = s :: t :: path) : s ≠ [] := by
  rintro rfl
  have later : settled .file ([] :: t :: path) = settled .file (t :: path) := rfl
  rw [later] at settles
  obtain h | ⟨front, s, rest, h, hs, same⟩ := empty_or_append (t :: path)
  · rw [settled_of_empty h] at settles
    cases settles
  · rw [same, settled_append h hs] at settles
    have longer := congrArg List.length settles
    simp only [List.length_cons, List.length_append] at longer
    omega

/-- A settled path stays so with names behind it. -/
theorem settled_parent_append (settles : settled kind path = path)
    (last : path = [] ∨ path.getLast? = some []) (hs : s ≠ []) :
    settled kind (parent kind path ++ s :: ss) = parent kind path ++ s :: ss := by
  by_cases file : kind = .file
  · subst file
    obtain rfl | last := last
    · exact settled_cons hs .file ss
    · obtain ⟨front, rfl⟩ := List.getLast?_eq_some_iff.1 last
      rw [parent_concat_nil]
      cases front with
      | nil => exact settled_cons hs .file ss
      | cons t front =>
        have ht : t ≠ [] := by
          cases front <;> exact ne_nil_of_settled settles
        exact settled_cons ht .file (front ++ s :: ss)
  · exact settled_of_ne file _

end FeedIngest.Url
