import FeedIngest.Proofs.Digits
import FeedIngest.Proofs.Url.Closing

/-! References that name a resource below a base. The names take the place of the last segment of
the base's path, whatever the scheme is; query and fragment of the base are left out. A base with a
path of its own has nothing below it. -/

namespace FeedIngest.Url

variable {kind : SchemeKind} {base : Url} {path ss : List (List Char)} {s cs : List Char} {c : Char}

/-- A letter, a digit or a point. -/
def isPlain (c : Char) : Bool := c.isAlphanum || c = '.'

theorem toNat_lt_of_isPlain (h : isPlain c = true) : c.toNat < 128 := by
  have upper (h : c.isUpper = true) : c.toNat ≤ 90 := (of_decide_eq_true h).2
  have lower (h : c.isLower = true) : c.toNat ≤ 122 :=
    of_decide_eq_true (Bool.and_eq_true_iff.1 h).2
  have digit (h : c.isDigit = true) : c.toNat ≤ 57 :=
    of_decide_eq_true (Bool.and_eq_true_iff.1 h).2
  obtain h | h := Bool.or_eq_true_iff.1 h
  · obtain h | h := Bool.or_eq_true_iff.1 h
    · obtain h | h := Bool.or_eq_true_iff.1 h
      · exact Nat.lt_of_le_of_lt (upper h) (by decide)
      · exact Nat.lt_of_le_of_lt (lower h) (by decide)
    · exact Nat.lt_of_le_of_lt (digit h) (by decide)
  · rw [of_decide_eq_true h]
    decide

/-- Such a character means nothing in a reference. -/
theorem isPlain_facts (h : isPlain c = true) : 0x20 < c.toNat ∧ inPath c = false ∧
    c ≠ ':' ∧ c ≠ '/' ∧ c ≠ '\\' ∧ c ≠ '?' ∧ c ≠ '#' ∧ c ≠ '%' := by
  have small := toNat_lt_of_isPlain h
  revert h
  apply Digits.of_forall_code small
  decide

/-- A name of such characters, too long for a step. -/
structure IsName (s : List Char) : Prop where
  plain : ∀ c ∈ s, isPlain c = true
  long : 2 < s.length

theorem plainPoints_eq_self (h : '%' ∉ s) : plainPoints s = s := by
  induction s with
  | nil => rfl
  | cons c s ih =>
    rw [List.mem_cons, not_or] at h
    have other : c ≠ '%' := Ne.symm h.1
    rw [plainPoints, ih h.2]
    · rintro rest rfl
      exact absurd rfl other
    · rintro rest rfl
      exact absurd rfl other

theorem IsName.not_mem (h : IsName s) : '/' ∉ s ∧ '%' ∉ s := by
  constructor <;> intro hc <;> exact absurd (h.plain _ hc) (by decide)

/-- A name adds a segment. -/
theorem stride_name (h : IsName s) (last : Bool) : stride kind path s last = path ++ [s] := by
  have long := h.long
  have noDrive : isDrive s = false := by
    unfold isDrive
    split
    · simp at long
    · rfl
  have escaped : escape inPath s = s :=
    escape_eq_self fun c hc => (isPlain_facts (h.plain c hc)).2.1
  rw [stride, plainPoints_eq_self h.not_mem.2]
  split
  · simp at long
  · simp at long
  · rw [push, noDrive, Bool.and_false, if_neg Bool.false_ne_true, escaped]

theorem walk_names (names : ∀ s ∈ ss, IsName s) : walk kind path ss = path ++ ss := by
  induction ss generalizing path with
  | nil => exact (List.append_nil path).symm
  | cons s ss ih =>
    rw [List.forall_mem_cons] at names
    rw [walk_cons, stride_name names.1, ih names.2, List.append_assoc, List.singleton_append]

/-- The characters of names and of what stands between them. -/
theorem isPlain_or_slash (names : ∀ s ∈ ss, IsName s) :
    ∀ c ∈ ['/'].intercalate ss, isPlain c = true ∨ c = '/' := by
  induction ss with
  | nil => simp
  | cons s ss ih =>
    rw [List.forall_mem_cons] at names
    have plain : ∀ c ∈ s, isPlain c = true ∨ c = '/' := fun c hc => .inl (names.1.plain c hc)
    cases ss with
    | nil => simpa using plain
    | cons t ss =>
      rw [List.intercalate_cons_cons, List.forall_mem_append, List.forall_mem_append]
      exact ⟨⟨plain, by simp⟩, ih names.2⟩

theorem cleaned_eq_self (visible : ∀ c ∈ cs, 0x20 < c.toNat) : cleaned cs = cs := by
  rcases List.eq_nil_or_concat' cs with rfl | ⟨front, c, rfl⟩
  · rfl
  · rw [List.forall_mem_append] at visible
    have stays : front.dropWhile (·.toNat ≤ 0x20) = front := by
      cases front with
      | nil => rfl
      | cons d front =>
        exact List.dropWhile_cons_of_neg (by simpa using visible.1 d List.mem_cons_self)
    rw [cleaned_concat (visible.2 c List.mem_cons_self), stays, List.filter_eq_self.2]
    intro d hd
    simp [kept_of_visible (visible.1 d hd)]

theorem splitScheme_eq_none (h : ':' ∉ cs) : splitScheme cs = none := by
  unfold splitScheme
  split
  · next behind _ left =>
    have : ':' ∈ cs.dropWhile isSchemeCharacter := left ▸ List.mem_cons_self
    exact absurd ((List.dropWhile_sublist _).mem this) h
  · rfl

theorem beginsWithDrive_eq_false (colon : ':' ∉ cs) (bar : '|' ∉ cs) :
    beginsWithDrive cs = false := by
  have noDrive : isDrive (cs.take 2) = false := by
    rcases cs with _ | ⟨c, _ | ⟨d, cs⟩⟩
    · rfl
    · rfl
    · simp only [List.mem_cons, not_or] at colon bar
      simp [isDrive, Ne.symm colon.2.1, Ne.symm bar.2.1]
  rw [beginsWithDrive, noDrive, Bool.false_and]

/-- A reference that is all path and names some segments. -/
structure Refers (ss : List (List Char)) (cs : List Char) : Prop where
  head : ∃ c rest, cs = c :: rest ∧ isPlain c = true
  cleaned : cleaned cs = cs
  relative : splitScheme cs = none
  noDrive : beginsWithDrive cs = false
  parts : ∀ kind, splitParts kind cs = ⟨cs, none, none⟩
  segments : ∀ kind path, readSegments kind path cs = path ++ ss

theorem refers_intercalate (ne : ss ≠ []) (names : ∀ s ∈ ss, IsName s) :
    Refers ss (['/'].intercalate ss) := by
  have plain := isPlain_or_slash names
  have without {mark : Char} (h : isPlain mark = false) (other : mark ≠ '/') :
      mark ∉ ['/'].intercalate ss := by
    intro hm
    obtain hp | rfl := plain mark hm
    · exact absurd hp (by simp [h])
    · exact other rfl
  constructor
  case head =>
    obtain ⟨s, ss, rfl⟩ := List.exists_cons_of_ne_nil ne
    have name := names s List.mem_cons_self
    obtain ⟨c, s, rfl⟩ := List.exists_cons_of_length_pos (Nat.lt_trans (by decide) name.long)
    refine ⟨c, ?_⟩
    cases ss with
    | nil => exact ⟨s, by simp, name.plain c List.mem_cons_self⟩
    | cons t ss =>
      rw [List.intercalate_cons_cons]
      exact ⟨_, rfl, name.plain c List.mem_cons_self⟩
  case cleaned =>
    refine cleaned_eq_self fun c hc => ?_
    obtain hp | rfl := plain c hc
    · exact (isPlain_facts hp).1
    · decide
  case relative => exact splitScheme_eq_none (without (by decide) (by decide))
  case noDrive =>
    have bar : '|' ∉ ['/'].intercalate ss := without (by decide) (by decide)
    exact beginsWithDrive_eq_false (without (by decide) (by decide)) bar
  case parts =>
    intro kind
    exact splitParts_path kind (without (by decide) (by decide)) (without (by decide) (by decide))
  case segments =>
    intro kind path
    have mapped : (['/'].intercalate ss).map (fun c => if isSlash kind c then '/' else c) =
        ['/'].intercalate ss := by
      refine (List.map_congr_left fun c hc => ?_).trans (List.map_id _)
      obtain hp | rfl := plain c hc
      · have facts := isPlain_facts hp
        simp [isSlash, facts]
      · simp
    rw [readSegments, mapped, splitOn_intercalate ne fun s hs => (names s hs).not_mem.1,
      walk_names names]

/-- The resource of some names below a base. -/
def below (base : Url) (path ss : List (List Char)) : Url :=
  ⟨base.scheme, base.authority, .segments (settled base.kind (parent base.kind path ++ ss)), none,
    none⟩

section Reference
variable {text : String} (h : Refers ss text.toList)
include h

/-- It names a resource below every base with segments. -/
theorem Refers.join (segments : base.path = .segments path) :
    base.join text = .ok (base.below path ss) := by
  obtain ⟨c, rest, begins, hc⟩ := h.head
  obtain ⟨-, -, -, noSlash, noBackslash, -⟩ := isPlain_facts hc
  have single (kind : SchemeKind) : isSlash kind c = false := by
    simp [isSlash, noSlash, noBackslash]
  have none (kind : SchemeKind) : ¬ 2 ≤ slashes kind text.toList := by
    rw [begins, slashes, List.takeWhile_cons_of_neg (by simp [single])]
    decide
  have below : resolvePath base path text.toList = base.below path ss := by
    unfold resolvePath
    dsimp only
    rw [h.parts, begins]
    dsimp only
    rw [single, if_neg Bool.false_ne_true, ← begins, h.segments]
    rfl
  have relative : base.join text = readRelative base text.toList := by
    unfold Url.join resolve
    dsimp only
    rw [h.cleaned, h.relative]
  rw [relative, ← below]
  obtain ⟨scheme, authority, _, query, fragment⟩ := base
  obtain rfl := segments
  unfold readRelative
  dsimp only
  split
  · have all : text.toList.dropWhile (isSlash .file) = text.toList := by
      rw [begins, List.dropWhile_cons_of_neg (by simp [single])]
    unfold readFile
    rw [if_neg (none _), all, h.noDrive]
    rfl
  · rw [if_neg (none _)]

/-- A base with a path of its own is no base for it. -/
theorem Refers.join_own {own : List Char} (path : base.path = .own own) :
    base.join text = .error .relativeToOpaqueBase := by
  obtain ⟨c, rest, begins, hc⟩ := h.head
  unfold Url.join resolve
  dsimp only
  rw [h.cleaned, h.relative]
  dsimp only
  unfold readRelative
  rw [path, begins]
  dsimp only
  split
  · next same =>
    cases same
    cases hc
  · rfl

end Reference

end FeedIngest.Url
