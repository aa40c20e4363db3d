import FeedIngest.Proofs.Url.Authority

/-! What a slash behind the text of an address does to the address. It closes the path, unless the
text goes on behind the path: then it only makes the query or the fragment longer. Scheme and
authority stay the same. This holds of texts that end in no slash of any kind; one that ends in a
slash has a closed path already. -/

namespace FeedIngest.Url

variable {kind : SchemeKind} {scheme : String} {cs ds rest : List Char}

/-! ### Paths -/

/-- A text that ends in no slash of any kind. -/
def EndsOpen (cs : List Char) : Prop := ∀ c ∈ cs.getLast?, c ≠ '/' ∧ c ≠ '\\'

theorem EndsOpen.exists_concat (plain : EndsOpen cs) (ne : cs ≠ []) :
    ∃ front c, cs = front ++ [c] ∧ ∀ kind, isSlash kind c = false := by
  obtain ⟨front, c, rfl⟩ := (List.eq_nil_or_concat' cs).resolve_left ne
  have last := plain c (by simp)
  exact ⟨front, c, rfl, fun kind => by simp [isSlash, last.1, last.2]⟩

/-- Behind a slash in front something is left. -/
theorem EndsOpen.behind_slash {c : Char} (plain : EndsOpen (c :: cs))
    (slash : isSlash kind c = true) : EndsOpen cs ∧ cs ≠ [] := by
  refine ⟨forall_getLast?_of_suffix plain (List.suffix_cons c cs), ?_⟩
  rintro rfl
  simp [isSlash, plain c rfl] at slash

/-- The path behind an authority, or without one. -/
def readPath (kind : SchemeKind) (authority : Option Authority) (cs : List Char) : Path :=
  if authority.isSome then readRooted kind cs
  else match cs with
    | '/' :: rest => .segments (readSegments .other [] rest)
    | text => .own (escape isControl text)

theorem readSegments_slash (kind : SchemeKind) (path : List (List Char)) (cs : List Char) :
    readSegments kind path (cs ++ ['/']) =
      walk kind path (splitOn '/' (cs.map fun c => if isSlash kind c then '/' else c) ++ [[]]) := by
  have mapped : (cs ++ ['/']).map (fun c => if isSlash kind c then '/' else c) =
      cs.map (fun c => if isSlash kind c then '/' else c) ++ ['/'] := by simp
  rw [readSegments, mapped, splitOn_concat]

/-- The path of a text that ends with a slash. -/
theorem getLast?_readPath_slash {a : Option Authority} {parts : List (List Char)}
    (h : readPath kind a (cs ++ ['/']) = .segments parts) : parts.getLast? = some [] := by
  have closes (kind : SchemeKind) (cs : List Char) :
      (readSegments kind [] (cs ++ ['/'])).getLast? = some [] := by
    obtain ⟨front, same⟩ := walk_concat_nil kind []
      (splitOn '/' (cs.map fun c => if isSlash kind c then '/' else c))
    rw [readSegments_slash, same, List.getLast?_concat]
  rcases cs with _ | ⟨c, cs⟩
  · cases a <;> cases h <;> cases kind <;> rfl
  cases a with
  | some a =>
    obtain rfl := Path.segments.inj h
    refine getLast?_settled ?_
    rw [List.cons_append, rootedSegments]
    split
    · exact closes kind cs
    · exact closes kind (c :: cs)
  | none =>
    by_cases slash : c = '/'
    · subst slash
      obtain rfl := Path.segments.inj h
      exact closes .other cs
    · simp [readPath, slash] at h

theorem readPath_ne_own_nil {a : Option Authority} (ne : cs ≠ []) :
    readPath kind a cs ≠ .own [] := by
  obtain ⟨c, cs, rfl⟩ := List.exists_cons_of_ne_nil ne
  cases a with
  | some a => exact Path.noConfusion
  | none =>
    by_cases slash : c = '/'
    · subst slash
      exact Path.noConfusion
    · simpa [readPath, slash] using escape_ne_nil (List.cons_ne_nil c cs)

theorem slash_not_mem_readPath {a : Option Authority} {parts : List (List Char)}
    (h : readPath kind a cs = .segments parts) : ∀ s ∈ parts, '/' ∉ s := by
  have free (kind : SchemeKind) (cs : List Char) : ∀ s ∈ readSegments kind [] cs, '/' ∉ s :=
    slash_not_mem_readSegments (by simp)
  unfold readPath at h
  split at h
  · cases h
    intro s hs
    obtain hs | rfl := mem_settled hs
    · unfold rootedSegments at hs
      split at hs
      · split at hs <;> simp_all
      · exact free _ _ s hs
    · exact List.not_mem_nil
  · split at h
    · cases h
      exact free _ _
    · cases h

section Open
variable (plain : EndsOpen cs)
include plain

theorem readSegments_concat (ne : cs ≠ []) (kind : SchemeKind) (path : List (List Char)) :
    .segments (readSegments kind path (cs ++ ['/'])) =
      (Path.segments (readSegments kind path cs)).closed := by
  obtain ⟨front, c, rfl, notSlash⟩ := plain.exists_concat ne
  have other : c ≠ '/' := (plain c (by simp)).1
  rw [readSegments_slash]
  refine walk_closed (splitOn_ne_nil _ _) ?_
  rw [List.map_append, List.map_singleton, if_neg (by simp [notSlash])]
  exact getLast?_splitOn_concat_ne other _

theorem rootedSegments_concat (kind : SchemeKind) :
    .segments (rootedSegments kind (cs ++ ['/'])) =
      (Path.segments (rootedSegments kind cs)).closed := by
  rcases cs with _ | ⟨c, cs⟩
  · cases kind <;> rfl
  · rw [List.cons_append, rootedSegments, rootedSegments]
    split
    · next slash =>
      obtain ⟨behind, ne⟩ := plain.behind_slash slash
      exact readSegments_concat behind ne kind []
    · exact readSegments_concat plain (List.cons_ne_nil _ _) kind []

theorem readRooted_concat (kind : SchemeKind) :
    readRooted kind (cs ++ ['/']) = (readRooted kind cs).closed :=
  settled_closed (rootedSegments_concat plain kind)

/-- A slash at the end does not make a drive of the first segment. -/
theorem serving_concat (kind : SchemeKind) (a : Authority) :
    serving kind a (cs ++ ['/']) = serving kind a cs := by
  have closes := rootedSegments_concat plain kind
  rw [Path.closed, Path.segments.injEq] at closes
  have same : (rootedSegments kind (cs ++ ['/'])).head?.any isDrive =
      (rootedSegments kind cs).head?.any isDrive := by
    rw [closes]
    split
    · rfl
    · cases rootedSegments kind cs <;> rfl
  rw [serving, serving, same]

theorem readPath_concat (kind : SchemeKind) (a : Option Authority) :
    readPath kind a (cs ++ ['/']) = (readPath kind a cs).closed := by
  cases a with
  | some a => exact readRooted_concat plain kind
  | none =>
    rcases cs with _ | ⟨c, cs⟩
    · rfl
    · by_cases slash : c = '/'
      · subst slash
        have slash : isSlash .other '/' = true := by decide
        obtain ⟨behind, ne⟩ := plain.behind_slash slash
        exact readSegments_concat behind ne .other []
      · have own (cs : List Char) :
            readPath kind none (c :: cs) = .own (escape isControl (c :: cs)) := by
          simp [readPath, slash]
        rw [List.cons_append, own, own, ← List.cons_append, escape_append]
        obtain ⟨d, ds, hd⟩ := List.exists_cons_of_ne_nil
          (escape_ne_nil (List.cons_ne_nil c cs) : escape isControl (c :: cs) ≠ [])
        rw [hd]
        rfl

end Open

/-! ### Frames -/

/-- The host of a file, if it has one, and the rest. -/
def readFileFrame (cs : List Char) : Except Fault (Option Authority × List Char) :=
  if 2 ≤ slashes .file cs then
    (readFileHost (cs.drop 2)).map fun (host, rest) => (some ⟨[], [], host, none⟩, rest)
  else .ok (some ⟨[], [], none, none⟩, cs)

/-- The authority behind two slashes. -/
def readOwnFrame (scheme : String) (cs : List Char) :
    Except Fault (Option Authority × List Char) :=
  match cs with
  | '/' :: '/' :: rest => (readAuthority scheme rest).map fun (a, rest) => (some a, rest)
  | _ => .ok (none, cs)

/-- What stands in front of the path of an address, and the rest. -/
def readFrame (scheme : String) (cs : List Char) : Except Fault (Option Authority × List Char) :=
  match kindOf scheme with
  | .file => readFileFrame cs
  | .web => (readAuthority scheme (cs.dropWhile (isSlash .web))).map fun (a, rest) => (some a, rest)
  | .other => readOwnFrame scheme cs

theorem readOwnFrame_of_not (single : ∀ rest, cs = '/' :: '/' :: rest → False) :
    readOwnFrame scheme cs = .ok (none, cs) := by
  unfold readOwnFrame
  split
  · exact (single _ rfl).elim
  · rfl

theorem readFrame_suffix {a : Option Authority} (h : readFrame scheme cs = .ok (a, rest)) :
    rest <:+ cs := by
  unfold readFrame at h
  split at h
  · unfold readFileFrame at h
    split at h
    · obtain ⟨⟨host, rest⟩, read, ⟨⟩⟩ := map_eq_ok h
      exact (readFileHost_suffix read).trans (List.drop_suffix _ _)
    · cases h
      exact List.suffix_refl _
  · obtain ⟨⟨a, rest⟩, read, ⟨⟩⟩ := map_eq_ok h
    exact (readAuthority_suffix read).trans (List.dropWhile_suffix _)
  · unfold readOwnFrame at h
    split at h
    · obtain ⟨⟨a, rest⟩, read, ⟨⟩⟩ := map_eq_ok h
      exact (readAuthority_suffix read).trans ⟨['/', '/'], rfl⟩
    · cases h
      exact List.suffix_refl _

/-- Without an authority there is nothing in front of the path. -/
theorem readFrame_none (h : readFrame scheme cs = .ok (none, rest)) :
    kindOf scheme = .other ∧ rest = cs := by
  unfold readFrame at h
  split at h
  · unfold readFileFrame at h
    split at h
    · obtain ⟨⟨host, rest⟩, -, ⟨⟩⟩ := map_eq_ok h
    · cases h
  · obtain ⟨⟨a, rest⟩, -, ⟨⟩⟩ := map_eq_ok h
  · next other =>
    unfold readOwnFrame at h
    split at h
    · obtain ⟨⟨a, rest⟩, -, ⟨⟩⟩ := map_eq_ok h
    · cases h
      exact ⟨other, rfl⟩

section Open
variable {a : Option Authority} (plain : EndsOpen cs)
include plain

/-- The slashes in front of a text end within it, unless it is empty. -/
theorem EndsOpen.dropWhile_concat (ne : cs ≠ []) (kind : SchemeKind) :
    (cs ++ ['/']).dropWhile (isSlash kind) = cs.dropWhile (isSlash kind) ++ ['/'] := by
  obtain ⟨front, c, rfl, notSlash⟩ := plain.exists_concat ne
  rw [← List.append_cons, dropWhile_append_cons (notSlash _), dropWhile_append_cons (notSlash _),
    List.append_cons]

theorem EndsOpen.slashes_concat (ne : cs ≠ []) (kind : SchemeKind) :
    slashes kind (cs ++ ['/']) = slashes kind cs := by
  obtain ⟨front, c, rfl, notSlash⟩ := plain.exists_concat ne
  rw [slashes, ← List.append_cons, takeWhile_append_cons (notSlash _), slashes,
    takeWhile_append_cons (notSlash _)]

theorem readFileFrame_concat : readFileFrame (cs ++ ['/']) =
    (readFileFrame cs).map fun (a, rest) => (a, rest ++ ['/']) := by
  by_cases ne : cs = []
  · subst ne
    rfl
  unfold readFileFrame
  rw [plain.slashes_concat ne]
  split
  · next long =>
    have inside : 2 ≤ cs.length := long.trans (List.takeWhile_sublist _).length_le
    rw [List.drop_append_of_le_length inside, readFileHost_concat]
    cases readFileHost (cs.drop 2) <;> rfl
  · rfl

theorem readOwnFrame_concat (h : readOwnFrame scheme (cs ++ ['/']) = .ok (a, ds)) :
    ∃ rest, readOwnFrame scheme cs = .ok (a, rest) ∧ ds = rest ++ ['/'] := by
  by_cases double : ∃ rest, cs = '/' :: '/' :: rest
  · obtain ⟨rest, rfl⟩ := double
    obtain ⟨⟨a, all⟩, read, ⟨⟩⟩ := map_eq_ok h
    obtain ⟨rest, without, rfl⟩ := readAuthority_concat read
    exact ⟨rest, congrArg (Except.map _) without, rfl⟩
  · have single : ∀ rest, cs ++ ['/'] = '/' :: '/' :: rest → False := by
      intro rest same
      rcases cs with _ | ⟨c, _ | ⟨d, cs⟩⟩
      · cases same
      · exact (plain c rfl).1 (List.cons.inj same).1
      · simp only [List.cons_append, List.cons.injEq] at same
        exact double ⟨cs, by rw [same.1, same.2.1]⟩
    rw [readOwnFrame_of_not single] at h
    cases h
    exact ⟨cs, readOwnFrame_of_not fun rest same => double ⟨rest, same⟩, rfl⟩

theorem readFrame_concat (h : readFrame scheme (cs ++ ['/']) = .ok (a, ds)) :
    ∃ rest, readFrame scheme cs = .ok (a, rest) ∧ ds = rest ++ ['/'] := by
  unfold readFrame at h ⊢
  split at h
  · rw [readFileFrame_concat plain] at h
    obtain ⟨⟨a, rest⟩, read, ⟨⟩⟩ := map_eq_ok h
    exact ⟨rest, read, rfl⟩
  · next web =>
    -- Of an empty text the slash would be taken for one in front, but then there is no host.
    by_cases ne : cs = []
    · subst ne
      change Except.map _ (readAuthority scheme []) = _ at h
      rw [readAuthority_nil web] at h
      cases h
    · rw [plain.dropWhile_concat ne] at h
      obtain ⟨⟨a, all⟩, read, ⟨⟩⟩ := map_eq_ok h
      obtain ⟨rest, without, rfl⟩ := readAuthority_concat read
      exact ⟨rest, congrArg (Except.map _) without, rfl⟩
  · exact readOwnFrame_concat plain h

end Open

/-! ### Addresses -/

/-- The address of some parts. -/
def Parts.address (scheme : String) (authority : Option Authority) (p : Parts) : Url :=
  ⟨scheme, authority.map fun a => serving (kindOf scheme) a p.path,
    readPath (kindOf scheme) authority p.path, p.query, p.fragment⟩

theorem serving_of_ne (other : kind ≠ .file) (a : Authority) (cs : List Char) :
    serving kind a cs = a := if_neg fun h => other h.1

theorem kindOf_eq_file : kindOf scheme = .file ↔ scheme = "file" := by
  unfold kindOf
  constructor
  · split <;> simp_all
  · rintro rfl
    rfl

theorem readFrom_eq (other : kindOf scheme ≠ .file) (cs : List Char) : readFrom scheme cs =
    (readAuthority scheme cs).map fun (a, rest) =>
      (splitParts (kindOf scheme) rest).address scheme (some a) := by
  have same (a : Authority) (p : Parts) : p.address scheme (some a) =
      ⟨scheme, some a, readRooted (kindOf scheme) p.path, p.query, p.fragment⟩ := by
    simp only [Parts.address, Option.map_some, serving_of_ne other]
    rfl
  simp only [same]
  unfold readFrom
  cases readAuthority scheme cs <;> rfl

/-- An address behind its scheme is its frame and its parts. -/
theorem readBehindScheme_none (scheme : String) (cs : List Char) :
    readBehindScheme none scheme cs = (readFrame scheme cs).map fun (authority, rest) =>
      (splitParts (kindOf scheme) rest).address scheme authority := by
  unfold readBehindScheme readFrame
  cases hk : kindOf scheme with
  | file =>
    obtain rfl := kindOf_eq_file.1 hk
    dsimp only [Option.filter]
    unfold readFile readFileFrame
    split
    · cases readFileHost (cs.drop 2) <;> rfl
    · rfl
  | web =>
    dsimp only [Option.filter]
    rw [readFrom_eq (by rw [hk]; exact SchemeKind.noConfusion), hk]
    cases readAuthority scheme _ <;> rfl
  | other =>
    dsimp only
    split
    · next rest =>
      have frame : readOwnFrame scheme ('/' :: '/' :: rest) =
          (readAuthority scheme rest).map fun (a, rest) => (some a, rest) := rfl
      rw [readFrom_eq (by rw [hk]; exact SchemeKind.noConfusion), hk, frame]
      cases readAuthority scheme rest <;> rfl
    · next single =>
      rw [readOwnFrame_of_not single]
      simp only [Except.map, Parts.address, readPath, hk]
      rfl

/-- The address with a slash put behind its text. -/
def closed (u : Url) : Url :=
  match u.query, u.fragment with
  | none, none => { u with path := u.path.closed }
  | some query, none => { u with query := some (query ++ ['/']) }
  | _, some fragment => { u with fragment := some (fragment ++ ['/']) }

@[simp] theorem closed_scheme (u : Url) : u.closed.scheme = u.scheme := by
  unfold closed
  split <;> rfl

@[simp] theorem closed_authority (u : Url) : u.closed.authority = u.authority := by
  unfold closed
  split <;> rfl

theorem closed_of_none {u : Url} (query : u.query = none) (fragment : u.fragment = none) :
    u.closed = { u with path := u.path.closed } := by
  simp only [closed, query, fragment]

theorem closed_path {u : Url} (more : u.query ≠ none ∨ u.fragment ≠ none) :
    u.closed.path = u.path := by
  unfold closed
  split
  · next query fragment =>
    simp [query, fragment] at more
  · rfl
  · rfl

theorem address_closed (plain : EndsOpen cs) (scheme : String) (a : Option Authority) :
    (splitParts kind (cs ++ ['/'])).address scheme a =
      ((splitParts kind cs).address scheme a).closed := by
  rw [splitParts_concat]
  unfold Parts.closed closed
  cases query : (splitParts kind cs).query with
  | some query' =>
    cases fragment : (splitParts kind cs).fragment <;> simp [Parts.address, query, fragment]
  | none =>
    cases fragment : (splitParts kind cs).fragment with
    | some fragment' => simp [Parts.address, query, fragment]
    | none =>
      have all := path_splitParts query fragment
      simp only [Parts.address, query, fragment, all, readPath_concat plain, serving_concat plain]

/-! ### Texts -/

theorem splitScheme_concat (cs : List Char) : splitScheme (cs ++ ['/']) =
    (splitScheme cs).map fun (scheme, rest) => (scheme, rest ++ ['/']) := by
  have stop : isSchemeCharacter '/' = false := by decide
  unfold splitScheme
  rw [takeWhile_append_cons stop, dropWhile_append_cons stop]
  cases cs.takeWhile isSchemeCharacter with
  | nil => rfl
  | cons c front =>
    rcases cs.dropWhile isSchemeCharacter with _ | ⟨d, rest⟩
    · rfl
    · by_cases colon : d = ':'
      · subst colon
        change (if _ then _ else _) = Option.map _ (if _ then _ else _)
        split <;> rfl
      · simp [colon]

theorem splitScheme_eq_some (h : splitScheme cs = some (scheme, rest)) :
    ∃ front, cs = front ++ ':' :: rest := by
  unfold splitScheme at h
  split at h
  · next c front behind taken left =>
    split at h
    · cases h
      refine ⟨cs.takeWhile isSchemeCharacter, ?_⟩
      rw [← left, List.takeWhile_append_dropWhile]
    · cases h
  · cases h

theorem splitScheme_suffix (h : splitScheme cs = some (scheme, rest)) : rest <:+ cs := by
  obtain ⟨front, rfl⟩ := splitScheme_eq_some h
  exact (List.suffix_cons ':' rest).trans (List.suffix_append front _)

theorem kept_of_visible {c : Char} (visible : 0x20 < c.toNat) : c ≠ '\t' ∧ c ≠ '\n' ∧ c ≠ '\r' := by
  refine ⟨?_, ?_, ?_⟩ <;> rintro rfl <;> exact absurd visible (by decide)

/-- What is neither a control nor a blank stays at the end of a text. -/
theorem cleaned_concat {c : Char} (visible : 0x20 < c.toNat) (cs : List Char) :
    cleaned (cs ++ [c]) = (cs.dropWhile (·.toNat ≤ 0x20)).filter
      (fun c => c ≠ '\t' && c ≠ '\n' && c ≠ '\r') ++ [c] := by
  have shown : decide (c.toNat ≤ 0x20) = false := by simpa using visible
  unfold cleaned
  dsimp only
  rw [dropWhile_append_cons shown, List.reverse_append, List.reverse_singleton,
    List.singleton_append, List.dropWhile_cons_of_neg (by simp [shown]), List.reverse_cons,
    List.reverse_reverse, List.filter_append]
  simp [kept_of_visible visible]

/-- A slash is added to the cleaned text too, unless there is a control or a blank in front. -/
theorem cleaned_slash (visible : ∀ c ∈ cs.getLast?, 0x20 < c.toNat) :
    cleaned (cs ++ ['/']) = cleaned cs ++ ['/'] ∧ (cleaned cs).getLast? = cs.getLast? := by
  rcases List.eq_nil_or_concat' cs with rfl | ⟨front, c, rfl⟩
  · exact ⟨rfl, rfl⟩
  · have shown := visible c (by simp)
    have stop : decide (c.toNat ≤ 0x20) = false := by simpa using shown
    rw [cleaned_concat (by decide), cleaned_concat shown, dropWhile_append_cons stop,
      List.filter_append]
    simp [kept_of_visible shown]

theorem parse_eq (text : String) : parse text =
    match splitScheme (cleaned text.toList) with
    | some (scheme, rest) => readBehindScheme none scheme rest
    | none => .error .relativeWithoutBase := by
  unfold parse resolve
  dsimp only
  cases splitScheme (cleaned text.toList) <;> rfl

variable {text : String} {u : Url}

/-- What an address is read from. -/
theorem parse_eq_ok (h : parse text = .ok u) : ∃ scheme authority rest,
    rest <:+ cleaned text.toList ∧
    (authority = none →
      kindOf scheme = .other ∧ ∃ front, cleaned text.toList = front ++ ':' :: rest) ∧
    u = (splitParts (kindOf scheme) rest).address scheme authority := by
  rw [parse_eq] at h
  split at h
  · next scheme behind found =>
    rw [readBehindScheme_none] at h
    obtain ⟨⟨authority, rest⟩, read, rfl⟩ := map_eq_ok h
    refine ⟨scheme, authority, rest, (readFrame_suffix read).trans (splitScheme_suffix found), ?_,
      rfl⟩
    rintro rfl
    obtain ⟨other, rfl⟩ := readFrame_none read
    exact ⟨other, splitScheme_eq_some found⟩
  · cases h

/-- A slash behind the text of an address. -/
theorem parse_slash (visible : ∀ c ∈ text.toList.getLast?, 0x20 < c.toNat)
    (plain : EndsOpen text.toList) (h : parse (text ++ "/") = .ok u) :
    ∃ b, parse text = .ok b ∧ u = b.closed := by
  obtain ⟨cleans, last⟩ := cleaned_slash visible
  rw [parse_eq, String.toList_append] at h
  change (match splitScheme (cleaned (text.toList ++ ['/'])) with
    | some (scheme, rest) => readBehindScheme none scheme rest
    | none => .error .relativeWithoutBase) = .ok u at h
  rw [cleans, splitScheme_concat] at h
  rw [parse_eq]
  cases found : splitScheme (cleaned text.toList) with
  | none =>
    rw [found] at h
    cases h
  | some pair =>
    obtain ⟨scheme, behind⟩ := pair
    -- How the text ends is how the rest behind the scheme ends, and the rest behind the frame.
    have plain : EndsOpen (cleaned text.toList) := by rwa [EndsOpen, last]
    have plain : EndsOpen behind := forall_getLast?_of_suffix plain (splitScheme_suffix found)
    rw [found] at h
    dsimp only [Option.map] at h ⊢
    rw [readBehindScheme_none] at h ⊢
    obtain ⟨⟨authority, all⟩, read, rfl⟩ := map_eq_ok h
    obtain ⟨rest, without, rfl⟩ := readFrame_concat plain read
    refine ⟨_, by rw [without]; rfl, ?_⟩
    exact address_closed (forall_getLast?_of_suffix plain (readFrame_suffix without)) _ _

/-- The path of a text with a slash at its end is closed. -/
theorem parse_of_slash (h : parse (text ++ "/") = .ok u) (query : u.query = none)
    (fragment : u.fragment = none) :
    u.path ≠ .own [] ∧
      ∀ parts, u.path = .segments parts → parts = [] ∨ parts.getLast? = some [] := by
  obtain ⟨scheme, authority, rest, left, whole, rfl⟩ := parse_eq_ok h
  have all : (splitParts (kindOf scheme) rest).path = rest := path_splitParts query fragment
  have last : ∀ c ∈ (cleaned (text ++ "/").toList).getLast?, c = '/' := by
    rw [String.toList_append]
    change ∀ c ∈ (cleaned (text.toList ++ ['/'])).getLast?, c = '/'
    simp [cleaned_concat (show 0x20 < '/'.toNat by decide)]
  change readPath (kindOf scheme) authority (splitParts (kindOf scheme) rest).path ≠ _ ∧
    ∀ parts, readPath (kindOf scheme) authority (splitParts (kindOf scheme) rest).path = _ → _
  rw [all]
  rcases List.eq_nil_or_concat' rest with rfl | ⟨front, c, rfl⟩
  · cases authority with
    | some a =>
      refine ⟨Path.noConfusion, ?_⟩
      rintro parts ⟨⟩
      cases kindOf scheme
      case other => exact .inl rfl
      all_goals exact .inr rfl
    | none =>
      obtain ⟨-, front, ends⟩ := whole rfl
      exact absurd (last ':' (by rw [ends]; simp)) (by decide)
  · obtain rfl : c = '/' := forall_getLast?_of_suffix last left c (by simp)
    exact ⟨readPath_ne_own_nil (by simp), fun parts path => .inr (getLast?_readPath_slash path)⟩

/-- The path of an address has settled. -/
theorem settled_of_parse {parts : List (List Char)} (h : parse text = .ok u)
    (path : u.path = .segments parts) : settled u.kind parts = parts := by
  obtain ⟨scheme, authority, rest, -, without, rfl⟩ := parse_eq_ok h
  cases authority with
  | some a =>
    obtain rfl := Path.segments.inj path
    exact settled_settled _ _
  | none =>
    refine settled_of_ne ?_ parts
    rw [Url.kind, Parts.address, (without rfl).1]
    exact SchemeKind.noConfusion

theorem slash_not_mem_parse {parts : List (List Char)} (h : parse text = .ok u)
    (path : u.path = .segments parts) : ∀ s ∈ parts, '/' ∉ s := by
  obtain ⟨scheme, authority, rest, -, -, rfl⟩ := parse_eq_ok h
  exact slash_not_mem_readPath path

end FeedIngest.Url
