import FeedIngest.Proofs.Item.Accepting

/-! Headers that stand as lists. The fields come in their order and none is left out, so that there
are three values and no more; an author or time that there is none of is null. These lists and the
objects are all texts from which a header is read. -/

namespace FeedIngest.Header

open Json

variable {g lead cs v rest : List Char} {h : Header}

/-- The texts of lists of the fields. -/
inductive Listed (h : Header) : List Char → Prop
  | list {before behind : List Char} {id author time : Entry} (hb : Gap before) (ha : Gap behind)
    (leads : ∀ e ∈ [id, author, time], Gap e.lead) (gaps : ∀ e ∈ [id, author, time], Gap e.gap)
    (idText : id.value = (toString h.id.toNat).toList)
    (authorText : AuthorText h.author author.value) (timeText : TimeText h.time time.value) :
    Listed h (before ++ '[' :: (joined [id, author, time] ++ ']' :: behind))

theorem Listed.skipGap (listed : h.Listed cs) : ∃ rest, Json.skipGap cs = '[' :: rest := by
  obtain ⟨hb, -⟩ := listed
  exact ⟨_, by rw [skipGap_append hb, skipGap_cons rfl]⟩

theorem Listed.no_object {members : List (String × List Char)} (listed : h.Listed cs) :
    ¬ ObjectText members cs := by
  intro object
  obtain ⟨rest, bracket⟩ := listed.skipGap
  obtain ⟨rest', brace⟩ := skipGap_object object
  cases bracket.symm.trans brace

/-! ### What is read from a list -/

theorem AuthorText.value {author : Option String} (h : AuthorText author v) : Value v := by
  rcases h with ⟨-, rfl⟩ | ⟨s, u, -, spelled, rfl⟩
  · exact .null
  · exact .string spelled.pieces

theorem TimeText.value {time : Option Int} (h : TimeText time v) : Value v := by
  rcases h with ⟨-, rfl⟩ | ⟨t, -, rfl⟩
  · exact .null
  · exact value_integer t

theorem AuthorText.read {author : Option String} (written : AuthorText author v)
    (rest : List Char) : readAuthor (v ++ rest) = .ok (author, rest) := by
  rcases written with ⟨rfl, rfl⟩ | ⟨s, u, rfl, spelled, rfl⟩
  · exact readOptional_null readString (g := []) (by simp [Gap]) rest
  · have value := readString_written spelled rest
    rw [List.cons_append, List.append_assoc]
    exact readOptional_some (g := []) (by simp [Gap]) rfl (by decide) value

theorem TimeText.read {time : Option Int} (written : TimeText time v)
    (fits : ∀ t ∈ time, -9223372036854775808 ≤ t ∧ t ≤ 9223372036854775807) (ends : Ends rest) :
    readTime (v ++ rest) = .ok (time, rest) := by
  rcases written with ⟨rfl, rfl⟩ | ⟨t, rfl, rfl⟩
  · exact readOptional_null _ (g := []) (by simp [Gap]) rest
  · obtain ⟨least, greatest⟩ := fits t rfl
    exact readTime_written least greatest (g := []) (by simp [Gap]) ends

theorem readElement_zero {α : Type} (read : List Char → Except Failure (α × List Char))
    (hg : Gap g) (starts : Starts v) (rest : List Char) :
    readElement 0 read (g ++ (v ++ rest)) = read (v ++ rest) := by
  obtain ⟨c, ds, rfl, notGap, notClosing⟩ := starts
  simp [readElement, skipGap_append hg, skipGap_cons notGap, notClosing]

theorem readElement_later {α : Type} {before : Nat} (later : before ≠ 0)
    (read : List Char → Except Failure (α × List Char)) (hg : Gap g) (hl : Gap lead)
    (starts : Starts v) (rest : List Char) :
    readElement before read (g ++ ',' :: (lead ++ (v ++ rest))) = read (v ++ rest) := by
  obtain ⟨c, ds, rfl, notGap, notClosing⟩ := starts
  simp [readElement, skipGap_append hg, skipGap_cons (c := ',') rfl, later, skipGap_append hl,
    skipGap_cons notGap, notClosing]

theorem read_listed (listed : h.Listed cs) (fits : h.TimeFits) : read cs = .ok h := by
  obtain ⟨hb, ha, leads, gaps, idText, authorText, timeText⟩ := listed
  rename_i before behind id author time
  simp only [List.forall_mem_cons, List.not_mem_nil, false_implies, implies_true, and_true]
    at leads gaps
  have ends (es : List Entry) : Ends (Frame.list.behind es behind) :=
    Frame.list.ends_behind es behind
  have first : readElement 0 readId (joined [id, author, time] ++ ']' :: behind) =
      .ok (h.id, id.gap ++ Frame.list.behind [author, time] behind) := by
    have starts : Starts id.value := idText ▸ (value_natural h.id.toNat).starts
    have text : joined [id, author, time] ++ ']' :: behind = _ :=
      joined_cons_append .list id [author, time] behind
    rw [text, readElement_zero readId leads.1 starts, idText]
    exact readId_written h (g := []) (by simp [Gap]) ((ends _).gap gaps.1)
  have second : readElement 1 readAuthor (id.gap ++ Frame.list.behind [author, time] behind) =
      .ok (h.author, author.gap ++ Frame.list.behind [time] behind) := by
    rw [Frame.behind, joined_cons_append, readElement_later Nat.one_ne_zero readAuthor gaps.1
      leads.2.1 authorText.value.starts, authorText.read]
  have third : readElement 2 readTime (author.gap ++ Frame.list.behind [time] behind) =
      .ok (h.time, time.gap ++ ']' :: behind) := by
    rw [Frame.behind, joined_cons_append, readElement_later (Nat.succ_ne_zero 1) readTime gaps.2.1
      leads.2.2 timeText.value.starts, timeText.read fits ((ends []).gap gaps.2.2)]
    rfl
  have closing : readListEnd (time.gap ++ ']' :: behind) = .ok behind := by
    simp [readListEnd, skipGap_append gaps.2.2, skipGap_cons (c := ']') rfl]
  have list : readList (joined [id, author, time] ++ ']' :: behind) = .ok (h, behind) := by
    rw [readList, first]
    simp only [bind, Except.bind, second, third, closing, pure, Except.pure]
  rw [read, readValue, skipGap_append hb, skipGap_cons (c := '[') rfl]
  simp [list, skipGap_eq_nil ha]

/-! ### What has been read as a list -/

theorem readElement_zero_eq_ok {α : Type} {a : α}
    {read : List Char → Except Failure (α × List Char)}
    (h : readElement 0 read cs = .ok (a, rest)) :
    ∃ g ds, Gap g ∧ cs = g ++ ds ∧ read ds = .ok (a, rest) := by
  unfold readElement at h
  split at h
  case h_1 => cases h
  case h_2 c ds skipped =>
    obtain ⟨g, hg, hc⟩ := exists_of_skipGap skipped
    split at h
    case isTrue => cases h
    case isFalse => exact ⟨g, c :: ds, hg, hc, h⟩

theorem readElement_eq_ok {α : Type} {before : Nat} {a : α}
    {read : List Char → Except Failure (α × List Char)} (later : before ≠ 0)
    (h : readElement before read cs = .ok (a, rest)) :
    ∃ g lead ds, Gap g ∧ Gap lead ∧ cs = g ++ ',' :: (lead ++ ds) ∧ read ds = .ok (a, rest) := by
  unfold readElement at h
  split at h
  case h_1 => cases h
  case h_2 c ds skipped =>
    obtain ⟨g, hg, hc⟩ := exists_of_skipGap skipped
    split at h
    case isTrue => cases h
    case isFalse =>
      split at h
      case isFalse => cases h
      case isTrue comma =>
        split at h
        case h_1 => cases h
        case h_2 d es skipped =>
          obtain ⟨lead, hl, rfl⟩ := exists_of_skipGap skipped
          split at h
          case isTrue => cases h
          case isFalse => exact ⟨g, lead, d :: es, hg, hl, by rw [hc, comma], h⟩

theorem readListEnd_eq_ok (h : readListEnd cs = .ok rest) : ∃ g, Gap g ∧ cs = g ++ ']' :: rest := by
  unfold readListEnd at h
  split at h
  case h_1 => cases h
  case h_2 c ds skipped =>
    obtain ⟨g, hg, hc⟩ := exists_of_skipGap skipped
    split at h
    case isTrue bracket => cases h; exact ⟨g, hg, by rw [hc, bracket]⟩
    case isFalse =>
      split at h
      · split at h <;> cases h
      · cases h

theorem listed_of_readList (hg : Gap g) (list : readList cs = .ok (h, rest)) (ends : Gap rest) :
    h.Listed (g ++ '[' :: cs) ∧ h.TimeFits := by
  unfold readList at list
  obtain ⟨⟨id, behindId⟩, first, list⟩ := bind_eq_ok list
  obtain ⟨⟨author, behindAuthor⟩, second, list⟩ := bind_eq_ok list
  obtain ⟨⟨time, behindTime⟩, third, list⟩ := bind_eq_ok list
  obtain ⟨behind, closing, list⟩ := bind_eq_ok list
  cases list
  obtain ⟨lead₁, _, hl₁, rfl, readsId⟩ := readElement_zero_eq_ok first
  obtain ⟨after₁, ha₁, rfl⟩ := readId_eq_ok readsId
  obtain ⟨gap₁, lead₂, _, hg₁, hl₂, rfl, readsAuthor⟩ := readElement_eq_ok (by decide) second
  obtain ⟨after₂, v₂, ha₂, written₂, rfl⟩ := readAuthor_eq_ok readsAuthor
  obtain ⟨gap₂, lead₃, _, hg₂, hl₃, rfl, readsTime⟩ := readElement_eq_ok (by decide) third
  obtain ⟨⟨after₃, v₃, ha₃, written₃, rfl⟩, fits⟩ := readTime_eq_ok readsTime
  obtain ⟨gap₃, hg₃, rfl⟩ := readListEnd_eq_ok closing
  have listed : Listed ⟨id, author, time⟩ (g ++ '[' :: (joined
      [⟨lead₁ ++ after₁, (toString id.toNat).toList, gap₁⟩, ⟨lead₂ ++ after₂, v₂, gap₂⟩,
        ⟨lead₃ ++ after₃, v₃, gap₃⟩] ++ ']' :: rest)) := by
    refine .list hg ends ?_ ?_ rfl written₂ written₃
    · simpa using ⟨hl₁.append ha₁, hl₂.append ha₂, hl₃.append ha₃⟩
    · simpa using ⟨hg₁, hg₂, hg₃⟩
  exact ⟨by simpa [joined] using listed, fits⟩

/-! ### All headers -/

theorem exists_of_read (accepted : read cs = .ok h) :
    (h.Written cs ∨ h.Listed cs) ∧ h.TimeFits := by
  unfold read at accepted
  split at accepted
  case h_1 => cases accepted
  case h_2 header after value =>
    split at accepted
    case h_2 => cases accepted
    case h_1 ends =>
      cases accepted
      unfold readValue at value
      split at value
      case h_1 => cases value
      case h_2 c ds skipped =>
        obtain ⟨g, hg, rfl⟩ := exists_of_skipGap skipped
        split at value
        case isTrue bracket =>
          obtain ⟨listed, fits⟩ := listed_of_readList hg value (gap_of_skipGap ends)
          exact ⟨.inr (bracket ▸ listed), fits⟩
        split at value
        case isTrue brace =>
          obtain ⟨written, fits⟩ := written_of_readObject hg value (gap_of_skipGap ends)
          exact ⟨.inl (brace ▸ written), fits⟩
        case isFalse => cases value

/-- A header is read from the objects and the lists that it is written as, and from nothing else. -/
theorem read_eq_ok_iff : read cs = .ok h ↔ (h.Written cs ∨ h.Listed cs) ∧ h.TimeFits := by
  constructor
  · exact exists_of_read
  · rintro ⟨written | listed, fits⟩
    · exact read_written written fits
    · exact read_listed listed fits

end FeedIngest.Header
