import FeedIngest.Proofs.Json.Scanning
import FeedIngest.Proofs.Json.Skipping

/-! What is skipped as a value is one of the grammar, whatever frames are around it. What a frame
still demands of a text is told by its entries from there on; a value that opens a frame is put
together when the frame has ended. -/

namespace FeedIngest.Json

variable {frame : Frame} {key : List Char → Prop} {lead g cs rest : List Char}

/-! ### What leads up to a value -/

theorem Keyed.gap_append (hg : Gap g) (h : Keyed key lead) : Keyed key (g ++ lead) := by
  obtain ⟨before, cs, behind, after, hb, hk, hc, ha⟩ := h
  rw [← List.append_assoc]
  exact .mk (g ++ before) cs behind after (hg.append hb) hk hc ha

theorem Keyed.append_gap (h : Keyed key lead) (hg : Gap g) : Keyed key (lead ++ g) := by
  obtain ⟨before, cs, behind, after, hb, hk, hc, ha⟩ := h
  have text : before ++ '"' :: (cs ++ '"' :: (behind ++ ':' :: after)) ++ g =
      before ++ '"' :: (cs ++ '"' :: (behind ++ ':' :: (after ++ g))) := by
    simp only [List.append_assoc, List.cons_append]
  rw [text]
  exact .mk before cs behind (after ++ g) hb hk hc (ha.append hg)

theorem Frame.Leads.gap_append (hg : Gap g) (h : frame.Leads lead) : frame.Leads (g ++ lead) := by
  cases frame with
  | list => exact Gap.append hg h
  | object => exact Keyed.gap_append hg h

theorem Frame.Leads.append_gap (h : frame.Leads lead) (hg : Gap g) : frame.Leads (lead ++ g) := by
  cases frame with
  | list => exact Gap.append h hg
  | object => exact Keyed.append_gap h hg

theorem keyed_of_skipKey (h : skipKey cs = .ok rest) :
    ∃ lead, Keyed Pieces lead ∧ cs = lead ++ rest := by
  unfold skipKey at h
  split at h
  case h_1 => cases h
  case h_2 c ds skipped =>
    obtain ⟨before, hb, rfl⟩ := exists_of_skipGap skipped
    split at h
    case isFalse => cases h
    case isTrue quote =>
      split at h
      case h_1 => cases h
      case h_2 behind text =>
        obtain ⟨u, hu, rfl⟩ := pieces_of_skipText text
        split at h
        case h_1 => cases h
        case h_2 d es skipped =>
          obtain ⟨gap, hg, rfl⟩ := exists_of_skipGap skipped
          split at h
          case isFalse => cases h
          case isTrue colon =>
            cases h
            refine ⟨_, .mk before u gap [] hb hu hg (by simp [Gap]), ?_⟩
            rw [quote, colon]
            simp only [List.append_assoc, List.cons_append, List.nil_append]

theorem Frame.leads_of_skipToValue (h : frame.skipToValue cs = .ok rest) :
    ∃ lead, frame.Leads lead ∧ cs = lead ++ rest := by
  cases frame with
  | list => cases h; exact ⟨[], by simp [Leads, Gap], rfl⟩
  | object => exact keyed_of_skipKey h

/-! ### One step -/

/-- Behind an opening bracket the frame ends at once, or a value comes. -/
theorem of_openFrame {next : Next} (h : openFrame frame cs = .ok (next, rest)) :
    (next = .after ∧ ∃ g, Gap g ∧ cs = g ++ frame.closing :: rest) ∨
      (next = .value frame ∧ ∃ lead, frame.Leads lead ∧ cs = lead ++ rest) := by
  unfold openFrame at h
  split at h
  case h_1 => cases h
  case h_2 c ds skipped =>
    obtain ⟨g, hg, rfl⟩ := exists_of_skipGap skipped
    split at h
    case isTrue closing =>
      cases h
      exact .inl ⟨rfl, g, hg, by rw [closing]⟩
    case isFalse =>
      obtain ⟨r, value, e⟩ := map_eq_ok h
      cases e
      obtain ⟨lead, hl, hc⟩ := Frame.leads_of_skipToValue value
      refine .inr ⟨rfl, g ++ lead, hl.gap_append hg, ?_⟩
      rw [hc, List.append_assoc]

/-- The head of a value comes first: a scalar, an empty list or object, or the opening bracket of
one that is not. -/
def Heads (next : Next) (cs rest : List Char) : Prop :=
  (next = .after ∧ ∃ v, Value v ∧ cs = v ++ rest) ∨
    ∃ frame, next = .value frame ∧ ∃ lead, frame.Leads lead ∧ cs = frame.opening :: (lead ++ rest)

theorem heads_of_scalar {next : Next} {read : Except Failure (List Char)}
    (h : read.map (Next.after, ·) = .ok (next, rest))
    (value : read = .ok rest → ∃ v, Value v ∧ cs = v ++ rest) : Heads next cs rest := by
  obtain ⟨r, read, e⟩ := map_eq_ok h
  cases e
  exact .inl ⟨rfl, value read⟩

theorem Frame.heads_of_openFrame {next : Next} (h : openFrame frame cs = .ok (next, rest)) :
    Heads next (frame.opening :: cs) rest := by
  have empty {g : List Char} (hg : Gap g) : Value (frame.opening :: (g ++ [frame.closing])) := by
    cases frame with
    | list => exact .emptyList g hg
    | object => exact .emptyObject g hg
  rcases of_openFrame h with ⟨rfl, g, hg, rfl⟩ | ⟨rfl, lead, hl, rfl⟩
  · refine .inl ⟨rfl, _, empty hg, ?_⟩
    simp only [List.append_assoc, List.cons_append, List.nil_append]
  · exact .inr ⟨frame, rfl, lead, hl, rfl⟩

theorem heads_of_skipHead {next : Next} (h : skipHead cs = .ok (next, rest)) :
    ∃ g ds, Gap g ∧ cs = g ++ ds ∧ Heads next ds rest := by
  unfold skipHead at h
  split at h
  case h_1 => cases h
  case h_2 c ds skipped =>
    obtain ⟨g, hg, rfl⟩ := exists_of_skipGap skipped
    refine ⟨g, c :: ds, hg, rfl, ?_⟩
    split at h
    case isTrue e =>
      exact heads_of_scalar h fun word => ⟨_, .null, by rw [e, eq_of_readWord word]; rfl⟩
    split at h
    case isTrue e =>
      exact heads_of_scalar h fun word => ⟨_, .true, by rw [e, eq_of_readWord word]; rfl⟩
    split at h
    case isTrue e =>
      exact heads_of_scalar h fun word => ⟨_, .false, by rw [e, eq_of_readWord word]; rfl⟩
    split at h
    case isTrue e =>
      refine heads_of_scalar h fun number => ?_
      obtain ⟨u, hu, rfl⟩ := unsigned_of_skipNumber number
      exact ⟨'-' :: u, .negative hu, by rw [e]; rfl⟩
    split at h
    case isTrue =>
      refine heads_of_scalar h fun number => ?_
      obtain ⟨u, hu, hc⟩ := unsigned_of_skipNumber number
      exact ⟨u, .number hu, hc⟩
    split at h
    case isTrue e =>
      refine heads_of_scalar h fun text => ?_
      obtain ⟨u, hu, rfl⟩ := pieces_of_skipText text
      refine ⟨_, .string hu, ?_⟩
      rw [e, List.cons_append, List.append_assoc]
      rfl
    split at h
    case isTrue e => rw [e]; exact Frame.heads_of_openFrame h
    split at h
    case isTrue e => rw [e]; exact Frame.heads_of_openFrame h
    case isFalse => cases h

/-- Behind a value comes a comma and the next, or the closing bracket. -/
theorem of_skipBehind {more : Bool} (h : skipBehind frame cs = .ok (more, rest)) :
    ∃ g, Gap g ∧ if more then ∃ lead, frame.Leads lead ∧ cs = g ++ ',' :: (lead ++ rest)
      else cs = g ++ frame.closing :: rest := by
  unfold skipBehind at h
  split at h
  case h_1 => cases h
  case h_2 c ds skipped =>
    obtain ⟨g, hg, rfl⟩ := exists_of_skipGap skipped
    refine ⟨g, hg, ?_⟩
    split at h
    case isTrue comma =>
      obtain ⟨r, value, e⟩ := map_eq_ok h
      cases e
      obtain ⟨lead, hl, rfl⟩ := Frame.leads_of_skipToValue value
      exact ⟨lead, hl, by rw [comma]⟩
    case isFalse =>
      split at h
      case isTrue closing => cases h; rw [closing]; rfl
      case isFalse => cases h

/-! ### Whole values -/

/-- An entry that may stand in a frame. -/
structure Frame.Holds (frame : Frame) (e : Entry) : Prop where
  lead : frame.Leads e.lead
  value : Value e.value
  gap : Gap e.gap

/-- The entries of a frame make a value. -/
theorem Frame.value {entries : List Entry} (there : entries ≠ [])
    (h : ∀ e ∈ entries, frame.Holds e) :
    Value (frame.opening :: (joined entries ++ [frame.closing])) := by
  have leads : ∀ e ∈ entries, frame.Leads e.lead := fun e he => (h e he).lead
  have values : ∀ e ∈ entries, Value e.value := fun e he => (h e he).value
  have gaps : ∀ e ∈ entries, Gap e.gap := fun e he => (h e he).gap
  cases frame with
  | list => exact .list entries there leads values gaps
  | object => exact .object entries there leads values gaps

/-- A value comes first, and what remains of the frames is skipped behind it. -/
def Passes (frames : List Frame) (cs rest : List Char) : Prop :=
  ∃ g v behind, Gap g ∧ Value v ∧ cs = g ++ (v ++ behind) ∧ skipRest frames behind = .ok rest

/-- The entries of the innermost frame come first, and then the other frames are skipped. -/
def Leaves (frame : Frame) (frames : List Frame) (cs rest : List Char) : Prop :=
  ∃ g entries behind, Gap g ∧ (∀ e ∈ entries, frame.Holds e) ∧
    cs = g ++ frame.behind entries behind ∧ skipRest frames behind = .ok rest

/-- What is skipped from such a text on is of the grammar. -/
structure Conforms (cs : List Char) : Prop where
  passes : ∀ {frames rest}, skipValue frames cs = .ok rest → Passes frames cs rest
  leaves : ∀ {frame frames rest}, skipRest (frame :: frames) cs = .ok rest →
    Leaves frame frames cs rest

section Step
variable {frames : List Frame} (shorter : ∀ ds : List Char, ds.length < cs.length → Conforms ds)
include shorter

/-- A value and the entries behind it are entries of the frame. -/
theorem Conforms.entries {lead ds : List Char} (less : ds.length < cs.length)
    (hl : frame.Leads lead) (h : skipValue (frame :: frames) ds = .ok rest) :
    ∃ e es behind, (∀ x ∈ e :: es, frame.Holds x) ∧
      lead ++ ds = joined (e :: es) ++ frame.closing :: behind ∧
      skipRest frames behind = .ok rest := by
  obtain ⟨g, v, after, hg, hv, rfl, skipped⟩ := (shorter ds less).passes h
  have le : after.length ≤ (g ++ (v ++ after)).length := by
    simp only [List.length_append]
    omega
  obtain ⟨g', es, behind, hg', hes, rfl, remains⟩ :=
    (shorter after (Nat.lt_of_le_of_lt le less)).leaves skipped
  refine ⟨⟨lead ++ g, v, g'⟩, es, behind, ?_, ?_, remains⟩
  · exact List.forall_mem_cons.2 ⟨⟨hl.append_gap hg, hv, hg'⟩, hes⟩
  · rw [joined_cons_append, List.append_assoc]

theorem Conforms.passes_step (h : skipValue frames cs = .ok rest) : Passes frames cs rest := by
  rw [skipValue_eq] at h
  split at h
  case h_1 => cases h
  case h_2 after head =>
    obtain ⟨g, ds, hg, rfl, ⟨-, v, hv, rfl⟩ | ⟨frame, e, -⟩⟩ := heads_of_skipHead head
    · exact ⟨g, v, after, hg, hv, rfl, h⟩
    · cases e
  case h_3 frame after head =>
    have less := length_of_skipHead head
    obtain ⟨g, ds, hg, rfl, ⟨e, -⟩ | ⟨frame', e, lead, hl, rfl⟩⟩ := heads_of_skipHead head
    · cases e
    cases e
    obtain ⟨e, es, behind, holds, text, remains⟩ := Conforms.entries shorter less hl h
    refine ⟨g, _, behind, hg, Frame.value (List.cons_ne_nil e es) holds, ?_, remains⟩
    rw [text]
    simp only [List.append_assoc, List.cons_append, List.nil_append]

theorem Conforms.leaves_step (h : skipRest (frame :: frames) cs = .ok rest) :
    Leaves frame frames cs rest := by
  rw [skipRest_cons] at h
  split at h
  case h_1 => cases h
  case h_2 after step =>
    have less := length_of_skipBehind step
    obtain ⟨g, hg, lead, hl, hc⟩ := of_skipBehind step
    obtain ⟨e, es, behind, holds, text, remains⟩ := Conforms.entries shorter less hl h
    exact ⟨g, e :: es, behind, hg, holds, by rw [hc, text]; rfl, remains⟩
  case h_3 after step =>
    obtain ⟨g, hg, hc⟩ := of_skipBehind step
    exact ⟨g, [], after, hg, by simp, hc, h⟩

end Step

/-- By induction on the length of the text, as each step reads some of it. -/
theorem conforms (cs : List Char) : Conforms cs := by
  induction cs using (measure List.length).wf.induction with
  | _ cs shorter => exact ⟨Conforms.passes_step shorter, Conforms.leaves_step shorter⟩

/-- What is skipped as a value is one, behind whitespace. -/
theorem value_of_skipValue (h : skipValue [] cs = .ok rest) :
    ∃ g v, Gap g ∧ Value v ∧ cs = g ++ (v ++ rest) := by
  obtain ⟨g, v, behind, hg, hv, hc, skipped⟩ := (conforms cs).passes h
  rw [skipRest_nil] at skipped
  cases skipped
  exact ⟨g, v, hg, hv, hc⟩

end FeedIngest.Json
