import FeedIngest.Proofs.Json.Numbers

/-! Skipping a value comes out behind it, with the frames around it left as they were. A scalar
is one step; a list or object is its entries one after the other, each of which ends in front of
a comma or the closing bracket. The depth does not matter. -/

namespace FeedIngest.Json

variable {frame : Frame} {lead value cs rest : List Char}

theorem skipValue_eq (frames : List Frame) (cs : List Char) : skipValue frames cs =
    match skipHead cs with
    | .error f => .error f
    | .ok (.after, rest) => skipRest frames rest
    | .ok (.value frame, rest) => skipValue (frame :: frames) rest := by
  rw [skipValue]
  split <;> simp_all

theorem skipRest_cons (frame : Frame) (frames : List Frame) (cs : List Char) :
    skipRest (frame :: frames) cs =
      match skipBehind frame cs with
      | .error f => .error f
      | .ok (true, rest) => skipValue (frame :: frames) rest
      | .ok (false, rest) => skipRest frames rest := by
  rw [skipRest]
  split <;> simp_all

@[simp] theorem skipRest_nil (cs : List Char) : skipRest [] cs = .ok cs := by
  rw [skipRest]

theorem skipValue_gap {g : List Char} (hg : Gap g) (frames : List Frame) (cs : List Char) :
    skipValue frames (g ++ cs) = skipValue frames cs := by
  have head : skipHead (g ++ cs) = skipHead cs := by
    rw [skipHead, skipHead, skipGap_append hg]
  rw [skipValue_eq, head, ← skipValue_eq]

/-- A skip comes out behind such a text, unless it goes on. -/
def Skips (value : List Char) : Prop :=
  ∀ frames rest, Ends rest → skipValue frames (value ++ rest) = skipRest frames rest

theorem skips_of_skipHead (h : ∀ rest, Ends rest → skipHead (value ++ rest) = .ok (.after, rest)) :
    Skips value := by
  intro frames rest ends
  rw [skipValue_eq, h rest ends]

/-! ### What leads up to a value -/

/-- What may lead up to a value in a frame. -/
def Frame.Leads : Frame → List Char → Prop
  | .list => Gap
  | .object => Keyed Pieces

/-- Whether a text begins as a value does. -/
def Starts (value : List Char) : Prop := ∃ c cs, value = c :: cs ∧ isGap c = false ∧ c ≠ ']'

theorem skipKey_keyed (h : Keyed Pieces lead) :
    ∃ g, Gap g ∧ ∀ cs, skipKey (lead ++ cs) = .ok (g ++ cs) := by
  cases h with
  | mk before key behind after hb hp hk ha =>
    refine ⟨after, ha, fun cs => ?_⟩
    simp only [List.append_assoc, List.cons_append]
    simp [skipKey, skipGap_append hb, skipGap_cons (c := '"') rfl, skipText_pieces hp,
      skipGap_append hk, skipGap_cons (c := ':') rfl]

/-- Behind a comma, what leads up to the next value is read but for whitespace. -/
theorem Frame.Leads.skipToValue (h : frame.Leads lead) :
    ∃ g, Gap g ∧ ∀ cs, frame.skipToValue (lead ++ cs) = .ok (g ++ cs) := by
  cases frame with
  | list => exact ⟨lead, h, fun _ => rfl⟩
  | object => exact skipKey_keyed h

/-- So it is behind the opening bracket. -/
theorem Frame.Leads.openFrame (h : frame.Leads lead) (hv : Starts value) :
    ∃ g, Gap g ∧ ∀ cs, openFrame frame (lead ++ (value ++ cs)) =
      .ok (.value frame, g ++ (value ++ cs)) := by
  cases frame with
  | list =>
    obtain ⟨c, ds, rfl, notGap, notClosing⟩ := hv
    refine ⟨[], by simp [Gap], fun cs => ?_⟩
    have lead : Gap lead := h
    simp [Json.openFrame, skipGap_append lead, skipGap_cons notGap, Frame.closing, notClosing,
      Frame.skipToValue, Except.map]
  | object =>
    obtain ⟨g, hg, read⟩ := skipKey_keyed h
    refine ⟨g, hg, fun cs => ?_⟩
    have skipped : skipKey (skipGap (lead ++ (value ++ cs))) = .ok (g ++ (value ++ cs)) := by
      rw [← read, skipKey, skipKey, skipGap_skipGap]
    cases h with
    | mk before key behind after hb hp hk ha =>
      simp only [List.append_assoc, List.cons_append, skipGap_append hb] at skipped ⊢
      rw [skipGap_cons (c := '"') rfl] at skipped
      simp [Json.openFrame, skipGap_append hb, skipGap_cons (c := '"') rfl, Frame.closing,
        Frame.skipToValue, skipped, Except.map]

/-! ### Lists and objects -/

def Frame.opening : Frame → Char
  | .list => '['
  | .object => '\x7b'

theorem skipHead_opening (frame : Frame) (cs : List Char) :
    skipHead (frame.opening :: cs) = openFrame frame cs := by
  cases frame <;> simp [skipHead, Frame.opening, skipGap_cons, isGap, Digits.isDigit, Digits.digit?]

/-- What stands behind an entry: the closing bracket, or a comma and the next entries. -/
def Frame.behind (frame : Frame) (entries : List Entry) (rest : List Char) : List Char :=
  match entries with
  | [] => frame.closing :: rest
  | e :: es => ',' :: (joined (e :: es) ++ frame.closing :: rest)

theorem joined_cons_append (frame : Frame) (e : Entry) (es : List Entry) (rest : List Char) :
    joined (e :: es) ++ frame.closing :: rest =
      e.lead ++ (e.value ++ (e.gap ++ frame.behind es rest)) := by
  cases es <;> simp [joined, Frame.behind]

theorem Frame.ends_behind (frame : Frame) (entries : List Entry) (rest : List Char) :
    Ends (frame.behind entries rest) := by
  cases entries with
  | nil => exact ends_closing frame rest
  | cons => exact ends_comma _

/-- The entries from a value on are skipped to the end of the frame. -/
theorem skip_entries (e : Entry) (es : List Entry) (leads : ∀ e ∈ es, frame.Leads e.lead)
    (skips : ∀ x ∈ e :: es, Skips x.value) (gaps : ∀ x ∈ e :: es, Gap x.gap) (frames : List Frame)
    (rest : List Char) :
    skipValue (frame :: frames) (e.value ++ (e.gap ++ frame.behind es rest)) =
      skipRest frames rest := by
  induction es generalizing e with
  | nil =>
    rw [List.forall_mem_singleton] at skips gaps
    rw [skips _ _ ((frame.ends_behind [] rest).gap gaps), skipRest_cons, skipBehind,
      skipGap_append gaps]
    cases frame <;>
      simp [Frame.behind, Frame.closing, skipGap_cons, isGap]
  | cons next es ih =>
    rw [List.forall_mem_cons] at skips gaps leads
    obtain ⟨g, hg, read⟩ := leads.1.skipToValue
    rw [skips.1 _ _ ((frame.ends_behind _ rest).gap gaps.1), skipRest_cons, skipBehind,
      skipGap_append gaps.1, Frame.behind, joined_cons_append, skipGap_cons (c := ',') rfl]
    simp only [if_true, read, Except.map]
    rw [skipValue_gap hg]
    exact ih next leads.2 skips.2 gaps.2

theorem skips_frame (frame : Frame) {entries : List Entry} (some : entries ≠ [])
    (leads : ∀ e ∈ entries, frame.Leads e.lead) (starts : ∀ e ∈ entries, Starts e.value)
    (skips : ∀ e ∈ entries, Skips e.value) (gaps : ∀ e ∈ entries, Gap e.gap) :
    Skips (frame.opening :: (joined entries ++ [frame.closing])) := by
  intro frames rest _
  cases entries with
  | nil => exact absurd rfl some
  | cons e es =>
    rw [List.forall_mem_cons] at leads starts
    obtain ⟨g, hg, read⟩ := leads.1.openFrame starts.1
    rw [List.cons_append, List.append_assoc, List.singleton_append, joined_cons_append,
      skipValue_eq, skipHead_opening, read]
    simp only
    rw [skipValue_gap hg]
    exact skip_entries e es leads.2 skips gaps frames rest

theorem skips_empty (frame : Frame) {gap : List Char} (h : Gap gap) :
    Skips (frame.opening :: (gap ++ [frame.closing])) := by
  apply skips_of_skipHead
  intro rest _
  rw [List.cons_append, List.append_assoc, List.singleton_append, skipHead_opening, openFrame,
    skipGap_append h]
  cases frame <;> simp [Frame.closing, skipGap_cons, isGap]

/-! ### Values -/

theorem Value.starts (h : Value value) : Starts value := by
  cases h with
  | number h =>
    obtain ⟨c, ds, rfl, hc⟩ := h.exists_cons
    refine ⟨c, ds, rfl, isGap_of_isDigit hc, ?_⟩
    rintro rfl
    cases hc
  | _ => exact ⟨_, _, rfl, rfl, by decide⟩

theorem skipHead_number (h : Unsigned value) (ends : Ends rest) :
    skipHead (value ++ rest) = .ok (.after, rest) := by
  have skipped := skipNumber_append h ends
  obtain ⟨c, ds, rfl, hc⟩ := h.exists_cons
  rw [List.cons_append] at skipped ⊢
  have other (d : Char) (hd : Digits.isDigit d = false) : c ≠ d := by
    rintro rfl
    rw [hc] at hd
    cases hd
  simp [skipHead, skipGap_cons (isGap_of_isDigit hc), hc, skipped, Except.map,
    other 'n' rfl, other 't' rfl, other 'f' rfl, other '-' rfl]

/-- Every value is skipped to its end, however deep it is. -/
theorem Value.skips (h : Value value) : Skips value := by
  induction h with
  | null | true | false => exact skips_of_skipHead fun _ _ => rfl
  | number h => exact skips_of_skipHead fun _ ends => skipHead_number h ends
  | negative h =>
    apply skips_of_skipHead
    intro rest ends
    simp [skipHead, skipGap_cons, isGap, skipNumber_append h ends, Except.map]
  | string h =>
    apply skips_of_skipHead
    intro rest _
    simp [skipHead, skipGap_cons, isGap, Digits.isDigit, Digits.digit?, skipText_pieces h,
      Except.map]
  | emptyList gap h => exact skips_empty .list h
  | list entries some leads values gaps ih =>
    exact skips_frame .list some leads (fun e he => (values e he).starts) ih gaps
  | emptyObject gap h => exact skips_empty .object h
  | object entries some leads values gaps ih =>
    exact skips_frame .object some leads (fun e he => (values e he).starts) ih gaps

end FeedIngest.Json
