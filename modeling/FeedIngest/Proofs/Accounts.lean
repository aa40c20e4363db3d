import FeedIngest.Proofs.Custody

/-! Accounts of a run without crashes. What a ledger tells of the whole run is what the
dispatcher did and the entries of the units of work; what it tells of the steps of one unit is
the entry of that unit. -/

namespace FeedIngest

namespace Pipeline

variable {loops : Loops} {p q : Pipeline} {i : Input} {events : List Event}

namespace Input

def isDispatch : Input → Bool
  | dispatch => true
  | _ => false

/-- Whether it is a step of the unit of work of that index. -/
def isUnit (index : Nat) : Input → Bool
  | unit k _ => k = index
  | _ => false

end Input

/-- A move leaves the units of work as they are, but for some at their start, or it is one of
them that moves. -/
theorem Move.units_cases (m : Move loops p i q events) :
    (∃ fresh, q.dispatch.units = p.dispatch.units ++ fresh ∧
      (∀ u ∈ fresh, u.phase = .fetching Fetch.start) ∧ (i.actor ≠ .unit ∨ events = [])) ∨
    ∃ index reply u v, i = .unit index reply ∧ p.dispatch.units[index]? = some u ∧ v.id = u.id ∧
      UnitOfWork.Move loops p.now p.cancelled reply u.id u.phase v.phase events ∧
      q.dispatch.units = p.dispatch.units.set index v := by
  obtain ⟨now, cancelled, channel, discovery, d⟩ := p
  cases m with
  | rest => exact .inl ⟨[], (List.append_nil _).symm, by simp, .inr rfl⟩
  | unit there same task => exact .inr ⟨_, _, _, _, rfl, there, same, task, rfl⟩
  | dispatch task =>
    cases task with
    | spawn =>
      exact .inl ⟨[.create _], rfl, by simp [UnitOfWork.create], .inl (by simp [Input.actor])⟩
    | _ => exact .inl ⟨[], (List.append_nil _).symm, by simp, .inl (by simp [Input.actor])⟩
  | _ => exact .inl ⟨[], (List.append_nil _).symm, by simp, .inl (by simp [Input.actor])⟩

/-- Without a crash, all units of work stay sound. -/
theorem Move.sound (m : Move loops p i q events) (hc : i.crashes = false)
    (h : ∀ u ∈ p.dispatch.units, u.phase.isSound = true) :
    ∀ u ∈ q.dispatch.units, u.phase.isSound = true := by
  rcases m.units_cases with ⟨fresh, hq, hf, -⟩ | ⟨index, reply, u, v, rfl, there, -, task, hq⟩
  · rw [hq]
    intro u hu
    rcases List.mem_append.1 hu with hu | hu
    · exact h u hu
    · rw [hf u hu]
      rfl
  · rw [hq]
    intro w hw
    rcases List.mem_or_eq_of_mem_set hw with hw | rfl
    · exact h w hw
    · apply task.sound (h u (List.mem_of_getElem? there))
      rintro r rfl
      match r with
      | .lookup (.error _) | .execute (.error _) => cases hc
      | .lookup (.ok _) | .execute (.ok _) => rfl

end Pipeline

namespace UnitOfWork.Ledger

variable {loops : Loops} {p q : Pipeline} {i : Pipeline.Input} {es events : List Event}
  {f : Event → List ItemId} {c : Phase → Bool} {told : List ItemId}

/-- A move adds to what is told of all what it adds to the entries, or what the dispatcher did. -/
theorem total (ledger : Ledger f c) (m : Pipeline.Move loops p i q events)
    (hs : ∀ u ∈ q.dispatch.units, u.phase.isSound = true)
    (h : (es.flatMap f).Perm (told ++ idsIn c p.dispatch.units)) :
    ((es ++ events).flatMap f).Perm
      ((told ++ (if i.isDispatch then events else []).flatMap f) ++ idsIn c q.dispatch.units) := by
  rw [List.flatMap_append]
  rcases m.units_cases with ⟨fresh, hq, hf, ha⟩ | ⟨index, reply, u, v, rfl, there, same, task, hq⟩
  · -- A unit at its start has entered nothing.
    have hfresh : idsIn c fresh = [] := by
      rw [idsIn, List.flatMap_eq_nil_iff]
      intro u hu
      rw [hf u hu, entry, ledger.fetching]
      rfl
    have he : events.flatMap f = (if i.isDispatch then events else []).flatMap f := by
      have hm := m.isOf
      cases i with
      | dispatch => rfl
      | discovery => exact ledger.discovery.flatMap hm
      | unit =>
        rcases ha with ha | rfl
        · exact absurd rfl ha
        · rfl
      | _ => exact ledger.outside.flatMap hm
    rw [hq, idsIn_append, hfresh, List.append_nil, ← he, List.perm_iff_count]
    intro id
    have := h.count_eq id
    simp only [List.count_append] at this ⊢
    omega
  · have hv : v ∈ q.dispatch.units := by
      rw [hq]
      exact List.mem_set (List.getElem?_eq_some_iff.1 there).1 v
    have hp := perm_idsIn_set there same (ledger.entry_eq task (hs v hv))
    rw [hq, List.perm_iff_count]
    intro id
    have h1 := h.count_eq id
    have h2 := hp.count_eq id
    simp only [List.count_append, Pipeline.Input.isDispatch, List.flatMap_nil, List.append_nil,
      Bool.false_eq_true, if_false] at h1 h2 ⊢
    omega

/-- A move adds to what is told of one unit of work what it adds to its entry. -/
theorem single (ledger : Ledger f c) (m : Pipeline.Move loops p i q events)
    (hs : ∀ u ∈ q.dispatch.units, u.phase.isSound = true) {k : Nat}
    (h : es.flatMap f = p.dispatch.units[k]?.elim [] fun u => entry c u.id u.phase) :
    (es ++ if i.isUnit k then events else []).flatMap f =
      q.dispatch.units[k]?.elim [] fun u => entry c u.id u.phase := by
  rw [List.flatMap_append, h]
  rcases m.units_cases with ⟨fresh, hq, hf, ha⟩ | ⟨index, reply, u, v, rfl, there, same, task, hq⟩
  · have he : (if i.isUnit k then events else []) = [] := by
      cases i with
      | unit =>
        rcases ha with ha | rfl
        · exact absurd rfl ha
        · exact ite_self _
      | _ => rfl
    have hfresh (k : Nat) : (fresh[k]?.elim [] fun u => entry c u.id u.phase) = [] := by
      cases hk : fresh[k]? with
      | none => rfl
      | some u =>
        rw [Option.elim_some, hf u (List.mem_of_getElem? hk), entry, ledger.fetching]
        rfl
    rw [he, hq, List.flatMap_nil, List.append_nil]
    by_cases hk : k < p.dispatch.units.length
    · rw [List.getElem?_append_left hk]
    · rw [List.getElem?_append_right (Nat.le_of_not_lt hk), hfresh,
        List.getElem?_eq_none (Nat.le_of_not_lt hk)]
      rfl
  · have hlt := (List.getElem?_eq_some_iff.1 there).1
    by_cases hk : index = k
    · subst hk
      have hv : v ∈ q.dispatch.units := by
        rw [hq]
        exact List.mem_set hlt v
      rw [hq, List.getElem?_set_self hlt, there, Option.elim_some, Option.elim_some, same,
        ledger.entry_eq task (hs v hv)]
      simp [Pipeline.Input.isUnit]
    · rw [hq, List.getElem?_set_ne hk]
      simp [Pipeline.Input.isUnit, hk]

end UnitOfWork.Ledger

namespace Pipeline

variable {loops : Loops} {p : Pipeline} {inputs : List Input} {capacity limit : Nat}
  {f : Event → List ItemId} {c : UnitOfWork.Phase → Bool}

/-- The dispatcher at its start, on an empty channel. -/
structure IsFresh (p : Pipeline) : Prop where
  phase : p.dispatch.phase = .starting
  units : p.dispatch.units = []
  buffer : p.channel.buffer = []

theorem isFresh_start (capacity limit : Nat) : (start capacity limit).IsFresh := ⟨rfl, rfl, rfl⟩

theorem custody_run (h : p.IsFresh) (hi : ∀ i ∈ inputs, i.sparesReceiver = true) :
    Custody (p.run loops inputs).events (p.run loops inputs).pipeline
      ((p.doneBy loops Input.isDispatch inputs).flatMap Event.abandons) := by
  induction inputs using List.reverseRecOn with
  | nil =>
    constructor
    · simp [Run.events, h.phase, h.units, h.buffer, doneBy, Dispatch.Phase.held]
    · simp [Run.events, h.units]
    · exact fun _ => rfl
    · rw [run_nil, h.phase]
      rintro ⟨⟩
  | append_singleton inputs i ih =>
    rw [List.forall_mem_append, List.forall_mem_singleton] at hi
    rw [run_concat, doneBy_concat, Run.events_step, Run.pipeline_step, List.flatMap_append]
    have ih := ih hi.1
    by_cases hd : i = .dispatch
    · subst hd
      exact ih.dispatch (Dispatch.poll_move _) rfl
    · have hn : i.isDispatch = false := by
        cases i <;> first | rfl | exact absurd rfl hd
      rw [hn, if_neg Bool.false_ne_true, List.flatMap_nil, List.append_nil]
      exact ih.move (step_move _ i) hi.2 hd

theorem sound_run (loops : Loops) (h : p.IsFresh) (hc : ∀ i ∈ inputs, i.crashes = false) :
    ∀ u ∈ (p.run loops inputs).pipeline.dispatch.units, u.phase.isSound = true := by
  apply run_induction (P := fun q _ => ∀ u ∈ q.dispatch.units, u.phase.isSound = true)
  · rw [h.units]
    exact fun u hu => absurd hu List.not_mem_nil
  · intro p i q events _ hi m hs
    exact m.sound (hc i hi) hs

theorem total_run (loops : Loops) (ledger : UnitOfWork.Ledger f c) (h : p.IsFresh)
    (hc : ∀ i ∈ inputs, i.crashes = false) :
    ((p.run loops inputs).collect f).Perm
      ((p.doneBy loops Input.isDispatch inputs).flatMap f ++
        UnitOfWork.idsIn c (p.run loops inputs).pipeline.dispatch.units) := by
  induction inputs using List.reverseRecOn with
  | nil => simp [doneBy, h.units]
  | append_singleton inputs i ih =>
    have hs := sound_run loops h hc
    rw [List.forall_mem_append, List.forall_mem_singleton] at hc
    rw [run_concat] at hs ⊢
    rw [doneBy_concat, List.flatMap_append, Run.collect, Run.events_step]
    exact ledger.total (step_move _ i) hs (ih hc.1)

/-- What the dispatcher's events do not tell, its steps do not. -/
theorem doneBy_dispatch (hf : Event.Silent f .dispatch) (p : Pipeline) (inputs : List Input) :
    (p.doneBy loops Input.isDispatch inputs).flatMap f = [] := by
  induction inputs generalizing p with
  | nil => rfl
  | cons i inputs ih =>
    rw [doneBy, List.flatMap_append, ih, List.append_nil]
    cases i with
    | dispatch => exact hf.flatMap (step_move p .dispatch).isOf
    | _ => rfl

end Pipeline
end FeedIngest
