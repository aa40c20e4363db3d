import FeedIngest.Proofs.Accounts

/-! One unit of work followed through a run. It is there from the step that creates it, keeps
its place, and is changed by its own steps only. So what every such step keeps, of the unit and
of what it did so far, holds of each unit at any time. -/

namespace FeedIngest

namespace UnitOfWork

/-- What a unit has become after one step. -/
abbrev after (loops : Loops) (now : Nat) (cancelled : Bool) (reply : Option Reply)
    (u : UnitOfWork) : UnitOfWork :=
  (u.poll loops now cancelled reply).1

/-- What a unit does in one step. -/
abbrev does (loops : Loops) (now : Nat) (cancelled : Bool) (reply : Option Reply)
    (u : UnitOfWork) : List Event :=
  (u.poll loops now cancelled reply).2

/-- A fetch that goes on is not over. -/
def Phase.isProper : Phase → Bool
  | fetching f => !f.isOver
  | _ => true

section Move
variable {loops : Loops} {now : Nat} {cancelled : Bool} {reply : Option Reply} {id : ItemId}
  {before after : Phase} {item : Item} {events : List Event}

theorem Move.proper (m : Move loops now cancelled reply id before after events) :
    after.isProper = true := by
  cases m with
  | fetch more => simp [Phase.isProper, more]
  | _ => rfl

/-- What is found is the item that the unit's lookup is answered with. -/
theorem reply_of_found {f : Fetch.Phase} (step : Fetch.Move loops.timer loops.policy id now
      cancelled (reply.bind Reply.lookup?) f (.found item) events)
    (hb : (Phase.fetching f).isProper = true) :
    cancelled = false ∧ reply = some (.lookup (.ok (.ok (.available item)))) ∧
      events = [.lookupAnswered id (.ok (.available item))] := by
  obtain ⟨-, running, answered, he⟩ :=
    Fetch.answer_of_found step (by simpa [Phase.isProper] using hb)
  obtain ⟨r, rfl, hr⟩ := Option.bind_eq_some_iff.1 answered
  cases r with
  | lookup answer =>
    obtain rfl : answer = _ := Option.some.inj hr
    exact ⟨running, rfl, he⟩
  | execute => cases hr

/-- The item that a unit has stored is the one that its lookup was answered with. -/
theorem Move.storing {since : Nat}
    (m : Move loops now cancelled reply id before (.storing item since) events)
    (hb : before.isProper = true) :
    before = .storing item since ∨ reply = some (.lookup (.ok (.ok (.available item)))) := by
  generalize ha : Phase.storing item since = after at m
  cases m with
  | find step =>
    cases ha
    exact .inr (reply_of_found step hb).2.1
  | await => exact .inl rfl
  | _ => cases ha

/-- A step has nothing stored, or it has an item stored that the lookup is answered with. -/
theorem Move.executes_cases (m : Move loops now cancelled reply id before after events)
    (hb : before.isProper = true) : events.flatMap Event.executes = [] ∨
    ∃ item, cancelled = false ∧ reply = some (.lookup (.ok (.ok (.available item)))) ∧
      after = .storing item now ∧ events = [.lookupAnswered id (.ok (.available item)),
        .executeCalled id loops.statement item] := by
  have fetched {events : List Event} (h : ∀ e ∈ events, e.isFetch = true) :
      events.flatMap Event.executes = [] := ledger_executes.flatMap_fetch h
  cases m with
  | fetch _ step | fetchCrashes step => exact .inl (fetched (Fetch.isFetch_of_move step))
  | giveUp step =>
    rw [List.flatMap_append, fetched (Fetch.isFetch_of_move step)]
    exact .inl rfl
  | find step =>
    obtain ⟨running, answered, rfl⟩ := reply_of_found step hb
    exact .inr ⟨_, running, answered, rfl, rfl⟩
  | await | store | refuse | storeCrashes | rest => exact .inl rfl

end Move

end UnitOfWork

namespace Pipeline

variable {loops : Loops} {p : Pipeline} {inputs : List Input} {k : Nat} {u : UnitOfWork}

theorem doneBy_append (loops : Loops) (own : Input → Bool) (p : Pipeline)
    (inputs more : List Input) : p.doneBy loops own (inputs ++ more) =
      p.doneBy loops own inputs ++ (p.run loops inputs).pipeline.doneBy loops own more := by
  induction inputs generalizing p with
  | nil => rfl
  | cons i inputs ih =>
    rw [List.cons_append, doneBy, doneBy, ih, run_cons, List.append_assoc]

/-- A unit of work takes a step of its own, or nothing happens to it and it does nothing. -/
theorem unit_step (loops : Loops) (i : Input) (there : p.dispatch.units[k]? = some u) :
    (i.isUnit k = false ∧ (p.step loops i).1.dispatch.units[k]? = some u ∧
      (if i.isUnit k then (p.step loops i).2 else []) = []) ∨
    ∃ reply, i = .unit k reply ∧
      (p.step loops i).1.dispatch.units[k]? = some (u.after loops p.now p.cancelled reply) ∧
      (if i.isUnit k then (p.step loops i).2 else []) =
        u.does loops p.now p.cancelled reply := by
  have hlt := (List.getElem?_eq_some_iff.1 there).1
  cases own : i.isUnit k with
  | true =>
    match i, own with
    | .unit index reply, own =>
      obtain rfl : index = k := of_decide_eq_true own
      refine .inr ⟨reply, rfl, ?_⟩
      simp [step, Dispatch.pollUnit, there, List.getElem?_set_self hlt]
  | false =>
    refine .inl ⟨rfl, ?_, rfl⟩
    have m : Move loops p i _ _ := step_move p i
    rcases m.units_cases with ⟨fresh, hq, -⟩ | ⟨index, reply, w, v, rfl, -, -, -, hq⟩
    · rw [hq, List.getElem?_append_left hlt, there]
    · rw [hq, List.getElem?_set_ne (of_decide_eq_false own), there]

/-- A place without a unit is left alone, or a unit is created there. -/
theorem unit_birth (loops : Loops) (i : Input) (none : p.dispatch.units[k]? = none) :
    (if i.isUnit k then (p.step loops i).2 else []) = [] ∧
    ∀ u, (p.step loops i).1.dispatch.units[k]? = some u → u = .create u.id := by
  have hle := List.getElem?_eq_none_iff.1 none
  constructor
  · split
    case isTrue own =>
      match i, own with
      | .unit index reply, own =>
        obtain rfl : index = k := of_decide_eq_true own
        simp [step, Dispatch.pollUnit, none]
    case isFalse => rfl
  · intro u hu
    have m : Move loops p i _ _ := step_move p i
    generalize (p.step loops i).1 = q at m hu
    generalize (p.step loops i).2 = events at m
    obtain ⟨now, cancelled, channel, discovery, d⟩ := p
    cases m with
    | dispatch task =>
      cases task with
      | spawn =>
        rw [List.getElem?_append_right hle] at hu
        rw [List.mem_singleton.1 (List.mem_of_getElem? hu)]
        rfl
      | _ => cases none.symm.trans hu
    | unit there =>
      rw [Dispatch.withUnit, List.getElem?_eq_none (by rw [List.length_set]; exact hle)] at hu
      cases hu
    | _ => cases none.symm.trans hu

/-- What a unit keeps from its creation on, with what it did until then. -/
theorem follow {P : UnitOfWork → List Event → Prop} (h : p.dispatch.units = [])
    (born : ∀ id, P (.create id) [])
    (keep : ∀ u es, P u es → ∀ now cancelled reply, P (u.after loops now cancelled reply)
      (es ++ u.does loops now cancelled reply))
    (hu : (p.run loops inputs).pipeline.dispatch.units[k]? = some u) :
    P u (p.doneBy loops (Input.isUnit k) inputs) := by
  -- Where there is no unit yet, none has done anything.
  suffices all : ((p.run loops inputs).pipeline.dispatch.units[k]? = none →
      p.doneBy loops (Input.isUnit k) inputs = []) ∧
        ∀ u, (p.run loops inputs).pipeline.dispatch.units[k]? = some u →
          P u (p.doneBy loops (Input.isUnit k) inputs) from all.2 u hu
  clear hu
  induction inputs using List.reverseRecOn with
  | nil => simp [h, doneBy]
  | append_singleton inputs i ih =>
    rw [run_concat, doneBy_concat, Run.pipeline_step]
    cases hk : (p.run loops inputs).pipeline.dispatch.units[k]? with
    | none =>
      obtain ⟨silent, created⟩ := unit_birth loops i hk
      rw [ih.1 hk, silent]
      refine ⟨fun _ => rfl, fun u hu => ?_⟩
      rw [created u hu]
      exact born u.id
    | some v =>
      have hv := ih.2 v hk
      rcases unit_step loops i hk with ⟨-, hq, he⟩ | ⟨reply, -, hq, he⟩
      · rw [hq, he, List.append_nil]
        refine ⟨fun hn => absurd hn (Option.some_ne_none _), fun u hu => ?_⟩
        rw [← Option.some.inj hu]
        exact hv
      · rw [hq, he]
        refine ⟨fun hn => absurd hn (Option.some_ne_none _), fun u hu => ?_⟩
        rw [← Option.some.inj hu]
        exact keep v _ hv _ _ _

theorem Move.proper {q : Pipeline} {i : Input} {events : List Event} (m : Move loops p i q events)
    (h : ∀ u ∈ p.dispatch.units, u.phase.isProper = true) :
    ∀ u ∈ q.dispatch.units, u.phase.isProper = true := by
  rcases m.units_cases with ⟨fresh, hq, hf, -⟩ | ⟨index, reply, u, v, -, -, -, task, hq⟩
  · rw [hq, List.forall_mem_append]
    refine ⟨h, fun u hu => ?_⟩
    rw [hf u hu]
    rfl
  · rw [hq]
    intro w hw
    rcases List.mem_or_eq_of_mem_set hw with hw | rfl
    · exact h w hw
    · exact task.proper

theorem proper_run (loops : Loops) (h : p.dispatch.units = []) (inputs : List Input) :
    ∀ u ∈ (p.run loops inputs).pipeline.dispatch.units, u.phase.isProper = true := by
  apply run_induction (P := fun q _ => ∀ u ∈ q.dispatch.units, u.phase.isProper = true)
  · rw [h]
    exact List.forall_mem_nil _
  · intro p i q events _ _ m hs
    exact m.proper hs

/-- Nothing happens any more to a unit of work that has ended. -/
theorem ended_run (loops : Loops) {outcome : UnitOfWork.Outcome}
    (there : p.dispatch.units[k]? = some u) (ended : u.phase = .ended outcome)
    (inputs : List Input) : (p.run loops inputs).pipeline.dispatch.units[k]? = some u ∧
      p.doneBy loops (Input.isUnit k) inputs = [] := by
  have still (now : Nat) (cancelled : Bool) (reply : Option UnitOfWork.Reply) :
      u.poll loops now cancelled reply = (u, []) := by
    obtain ⟨id, started, phase⟩ := u
    obtain rfl : phase = .ended outcome := ended
    rfl
  induction inputs generalizing p with
  | nil => exact ⟨there, rfl⟩
  | cons i inputs ih =>
    rw [run_cons, doneBy]
    rcases unit_step loops i there with ⟨-, hq, he⟩ | ⟨reply, -, hq, he⟩
    · rw [he]
      exact ih hq
    · rw [UnitOfWork.after, still] at hq
      rw [he, UnitOfWork.does, still]
      exact ih hq

end Pipeline
end FeedIngest
