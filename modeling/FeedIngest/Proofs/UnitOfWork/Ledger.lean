import FeedIngest.Proofs.Run
import FeedIngest.Proofs.UnitOfWork.Moves
import Mathlib.Data.List.Perm.Basic

/-! Ledgers of units of work. A unit enters its identifier at the step that takes it to the
phases a ledger is about, and from then on stays in them. So the entries that a list of units
has made are the identifiers of those that are in these phases, and a step of one of them adds
to both what it enters. -/

namespace FeedIngest.UnitOfWork

namespace Phase

def isRunning : Phase → Bool
  | ended _ => false
  | _ => true

/-- The execution has been called, and has not crashed. -/
def hasCalled : Phase → Bool
  | storing _ _ | ended .stored | ended (.refused _) => true
  | _ => false

def isStored : Phase → Bool
  | ended .stored => true
  | _ => false

def isRefused : Phase → Bool
  | ended (.refused _) => true
  | _ => false

/-- The execution was called and has been answered. -/
def isFinished : Phase → Bool
  | ended .stored | ended (.refused _) => true
  | _ => false

def isAbandoned : Phase → Bool
  | ended .abandoned => true
  | _ => false

/-- Nothing has crashed, and a fetch that goes on is not over. -/
def isSound : Phase → Bool
  | fetching f => !f.isOver
  | ended (.crashed _) => false
  | _ => true

theorem isFinished_eq (phase : Phase) : phase.isFinished = (phase.hasCalled && !phase.isRunning) := by
  cases phase with
  | ended outcome => cases outcome <;> rfl
  | _ => rfl

end Phase

theorem isRunning_eq (u : UnitOfWork) : u.isRunning = u.phase.isRunning := by
  obtain ⟨id, started, phase⟩ := u
  cases phase <;> rfl

/-- An identifier, where the phase is one of some. -/
def entry (q : Phase → Bool) (id : ItemId) (phase : Phase) : List ItemId :=
  if q phase then [id] else []

/-- The identifiers of the units in such phases. -/
def idsIn (q : Phase → Bool) (units : List UnitOfWork) : List ItemId :=
  units.flatMap fun u => entry q u.id u.phase

section Units
variable {q : Phase → Bool} {units : List UnitOfWork} {index : Nat} {u v : UnitOfWork}

@[simp] theorem idsIn_nil : idsIn q [] = [] := rfl

@[simp] theorem idsIn_append (more : List UnitOfWork) :
    idsIn q (units ++ more) = idsIn q units ++ idsIn q more :=
  List.flatMap_append

@[simp] theorem idsIn_cons : idsIn q (u :: units) = entry q u.id u.phase ++ idsIn q units := rfl

theorem idsIn_eq_map_filter : idsIn q units = (units.filter (q ·.phase)).map id := by
  induction units with
  | nil => rfl
  | cons u units ih =>
    rw [idsIn_cons, ih, entry]
    cases h : q u.phase <;> simp [h]

theorem sublist_idsIn (q : Phase → Bool) (units : List UnitOfWork) :
    (idsIn q units).Sublist (units.map id) := by
  rw [idsIn_eq_map_filter]
  exact List.filter_sublist.map id

/-- Where each unit is in one of some phases, their identifiers are those of all units. -/
theorem perm_map_id {cs : List (Phase → Bool)}
    (h : ∀ u ∈ units, (cs.flatMap fun c => entry c u.id u.phase) = [u.id]) :
    (units.map id).Perm (cs.flatMap fun c => idsIn c units) := by
  induction units with
  | nil => simp
  | cons u units ih =>
    rw [List.forall_mem_cons] at h
    have hp := List.flatMap_append_perm cs (fun c => entry c u.id u.phase) (idsIn · units)
    rw [h.1] at hp
    exact ((ih h.2).cons u.id).trans hp

/-- Sound units run, have finished or were abandoned. -/
theorem perm_finished (h : ∀ u ∈ units, u.phase.isSound = true) : (units.map id).Perm
    ([Phase.isRunning, Phase.isFinished, Phase.isAbandoned].flatMap fun c => idsIn c units) := by
  apply perm_map_id
  intro u hu
  match u.phase, h u hu with
  | .fetching _, _ | .storing _ _, _ | .ended .stored, _ | .ended (.refused _), _
  | .ended .abandoned, _ => rfl

theorem perm_answered (h : ∀ u ∈ units, u.phase.isSound = true) : (units.map id).Perm
    ([Phase.isRunning, Phase.isStored, Phase.isRefused, Phase.isAbandoned].flatMap
      fun c => idsIn c units) := by
  apply perm_map_id
  intro u hu
  match u.phase, h u hu with
  | .fetching _, _ | .storing _ _, _ | .ended .stored, _ | .ended (.refused _), _
  | .ended .abandoned, _ => rfl

/-- A list of units around one of them, which can be replaced. -/
theorem exists_around (h : units[index]? = some u) : ∃ before after, units = before ++ u :: after ∧
    ∀ v, units.set index v = before ++ v :: after := by
  obtain ⟨hlt, rfl⟩ := List.getElem?_eq_some_iff.1 h
  refine ⟨units.take index, units.drop (index + 1), ?_, ?_⟩
  · rw [← List.drop_eq_getElem_cons hlt, List.take_append_drop]
  · intro v
    exact List.set_eq_take_append_cons_drop.trans (if_pos hlt)

theorem map_id_set (h : units[index]? = some u) (hid : v.id = u.id) :
    (units.set index v).map id = units.map id := by
  obtain ⟨before, after, rfl, hv⟩ := exists_around h
  rw [hv]
  simp [hid]

/-- What a unit enters is added to the entries of all. -/
theorem perm_idsIn_set (h : units[index]? = some u) (hid : v.id = u.id) {new : List ItemId}
    (he : entry q u.id v.phase = entry q u.id u.phase ++ new) :
    (idsIn q (units.set index v)).Perm (idsIn q units ++ new) := by
  obtain ⟨before, after, rfl, hv⟩ := exists_around h
  rw [hv, List.perm_iff_count]
  intro id
  simp only [idsIn_append, idsIn_cons, hid, he, List.count_append]
  omega

end Units

/-- Whether the call of a unit is answered with a crash. -/
def Reply.crashes : Reply → Bool
  | lookup (.error _) | execute (.error _) => true
  | _ => false

section Move
variable {loops : Loops} {now : Nat} {cancelled : Bool} {reply : Option Reply} {id : ItemId}
  {before after : Phase} {events : List Event}

/-- Without a crash, a unit stays sound. -/
theorem Move.sound (m : Move loops now cancelled reply id before after events)
    (hb : before.isSound = true) (hr : ∀ r, reply = some r → r.crashes = false) :
    after.isSound = true := by
  cases m with
  | fetch more => simp [Phase.isSound, more]
  | fetchCrashes step =>
    -- An answer to a lookup crashes only if the reply does.
    rcases Fetch.answer_of_crashed step with ha | rfl
    · obtain ⟨r, rfl, hl⟩ := Option.bind_eq_some_iff.1 ha
      have := hr r rfl
      cases r with
      | lookup answer => cases hl; cases this
      | execute answer => cases hl
    · cases hb
  | storeCrashes answered => cases hr _ answered
  | rest => exact hb
  | find | giveUp | await | store | refuse => rfl

/-- What some events enter, and the phases in which it is entered. -/
structure Ledger (f : Event → List ItemId) (q : Phase → Bool) : Prop where
  discovery : Event.Silent f .discovery
  outside : Event.Silent f .outside
  quiet : ∀ e, e.isFetch = true → f e = []
  fetching : ∀ g, q (.fetching g) = false
  find : ∀ id statement item now,
    entry q id (.storing item now) = f (.executeCalled id statement item)
  giveUp : ∀ id, entry q id (.ended .abandoned) = f (.abandoned [id])
  store : ∀ id item since elapsed, entry q id (.ended .stored) =
    entry q id (.storing item since) ++ f (.executeAnswered id (.ok ())) ++
      f (.measured (.processed elapsed))
  refuse : ∀ id item since e, entry q id (.ended (.refused e)) =
    entry q id (.storing item since) ++ f (.executeAnswered id (.error e))

variable {f : Event → List ItemId} {q : Phase → Bool}

theorem Ledger.flatMap_fetch (ledger : Ledger f q) (h : ∀ e ∈ events, e.isFetch = true) :
    events.flatMap f = [] :=
  List.flatMap_eq_nil_iff.2 fun e he => ledger.quiet e (h e he)

theorem Ledger.entry_eq (ledger : Ledger f q)
    (m : Move loops now cancelled reply id before after events)
    (ha : after.isSound = true) : entry q id after = entry q id before ++ events.flatMap f := by
  have hq (g : Fetch.Phase) : entry q id (.fetching g) = [] := by
    rw [entry, ledger.fetching]
    rfl
  cases m with
  | fetch _ step =>
    rw [hq, hq, ledger.flatMap_fetch (Fetch.isFetch_of_move step)]
    rfl
  | find step =>
    rw [hq, List.flatMap_append, ledger.flatMap_fetch (Fetch.isFetch_of_move step),
      ledger.find id loops.statement]
    simp
  | giveUp step =>
    rw [hq, List.flatMap_append, ledger.flatMap_fetch (Fetch.isFetch_of_move step), ledger.giveUp]
    simp
  | @store item since elapsed =>
    rw [ledger.store id item since elapsed]
    simp
  | @refuse item since e =>
    rw [ledger.refuse id item since e]
    simp
  | fetchCrashes | storeCrashes => cases ha
  | await | rest => simp

end Move

theorem ledger_executes : Ledger Event.executes Phase.hasCalled where
  discovery e h := by cases e <;> first | rfl | cases h
  outside e h := by cases e <;> first | rfl | cases h
  quiet e h := by cases e <;> first | rfl | cases h
  fetching _ := rfl
  find _ _ _ _ := rfl
  giveUp _ := rfl
  store _ _ _ _ := rfl
  refuse _ _ _ _ := rfl

theorem ledger_stores : Ledger Event.stores Phase.isStored where
  discovery e h := by cases e <;> first | rfl | cases h
  outside e h := by cases e <;> first | rfl | cases h
  quiet e h := by cases e <;> first | rfl | cases h
  fetching _ := rfl
  find _ _ _ _ := rfl
  giveUp _ := rfl
  store _ _ _ _ := rfl
  refuse _ _ _ _ := rfl

theorem ledger_refuses : Ledger Event.refuses Phase.isRefused where
  discovery e h := by cases e <;> first | rfl | cases h
  outside e h := by cases e <;> first | rfl | cases h
  quiet e h := by cases e <;> first | rfl | cases h
  fetching _ := rfl
  find _ _ _ _ := rfl
  giveUp _ := rfl
  store _ _ _ _ := rfl
  refuse _ _ _ _ := rfl

theorem ledger_abandons : Ledger Event.abandons Phase.isAbandoned where
  discovery e h := by cases e <;> first | rfl | cases h
  outside e h := by cases e <;> first | rfl | cases h
  quiet e h := by cases e <;> first | rfl | cases h
  fetching _ := rfl
  find _ _ _ _ := rfl
  giveUp _ := rfl
  store _ _ _ _ := rfl
  refuse _ _ _ _ := rfl

end FeedIngest.UnitOfWork
