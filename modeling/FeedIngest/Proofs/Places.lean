import FeedIngest.Proofs.Accounts
import FeedIngest.Proofs.Discovery.Order
import Mathlib.Data.List.Nodup

/-! Where every identifier is. As long as the channel is left to the two loops and nothing
crashes, what has been announced is spread over five places, without loss and without a copy:
the buffer of the channel, the dispatcher that waits for a permit, the running units of work,
the finished ones, and what was abandoned. -/

namespace FeedIngest

inductive Place
  | buffered
  | held
  | running
  | finished
  | abandoned
  deriving DecidableEq

def Place.all : List Place := [.buffered, .held, .running, .finished, .abandoned]

namespace Pipeline

/-- The identifiers in a place. -/
def Run.ids (r : Run) : Place → List ItemId
  | .buffered => r.pipeline.channel.buffer
  | .held => r.pipeline.dispatch.phase.held
  | .running => r.pipeline.dispatch.running.map UnitOfWork.id
  | .finished => (r.pipeline.dispatch.units.filter (·.phase.isFinished)).map UnitOfWork.id
  | .abandoned => r.abandoned

/-- Whether an identifier lies between the first maximum and the watermark. -/
def Run.reaches (r : Run) (id : ItemId) : Prop :=
  ∃ first mark, r.maxima.head? = some first ∧ r.mark? = some mark ∧ first ≤ id ∧ id < mark.next

/-- What holds of the identifiers of a run. -/
structure InOnePlace (r : Run) : Prop where
  one : ∀ id, r.reaches id → ∃! place, id ∈ r.ids place
  none : ∀ id, ¬ r.reaches id → ∀ place, id ∉ r.ids place
  /-- No place holds an identifier twice. -/
  nodup : ∀ place, (r.ids place).Nodup
  /-- Its item is to be stored just once. -/
  once : ∀ id ∈ r.ids .finished, r.executed.count id = 1
  atMostOnce : ∀ id, r.executed.count id ≤ 1
  only : ∀ id ∈ r.executed, id ∈ r.ids .running ∨ id ∈ r.ids .finished
  /-- Units of work are started in rising order. -/
  rising : r.spawned.Pairwise (· < ·)
  /-- The watermark that is meant is the one that discovery holds. -/
  mark : ∀ mark, r.pipeline.discovery.mark? = some mark → r.mark? = some mark

variable {loops : Loops} {inputs : List Input} {capacity limit : Nat}

/-- Only discovery puts anything on the channel when it is left to the loops. -/
theorem entered_eq_announced (p : Pipeline) (hi : ∀ i ∈ inputs, i.isInternal = true) :
    (p.run loops inputs).entered = (p.run loops inputs).announced := by
  have inside {a : Event.Actor} {e : Event} (h : e.isOf a = true) (ha : a ≠ .outside) :
      e.enters = e.announces := by
    cases a with
    | outside => exact absurd rfl ha
    | _ => cases e <;> first | rfl | cases h
  apply run_induction (P := fun _ es => es.flatMap Event.enters = es.flatMap Event.announces)
  · rfl
  · intro p i q events es hmem m ih
    rw [List.flatMap_append, List.flatMap_append, ih]
    congr 1
    have ho := m.isOf
    have hi := hi i hmem
    cases m with
    | discovery | dispatch | unit =>
      exact List.flatMap_congr fun e he => inside (ho e he) (by simp [Input.actor])
    | push | send | take => cases hi
    | _ => rfl

/-- All that was announced is in the five places, as often as it was announced. -/
theorem perm_places (loops : Loops) (capacity limit : Nat)
    (hi : ∀ i ∈ inputs, i.isInternal = true) (hc : ∀ i ∈ inputs, i.crashes = false) :
    (Place.all.flatMap ((start capacity limit).run loops inputs).ids).Perm
      ((start capacity limit).run loops inputs).announced := by
  have hf := isFresh_start capacity limit
  have custody : Custody ((start capacity limit).run loops inputs).events _ _ := custody_run hf
    fun i h => Input.sparesReceiver_of_isInternal (hi i h)
  have abandoned : ((start capacity limit).run loops inputs).abandoned.Perm _ :=
    total_run loops UnitOfWork.ledger_abandons hf hc
  have units := UnitOfWork.perm_finished (sound_run loops hf hc)
  rw [← entered_eq_announced _ hi, Run.entered, Run.collect, custody.entered, List.perm_iff_count]
  intro id
  have ha := abandoned.count_eq id
  have hu := units.count_eq id
  simp only [Place.all, Run.ids, Dispatch.map_id_running, UnitOfWork.idsIn_eq_map_filter,
    List.flatMap_cons, List.flatMap_nil, List.count_append, List.count_nil] at ha hu ⊢
  omega

section Announced
variable {p : Pipeline} (h : p.discovery = Discovery.start)
include h

theorem mem_announced {id : ItemId} :
    id ∈ (p.run loops inputs).announced ↔ (p.run loops inputs).reaches id := by
  have ht : Discovery.Tracks (p.run loops inputs).events _ := Discovery.tracks_run h inputs
  unfold Run.reaches Run.announced Run.maxima Run.mark? Run.collect
  rcases ht.told with hu | ⟨mark, hr⟩
  · rw [hu.announced, hu.told]
    constructor
    · exact fun hm => absurd hm List.not_mem_nil
    · rintro ⟨first, mark, -, ⟨⟩, -⟩
  · obtain ⟨first, hf, -, ha⟩ := hr.announced
    rw [ha, hr.told, hf, Span.mem_toList]
    constructor
    · exact fun hm => ⟨first, mark, rfl, rfl, hm⟩
    · rintro ⟨_, _, ⟨⟩, ⟨⟩, hm⟩
      exact hm

theorem pairwise_announced : (p.run loops inputs).announced.Pairwise (· < ·) := by
  have ht : Discovery.Tracks (p.run loops inputs).events _ := Discovery.tracks_run h inputs
  unfold Run.announced Run.collect
  rcases ht.told with hu | ⟨mark, hr⟩
  · rw [hu.announced]
    exact .nil
  · obtain ⟨first, -, -, ha⟩ := hr.announced
    rw [ha]
    exact Span.pairwise_toList _

end Announced

theorem mem_all (place : Place) : place ∈ Place.all := by cases place <;> decide

/-- Lists that make up one without repetition have nothing in common. -/
theorem eq_of_mem_ids {r : Run} {place other : Place} {id : ItemId}
    (h : (Place.all.flatMap r.ids).Nodup) (hp : id ∈ r.ids place) (ho : id ∈ r.ids other) :
    other = place := by
  by_contra hne
  have : Std.Symm (Function.onFun List.Disjoint r.ids) :=
    ⟨fun _ _ hd _ hb ha => hd ha hb⟩
  have hd := (List.nodup_flatMap.1 h).2.forall (mem_all other) (mem_all place) hne
  exact hd ho hp

/-- Whatever happens in whatever order, no identifier is lost or worked on twice. -/
theorem in_one_place (hi : ∀ i ∈ inputs, i.isInternal = true)
    (hc : ∀ i ∈ inputs, i.crashes = false) :
    InOnePlace ((start capacity limit).run loops inputs) := by
  have hf := isFresh_start capacity limit
  have custody : Custody ((start capacity limit).run loops inputs).events _ _ := custody_run hf
    fun i h => Input.sparesReceiver_of_isInternal (hi i h)
  have executed : ((start capacity limit).run loops inputs).executed.Perm _ :=
    total_run loops UnitOfWork.ledger_executes hf hc
  rw [doneBy_dispatch Event.executes_dispatch, List.nil_append] at executed
  have rising : ((start capacity limit).run loops inputs).announced.Pairwise (· < ·) :=
    pairwise_announced rfl
  have places := perm_places loops capacity limit hi hc
  have hm (id : ItemId) : ((start capacity limit).run loops inputs).reaches id ↔
      ∃ place, id ∈ ((start capacity limit).run loops inputs).ids place := by
    rw [← mem_announced rfl, ← places.mem_iff, List.mem_flatMap]
    exact exists_congr fun place => and_iff_right (mem_all place)
  have apart := places.nodup_iff.2 (ItemId.nodup_of_pairwise rising)
  have distinct : (((start capacity limit).run loops inputs).pipeline.dispatch.units.map
      UnitOfWork.id).Pairwise (· < ·) := by
    rw [← entered_eq_announced _ hi, Run.entered, Run.collect, custody.entered] at rising
    simp only [List.append_assoc] at rising
    exact (List.pairwise_append.1 rising).1
  have called : ((start capacity limit).run loops inputs).executed.Nodup :=
    executed.nodup_iff.2 ((ItemId.nodup_of_pairwise distinct).sublist (UnitOfWork.sublist_idsIn _ _))
  constructor
  case one =>
    intro id hid
    obtain ⟨place, hp⟩ := (hm id).1 hid
    exact ⟨place, hp, fun other ho => eq_of_mem_ids apart hp ho⟩
  case none =>
    intro id hid place hp
    exact hid ((hm id).2 ⟨place, hp⟩)
  case nodup =>
    intro place
    exact (List.nodup_flatMap.1 apart).1 place (mem_all place)
  case once =>
    intro id hid
    apply List.count_eq_one_of_mem called
    rw [executed.mem_iff, UnitOfWork.idsIn_eq_map_filter]
    obtain ⟨u, hu, rfl⟩ := List.mem_map.1 hid
    obtain ⟨hu, hfin⟩ := List.mem_filter.1 hu
    rw [UnitOfWork.Phase.isFinished_eq, Bool.and_eq_true] at hfin
    apply List.mem_map_of_mem
    apply List.mem_filter.2
    exact ⟨hu, hfin.1⟩
  case atMostOnce =>
    intro id
    exact List.nodup_iff_count_le_one.1 called id
  case only =>
    intro id hid
    rw [executed.mem_iff, UnitOfWork.idsIn_eq_map_filter] at hid
    obtain ⟨u, hu, rfl⟩ := List.mem_map.1 hid
    obtain ⟨hu, hcalled⟩ := List.mem_filter.1 hu
    cases hr : u.isRunning with
    | true => exact .inl (List.mem_map_of_mem (List.mem_filter.2 ⟨hu, hr⟩))
    | false =>
      refine .inr (List.mem_map_of_mem (List.mem_filter.2 ⟨hu, ?_⟩))
      rw [UnitOfWork.Phase.isFinished_eq, hcalled, ← UnitOfWork.isRunning_eq, hr]
      rfl
  case rising =>
    rw [Run.spawned, Run.collect, custody.spawned]
    exact distinct
  case mark =>
    intro mark hmark
    exact ((Discovery.tracks_run rfl inputs).reached hmark).told

/-- One unit of work at a time and one place in the channel: 5 is stored, 6 is worked on, 7
waits for its permit and 8 is in the channel. -/
def spreadInputs : List Input :=
  [.discovery none, .discovery (some (.ok (.ok ⟨5⟩))), .discovery none, .discovery none,
    .discovery (some (.ok (.ok ⟨9⟩))), .discovery none, .dispatch, .dispatch, .dispatch,
    .discovery none, .dispatch, .dispatch, .discovery none, .unit 0 none,
    .unit 0 (some (.lookup (.ok (.ok (.available ⟨⟨5⟩, none, none, ""⟩))))),
    .unit 0 (some (.execute (.ok (.ok ())))), .dispatch, .dispatch, .discovery none]

theorem in_one_place_spread :
    (∀ i ∈ spreadInputs, i.isInternal = true) ∧ (∀ i ∈ spreadInputs, i.crashes = false) ∧
      InOnePlace ((start 1 1).run .sample spreadInputs) ∧
      ((start 1 1).run .sample spreadInputs).ids .finished = [⟨5⟩] ∧
      ((start 1 1).run .sample spreadInputs).ids .running = [⟨6⟩] ∧
      ((start 1 1).run .sample spreadInputs).ids .held = [⟨7⟩] ∧
      ((start 1 1).run .sample spreadInputs).ids .buffered = [⟨8⟩] := by
  refine ⟨by decide, by decide, in_one_place (by decide) (by decide), ?_⟩
  decide

end Pipeline
end FeedIngest
