import FeedIngest.Proofs.Moves
import FeedIngest.Proofs.UnitOfWork.Ledger

/-! Custody of identifiers. Those that were put on the channel are, in this order, the ones
that units of work were started for, the one held by the dispatcher, those that the dispatcher
dropped when it closed the channel, and those in the buffer. Nothing is dropped before, and after
it only what fills a place taken before is in the buffer. This needs the receiving end to be the
dispatcher's. -/

namespace FeedIngest

namespace Dispatch.Phase

/-- The identifier that waits for a permit. -/
def held : Phase → List ItemId
  | acquiring id => [id]
  | _ => []

@[simp] theorem held_receiving : held receiving = [] := rfl

@[simp] theorem held_acquiring (id : ItemId) : held (acquiring id) = [id] := rfl

/-- Before the dispatcher closes the channel. -/
def isServing : Phase → Bool
  | starting | receiving | acquiring _ => true
  | _ => false

end Dispatch.Phase

theorem Dispatch.map_id_running (d : Dispatch) :
    d.running.map UnitOfWork.id = UnitOfWork.idsIn UnitOfWork.Phase.isRunning d.units := by
  rw [UnitOfWork.idsIn_eq_map_filter, running]
  exact congrArg _ (List.filter_congr fun u _ => u.isRunning_eq)

/-- Where the identifiers of a run are, with those that the dispatcher has dropped. -/
structure Custody (es : List Event) (p : Pipeline) (dropped : List ItemId) : Prop where
  entered : es.flatMap Event.enters = p.dispatch.units.map UnitOfWork.id ++
    p.dispatch.phase.held ++ dropped ++ p.channel.buffer
  spawned : es.flatMap Event.spawns = p.dispatch.units.map UnitOfWork.id
  serving : p.dispatch.phase.isServing = true → dropped = []
  shut : p.dispatch.phase.isServing = false → p.channel.closed = true

namespace Custody

variable {loops : Loops} {now : Nat} {cancelled : Bool} {es events : List Event} {p q : Pipeline}
  {dropped : List ItemId} {i : Pipeline.Input}

/-- What neither enters nor goes to a unit of work only moves along. -/
theorem shift {dropped' : List ItemId} (h : Custody es p dropped)
    (he : events.flatMap Event.enters = []) (hs : events.flatMap Event.spawns = [])
    (hu : q.dispatch.units.map UnitOfWork.id = p.dispatch.units.map UnitOfWork.id)
    (hm : q.dispatch.phase.held ++ dropped' ++ q.channel.buffer =
      p.dispatch.phase.held ++ dropped ++ p.channel.buffer)
    (serving : q.dispatch.phase.isServing = true → dropped' = [])
    (shut : q.dispatch.phase.isServing = false → q.channel.closed = true) :
    Custody (es ++ events) q dropped' where
  entered := by
    rw [List.flatMap_append, he, List.append_nil, h.entered, hu]
    simp only [List.append_assoc] at hm ⊢
    rw [hm]
  spawned := by rw [List.flatMap_append, hs, List.append_nil, h.spawned, hu]
  serving := serving
  shut := shut

/-- What the dispatcher drops is told by the step that closes the channel, and no later. -/
theorem closing_ended {p : Permits} {phase : Dispatch.Phase} {tail : List Event}
    (h : Dispatch.Closing loops now p phase tail) :
    phase.isServing = false ∧ phase.held = [] ∧ tail.flatMap Event.abandons = [] := by
  cases h <;> exact ⟨rfl, rfl, rfl⟩

theorem closing_spawns {p : Permits} {phase : Dispatch.Phase} {tail : List Event}
    (h : Dispatch.Closing loops now p phase tail) (ids : List ItemId) :
    (Dispatch.dropping ids ++ tail).flatMap Event.spawns = [] := by
  unfold Dispatch.dropping
  cases h <;> split <;> rfl

theorem dispatch {s : Dispatch.Step} {dropped' : List ItemId} (h : Custody es p dropped)
    (task : Dispatch.Move loops p.now p.cancelled p.channel p.dispatch s)
    (hd : dropped' = dropped ++ s.events.flatMap Event.abandons) :
    Custody (es ++ s.events) { p with dispatch := s.dispatch, channel := s.channel } dropped' := by
  have he : s.events.flatMap Event.enters = [] :=
    Event.enters_dispatch.flatMap (Dispatch.isOf_of_move task)
  obtain ⟨now, cancelled, channel, discovery, d⟩ := p
  cases task with
  | start =>
    obtain rfl : dropped = [] := h.serving rfl
    subst hd
    exact h.shift he rfl rfl rfl (fun _ => rfl) (by rintro ⟨⟩)
  | receive running taken =>
    obtain rfl : dropped = [] := h.serving rfl
    subst hd
    obtain ⟨hb, -⟩ := Channel.take?_eq_some taken
    refine h.shift he rfl rfl ?_ (fun _ => rfl) (by rintro ⟨⟩)
    simpa [Event.abandons] using hb.symm
  | leave _ closing =>
    obtain rfl : dropped = [] := h.serving rfl
    obtain ⟨hs, hh, ha⟩ := closing_ended closing
    refine h.shift he (closing_spawns closing _) rfl ?_ ?_ (fun _ => rfl)
    · simp [hd, hh, ha]
    · rw [hs]
      rintro ⟨⟩
  | forgo _ closing =>
    obtain rfl : dropped = [] := h.serving rfl
    obtain ⟨hs, hh, ha⟩ := closing_ended closing
    refine h.shift he (closing_spawns closing _) rfl ?_ ?_ (fun _ => rfl)
    · simp [hd, hh, ha, Event.abandons]
    · rw [hs]
      rintro ⟨⟩
  | @spawn p p' units id running got =>
    obtain rfl : dropped = [] := h.serving rfl
    subst hd
    constructor
    · rw [List.flatMap_append, he, h.entered]
      simp [UnitOfWork.create, Event.abandons, Dispatch.saturated]
    · rw [List.flatMap_append, h.spawned]
      simp [Event.spawns, UnitOfWork.create, Dispatch.saturated]
    · exact fun _ => rfl
    · rintro ⟨⟩
  | rest | await | finish | linger | timeOut | underflow =>
    have hd : dropped' = dropped := hd.trans (List.append_nil dropped)
    subst hd
    exact h.shift he rfl rfl rfl h.serving h.shut

/-- What enters the channel is put at the end of its buffer. -/
theorem put {id : ItemId} (h : Custody es p dropped)
    (he : events.flatMap Event.enters = [id]) (hs : events.flatMap Event.spawns = [])
    (hd : q.dispatch = p.dispatch) (hb : q.channel.buffer = p.channel.buffer ++ [id])
    (hc : q.channel.closed = p.channel.closed) : Custody (es ++ events) q dropped := by
  constructor
  · rw [List.flatMap_append, he, h.entered, hd, hb]
    simp only [List.append_assoc]
  · rw [List.flatMap_append, hs, h.spawned, hd, List.append_nil]
  · rw [hd]
    exact h.serving
  · rw [hd, hc]
    exact h.shut

theorem discovery {answer : Option (Answer ItemId)} {s : Discovery.Step} (h : Custody es p dropped)
    (task : Discovery.Move loops p.now p.cancelled answer p.channel p.discovery s) :
    Custody (es ++ s.events) { p with discovery := s.phase, channel := s.channel } dropped := by
  have hs : s.events.flatMap Event.spawns = [] :=
    Event.spawns_discovery.flatMap (Discovery.isOf_of_move task)
  obtain ⟨now, cancelled, channel, discovery, d⟩ := p
  cases task with
  | announce | announceLast | overflow => exact h.put rfl hs rfl rfl rfl
  | _ => exact h.shift rfl hs rfl rfl h.serving h.shut

/-- Other moves drop nothing. -/
theorem move (h : Custody es p dropped) (m : Pipeline.Move loops p i q events)
    (hi : i.sparesReceiver = true) (hd : i ≠ .dispatch) : Custody (es ++ events) q dropped := by
  cases m with
  | discovery task => exact h.discovery task
  | dispatch => exact absurd rfl hd
  | unit there same task =>
    have hu := UnitOfWork.isOf_of_move task
    exact h.shift (Event.enters_unit.flatMap hu) (Event.spawns_unit.flatMap hu)
      (UnitOfWork.map_id_set there same) rfl h.serving h.shut
  | push | send => exact h.put rfl rfl rfl rfl rfl
  | take | close | runAgain => cases hi
  | rest | advance | cancel | reserve | stopSending =>
    exact h.shift rfl rfl rfl rfl h.serving h.shut

end Custody
end FeedIngest
