import FeedIngest.Proofs.Channel
import FeedIngest.Proofs.UnitOfWork.Moves

/-! Every step of the dispatcher is one of these moves, and a step of one of its units of work
changes nothing but that unit and, when it ends, the permits. -/

namespace FeedIngest.Dispatch

variable {loops : Loops} {now : Nat} {cancelled : Bool} {channel : Channel}

/-- What is left in the channel is abandoned, if there is any. -/
def dropping (ids : List ItemId) : List Event := if ids.isEmpty then [] else [.abandoned ids]

@[simp] theorem flatMap_dropping (ids : List ItemId) :
    (dropping ids).flatMap Event.abandons = ids := by
  cases ids with
  | nil => rfl
  | cons id ids => exact List.append_nil (id :: ids)

/-- Having closed the channel, the dispatcher waits. It would stop there with a crash only if
more permits were out than there are. -/
inductive Closing (loops : Loops) (now : Nat) (p : Permits) : Phase → List Event → Prop
  | wait {n} (out : p.inFlight? = some n) :
    Closing loops now p (.draining (loops.timer.due now loops.shutdownTimeout)) []
  | underflow (out : p.inFlight? = none) :
    Closing loops now p (.crashed .subtractionOverflow) [.crashed .subtractionOverflow]

theorem closing_isOf {p : Permits} {phase : Phase} {tail : List Event}
    (h : Closing loops now p phase tail) (ids : List ItemId) :
    ∀ e ∈ dropping ids ++ tail, e.isOf .dispatch = true := by
  rw [List.forall_mem_append]
  constructor
  · unfold dropping
    split <;> simp [Event.isOf]
  · cases h <;> simp [Event.isOf]

theorem drain_closing (loops : Loops) (now : Nat) (channel : Channel) (d : Dispatch)
    (before : List Event) : ∃ phase tail, Closing loops now d.permits phase tail ∧
      drain loops now d channel before =
        ⟨{ d with phase }, channel.drained, before ++ (dropping channel.buffer ++ tail)⟩ := by
  unfold drain
  cases out : d.permits.inFlight? with
  | some n => exact ⟨_, _, .wait out, by simp [Channel.drain, Channel.drained, dropping]⟩
  | none => exact ⟨_, _, .underflow out, by simp [Channel.drain, Channel.drained, dropping]⟩

section Move
variable (loops now cancelled channel)

inductive Move : Dispatch → Step → Prop
  | rest {d} : Move d ⟨d, channel, []⟩
  | start {p units} :
    Move ⟨.starting, p, units⟩ ⟨⟨.receiving, p, units⟩, channel, [saturated p]⟩
  | receive {p units id later} (running : cancelled = false)
    (taken : channel.take? = some (id, later)) :
    Move ⟨.receiving, p, units⟩ ⟨⟨.acquiring id, p, units⟩, later, [.received id]⟩
  | leave {p units phase tail}
    (ending : cancelled = true ∨ (channel.buffer = [] ∧ channel.isOver = true))
    (closing : Closing loops now p phase tail) :
    Move ⟨.receiving, p, units⟩
      ⟨⟨phase, p, units⟩, channel.drained, dropping channel.buffer ++ tail⟩
  | forgo {p units id phase tail} (shutdown : cancelled = true)
    (closing : Closing loops now p.forgo phase tail) :
    Move ⟨.acquiring id, p, units⟩
      ⟨⟨phase, p.forgo, units⟩, channel.drained,
        .abandoned [id] :: (dropping channel.buffer ++ tail)⟩
  | spawn {p p' units id} (running : cancelled = false) (got : p.acquire 1 = (p', true)) :
    Move ⟨.acquiring id, p, units⟩
      ⟨⟨.receiving, p', units ++ [.create id]⟩, channel, [.spawned id, saturated p']⟩
  | await {p p' units id} (running : cancelled = false) (missed : p.acquire 1 = (p', false)) :
    Move ⟨.acquiring id, p, units⟩ ⟨⟨.acquiring id, p', units⟩, channel, []⟩
  | finish {p p' units due} (got : p.acquire p.total = (p', true)) :
    Move ⟨.draining due, p, units⟩
      ⟨⟨.returned, p'.restore p'.total, units⟩, channel, [.dispatchEnded]⟩
  | linger {p p' units due} (missed : p.acquire p.total = (p', false)) :
    Move ⟨.draining due, p, units⟩ ⟨⟨.draining due, p', units⟩, channel, []⟩
  | timeOut {p p' units due n} (missed : p.acquire p.total = (p', false)) (late : due ≤ now)
    (out : p'.forgo.inFlight? = some n) :
    Move ⟨.draining due, p, units⟩ ⟨⟨.returned, p'.forgo, units⟩, channel, [.dispatchEnded]⟩
  | underflow {p p' units due} (missed : p.acquire p.total = (p', false)) (late : due ≤ now)
    (out : p'.forgo.inFlight? = none) :
    Move ⟨.draining due, p, units⟩
      ⟨⟨.crashed .subtractionOverflow, p'.forgo, units⟩, channel, [.crashed .subtractionOverflow]⟩

end Move

theorem leave_move {p : Permits} {units : List UnitOfWork}
    (ending : cancelled = true ∨ (channel.buffer = [] ∧ channel.isOver = true)) :
    Move loops now cancelled channel ⟨.receiving, p, units⟩
      (drain loops now ⟨.receiving, p, units⟩ channel []) := by
  obtain ⟨phase, tail, closing, hd⟩ := drain_closing loops now channel ⟨.receiving, p, units⟩ []
  rw [hd]
  exact .leave ending closing

theorem poll_move (d : Dispatch) :
    Move loops now cancelled channel d (d.poll loops now cancelled channel) := by
  obtain ⟨phase, p, units⟩ := d
  cases phase with
  | starting => exact .start
  | receiving =>
    cases cancelled with
    | true => exact leave_move (.inl rfl)
    | false =>
      simp only [poll, Bool.false_eq_true, if_false]
      cases taken : channel.take? with
      | some next => exact .receive rfl taken
      | none =>
        cases ending : channel.isOver with
        | true => exact leave_move (.inr ⟨Channel.take?_eq_none.1 taken, ending⟩)
        | false => exact .rest
  | acquiring id =>
    cases cancelled with
    | true =>
      obtain ⟨phase, tail, closing, hd⟩ := drain_closing loops now channel
        ⟨.acquiring id, p.forgo, units⟩ [.abandoned [id]]
      simp only [poll, if_true, hd]
      exact .forgo rfl closing
    | false =>
      simp only [poll, Bool.false_eq_true, if_false]
      generalize h : p.acquire 1 = a
      obtain ⟨p', got⟩ := a
      cases got with
      | true => exact .spawn rfl h
      | false => exact .await rfl h
  | draining due =>
    simp only [poll]
    generalize h : p.acquire p.total = a
    obtain ⟨p', got⟩ := a
    cases got with
    | true => exact .finish h
    | false =>
      by_cases late : due ≤ now
      · simp only [late, if_true]
        cases out : p'.forgo.inFlight? with
        | some n => exact .timeOut h late out
        | none => exact .underflow h late out
      · simp only [late, if_false]
        exact .linger h
  | returned => exact .rest
  | crashed fault => exact .rest

theorem isOf_of_move {d : Dispatch} {s : Step} (m : Move loops now cancelled channel d s) :
    ∀ e ∈ s.events, e.isOf .dispatch = true := by
  cases m with
  | leave _ closing => exact closing_isOf closing channel.buffer
  | forgo _ closing => exact List.forall_mem_cons.2 ⟨rfl, closing_isOf closing channel.buffer⟩
  | _ => simp [Event.isOf, saturated]

/-- A unit is replaced by another, and gives back its permit if it has ended with that. -/
def withUnit (d : Dispatch) (index : Nat) (u v : UnitOfWork) : Dispatch :=
  ⟨d.phase, if u.isRunning && !v.isRunning then d.permits.release else d.permits,
    d.units.set index v⟩

/-- A unit that takes a step is replaced by what it has become; without one nothing happens. -/
theorem pollUnit_eq (loops : Loops) (now : Nat) (cancelled : Bool) (index : Nat)
    (reply : Option UnitOfWork.Reply) (d : Dispatch) :
    (d.units[index]? = none ∧ d.pollUnit loops now cancelled index reply = (d, [])) ∨
    ∃ u v events, d.units[index]? = some u ∧ v.id = u.id ∧
      UnitOfWork.Move loops now cancelled reply u.id u.phase v.phase events ∧
      d.pollUnit loops now cancelled index reply = (d.withUnit index u v, events) := by
  unfold pollUnit
  cases h : d.units[index]? with
  | none => exact .inl ⟨rfl, rfl⟩
  | some u => exact .inr ⟨u, _, _, rfl, u.id_poll, u.poll_move, rfl⟩

end FeedIngest.Dispatch
