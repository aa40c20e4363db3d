import FeedIngest.Proofs.Discovery.Moves
import FeedIngest.Proofs.Dispatch.Moves

/-! Every input makes one of these moves, each a move of one task or of someone outside. What
holds of all runs is shown move by move. -/

namespace FeedIngest.Pipeline

variable {loops : Loops} {p : Pipeline} {i : Input}

section Move
variable (loops p)

inductive Move : Input → Pipeline → List Event → Prop
  /-- There is nothing to take, no place, no such unit of work, or nothing to run again. -/
  | rest {i : Input} : Move i p []
  | advance {ticks} : Move (.advance ticks) { p with now := p.now + ticks } []
  | cancel : Move .cancel { p with cancelled := true } []
  | discovery {answer s}
    (task : Discovery.Move loops p.now p.cancelled answer p.channel p.discovery s) :
    Move (.discovery answer) { p with discovery := s.phase, channel := s.channel } s.events
  | dispatch {s} (task : Dispatch.Move loops p.now p.cancelled p.channel p.dispatch s) :
    Move .dispatch { p with dispatch := s.dispatch, channel := s.channel } s.events
  | unit {index reply u v events} (there : p.dispatch.units[index]? = some u) (same : v.id = u.id)
    (task : UnitOfWork.Move loops p.now p.cancelled reply u.id u.phase v.phase events) :
    Move (.unit index reply) { p with dispatch := p.dispatch.withUnit index u v } events
  | reserve (opened : p.channel.closed = false) (place : p.channel.used < p.channel.capacity) :
    Move .reserve { p with channel := p.channel.book } []
  | push {id} (taken : 0 < p.channel.reserved) :
    Move (.push id) { p with channel := p.channel.push id } [.sent id]
  | send {id} (opened : p.channel.closed = false) (place : p.channel.used < p.channel.capacity) :
    Move (.send id) { p with channel := p.channel.put id } [.sent id]
  | stopSending : Move .stopSending { p with channel := p.channel.abandonSending } []
  | take {id later} (taken : p.channel.take? = some (id, later)) :
    Move .take { p with channel := later } [.taken id]
  | close : Move .close { p with channel := p.channel.close } []
  | runAgain {capacity} (returned : p.dispatch.phase = .returned) :
    Move (.runAgain capacity)
      { p with channel := .empty capacity, dispatch := { p.dispatch with phase := .starting } } []

end Move

theorem step_move (p : Pipeline) (i : Input) :
    Move loops p i (p.step loops i).1 (p.step loops i).2 := by
  cases i with
  | advance ticks => exact .advance
  | cancel => exact .cancel
  | discovery answer => exact .discovery (Discovery.poll_move p.discovery)
  | dispatch => exact .dispatch p.dispatch.poll_move
  | unit index reply =>
    obtain ⟨-, hu⟩ | ⟨u, v, events, there, same, task, hu⟩ := Dispatch.pollUnit_eq loops
      p.now p.cancelled index reply p.dispatch
    · simp only [step, hu]
      exact .rest
    · simp only [step, hu]
      exact .unit there same task
  | reserve =>
    obtain ⟨-, hr⟩ | ⟨opened, place, hr⟩ | ⟨-, -, hr⟩ := p.channel.reserve_cases
    · simp only [step, hr]
      exact .rest
    · simp only [step, hr]
      exact .reserve opened place
    · simp only [step, hr]
      exact .rest
  | push id =>
    by_cases taken : 0 < p.channel.reserved
    · simp only [step, taken, if_true]
      exact .push taken
    · simp only [step, taken, if_false]
      exact .rest
  | send id =>
    obtain ⟨-, ho⟩ | ⟨opened, place, ho⟩ | ⟨-, -, ho⟩ := p.channel.offer_cases id
    · simp only [step, ho]
      exact .rest
    · simp only [step, ho]
      exact .send opened place
    · simp only [step, ho]
      exact .rest
  | stopSending => exact .stopSending
  | take =>
    cases taken : p.channel.take? with
    | none =>
      simp only [step, taken]
      exact .rest
    | some next =>
      simp only [step, taken]
      exact .take taken
  | close => exact .close
  | runAgain capacity =>
    by_cases returned : p.dispatch.phase = .returned
    · simp only [step, returned, if_true]
      exact .runAgain returned
    · simp only [step, returned, if_false]
      exact .rest

theorem Move.isOf {q : Pipeline} {events : List Event} (m : Move loops p i q events) :
    ∀ e ∈ events, e.isOf i.actor = true := by
  cases m with
  | discovery task => exact Discovery.isOf_of_move task
  | dispatch task => exact Dispatch.isOf_of_move task
  | unit _ _ task => exact UnitOfWork.isOf_of_move task
  | _ => simp [Event.isOf, Input.actor]

/-- What every move keeps holds after any run. -/
theorem run_induction {P : Pipeline → List Event → Prop} {inputs : List Input} (h0 : P p [])
    (hs : ∀ p i q events es, i ∈ inputs → Move loops p i q events → P p es → P q (es ++ events)) :
    P (p.run loops inputs).pipeline (p.run loops inputs).events := by
  apply run_invariant (P := fun r => P r.pipeline r.events) h0
  intro r i hi hr
  rw [Run.pipeline_step, Run.events_step]
  exact hs r.pipeline i _ _ r.events hi (step_move r.pipeline i) hr

/-- Time goes on. -/
theorem now_run (loops : Loops) (p : Pipeline) (inputs : List Input) :
    p.now ≤ (p.run loops inputs).pipeline.now := by
  apply run_induction (P := fun q _ => p.now ≤ q.now) (Nat.le_refl _)
  intro q i q' events es _ m h
  cases m with
  | advance => exact Nat.le_trans h (Nat.le_add_right _ _)
  | _ => exact h

end FeedIngest.Pipeline
