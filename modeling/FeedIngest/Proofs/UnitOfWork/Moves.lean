import FeedIngest.Proofs.Run

/-! Every step of a unit of work is one of these moves. A fetch goes on for any number of steps
and then ends in one of three ways; an execution that was called is awaited, and what it comes
to is how the unit ends. -/

namespace FeedIngest

/-- Whether the event belongs to a fetch. -/
def Event.isFetch : Event → Bool
  | lookupCalled _ | lookupAnswered _ _ | waiting _ | crashed _ => true
  | _ => false

namespace Fetch

variable {timer : Timer} {policy : RetryPolicy} {id : ItemId} {now : Nat} {shutdown : Bool}
  {answer : Option (Answer Lookup)}

/-- Whether a fetch has come to its end. -/
def Phase.isOver : Phase → Bool
  | .found _ | .cancelled | .crashed _ => true
  | _ => false

theorem isOver_backOff (timer : Timer) (policy : RetryPolicy) (now : Nat) (attempt : UInt32) :
    (backOff timer policy now attempt).isOver = false := by
  unfold backOff
  dsimp only
  cases (policy.interval attempt).isZero <;> rfl

section Move
variable (timer policy id now shutdown answer)

inductive Move : Phase → Phase → List Event → Prop
  | rest {f} : Move f f []
  | ask {attempt} (running : shutdown = false) :
    Move (.asking attempt) (.awaiting attempt now) [.lookupCalled id]
  | find {attempt since item} (running : shutdown = false)
    (answered : answer = some (.ok (.ok (.available item)))) :
    Move (.awaiting attempt since) (.found item) [.lookupAnswered id (.ok (.available item))]
  | miss {attempt since result} (running : shutdown = false)
    (answered : answer = some (.ok result)) (without : ∀ item, result ≠ .ok (.available item)) :
    Move (.awaiting attempt since) (backOff timer policy now attempt)
      [.lookupAnswered id result, .waiting (policy.interval attempt)]
  | crash {attempt since fault} (running : shutdown = false)
    (answered : answer = some (.error fault)) :
    Move (.awaiting attempt since) (.crashed fault) [.crashed fault]
  | again {attempt due} (running : shutdown = false) :
    Move (.backingOff attempt due) (.asking (nextAttempt attempt)) []
  | stop {f} (live : f.isOver = false) (late : shutdown = true) : Move f .cancelled []

end Move

theorem poll_move (f : Phase) :
    Move timer policy id now shutdown answer f (poll timer policy id now shutdown answer f).1
      (poll timer policy id now shutdown answer f).2 := by
  cases f with
  | asking attempt =>
    cases shutdown with
    | true => exact .stop rfl rfl
    | false => exact .ask rfl
  | awaiting attempt since =>
    cases shutdown with
    | true => exact .stop rfl rfl
    | false =>
      match answer with
      | none => exact .rest
      | some (.error fault) => exact .crash rfl rfl
      | some (.ok (.ok (.available item))) => exact .find rfl rfl
      | some (.ok (.ok .notAvailable)) => exact .miss rfl rfl (by intro item h; cases h)
      | some (.ok (.error e)) => exact .miss rfl rfl (by intro item h; cases h)
  | backingOff attempt due =>
    cases shutdown with
    | true => exact .stop rfl rfl
    | false =>
      by_cases hd : due ≤ now
      · simp only [poll, hd, Bool.false_eq_true, if_false, if_true]
        exact .again rfl
      · simp only [poll, hd, Bool.false_eq_true, if_false]
        exact .rest
  | found item => exact .rest
  | cancelled => exact .rest
  | crashed fault => exact .rest

theorem isFetch_of_move {f g : Phase} {events : List Event}
    (h : Move timer policy id now shutdown answer f g events) : ∀ e ∈ events, e.isFetch = true := by
  cases h <;> simp [Event.isFetch]

/-- Only an answer that crashes makes a fetch crash. -/
theorem answer_of_crashed {f : Phase} {fault : Crash} {events : List Event}
    (h : Move timer policy id now shutdown answer f (.crashed fault) events) :
    answer = some (.error fault) ∨ f = .crashed fault := by
  generalize hg : Phase.crashed fault = g at h
  cases h with
  | rest => exact .inr rfl
  | crash _ answered => cases hg; exact .inl answered
  | miss =>
    have hb := isOver_backOff timer policy now ‹UInt32›
    rw [← hg] at hb
    cases hb
  | _ => cases hg

/-- Only a shutdown makes a fetch give up. -/
theorem shutdown_of_cancelled {f : Phase} {events : List Event}
    (h : Move timer policy id now shutdown answer f .cancelled events) :
    shutdown = true ∨ f = .cancelled := by
  generalize hg : Phase.cancelled = g at h
  cases h with
  | rest => exact .inr rfl
  | stop _ late => exact .inl late
  | miss =>
    have hb := isOver_backOff timer policy now ‹UInt32›
    rw [← hg] at hb
    cases hb
  | _ => cases hg

/-- A fetch finds the item that its lookup is answered with, and not after a shutdown. -/
theorem answer_of_found {f : Phase} {item : Item} {events : List Event}
    (h : Move timer policy id now shutdown answer f (.found item) events) (live : f.isOver = false) :
    (∃ attempt since, f = .awaiting attempt since) ∧ shutdown = false ∧
      answer = some (.ok (.ok (.available item))) ∧
      events = [.lookupAnswered id (.ok (.available item))] := by
  generalize hg : Phase.found item = g at h
  cases h with
  | rest => subst hg; cases live
  | find running answered => cases hg; exact ⟨⟨_, _, rfl⟩, running, answered, rfl⟩
  | miss =>
    have hb := isOver_backOff timer policy now ‹UInt32›
    rw [← hg] at hb
    cases hb
  | _ => cases hg

end Fetch

namespace UnitOfWork

variable {loops : Loops} {now : Nat} {cancelled : Bool} {reply : Option Reply}

section Move
variable (loops now cancelled reply) (id : ItemId)

inductive Move : Phase → Phase → List Event → Prop
  | fetch {f g events} (more : g.isOver = false)
    (step : Fetch.Move loops.timer loops.policy id now cancelled (reply.bind Reply.lookup?) f g events) :
    Move (.fetching f) (.fetching g) events
  | find {f item events} (step : Fetch.Move loops.timer loops.policy id now cancelled
      (reply.bind Reply.lookup?) f (.found item) events) :
    Move (.fetching f) (.storing item now) (events ++ [.executeCalled id loops.statement item])
  | giveUp {f events} (step : Fetch.Move loops.timer loops.policy id now cancelled
      (reply.bind Reply.lookup?) f .cancelled events) :
    Move (.fetching f) (.ended .abandoned) (events ++ [.abandoned [id]])
  | fetchCrashes {f fault events} (step : Fetch.Move loops.timer loops.policy id now cancelled
      (reply.bind Reply.lookup?) f (.crashed fault) events) :
    Move (.fetching f) (.ended (.crashed fault)) events
  | await {item since} : Move (.storing item since) (.storing item since) []
  | store {item since elapsed} (answered : reply = some (.execute (.ok (.ok ())))) :
    Move (.storing item since) (.ended .stored)
      [.executeAnswered id (.ok ()), .measured (.processed elapsed)]
  | refuse {item since e} (answered : reply = some (.execute (.ok (.error e)))) :
    Move (.storing item since) (.ended (.refused e)) [.executeAnswered id (.error e)]
  | storeCrashes {item since crash} (answered : reply = some (.execute (.error crash))) :
    Move (.storing item since) (.ended (.crashed crash)) [.crashed crash]
  | rest {outcome} : Move (.ended outcome) (.ended outcome) []

end Move

@[simp] theorem id_poll (u : UnitOfWork) : (u.poll loops now cancelled reply).1.id = u.id := by
  unfold poll
  split
  · rfl
  · split <;> rfl
  · rfl

theorem poll_move (u : UnitOfWork) :
    Move loops now cancelled reply u.id u.phase (u.poll loops now cancelled reply).1.phase
      (u.poll loops now cancelled reply).2 := by
  obtain ⟨id, started, phase⟩ := u
  cases phase with
  | fetching f =>
    simp only [poll]
    have hs : Fetch.Move loops.timer loops.policy id now cancelled (reply.bind Reply.lookup?) f _ _ :=
      Fetch.poll_move f
    generalize Fetch.poll loops.timer loops.policy id now cancelled (reply.bind Reply.lookup?) f = s at hs
    obtain ⟨g, events⟩ := s
    cases g with
    | found item => exact .find hs
    | cancelled => exact .giveUp hs
    | crashed crash =>
      simp only [afterFetch, List.append_nil]
      exact .fetchCrashes hs
    | asking attempt =>
      simp only [afterFetch, List.append_nil]
      exact .fetch rfl hs
    | awaiting attempt since =>
      simp only [afterFetch, List.append_nil]
      exact .fetch rfl hs
    | backingOff attempt due =>
      simp only [afterFetch, List.append_nil]
      exact .fetch rfl hs
  | storing item since =>
    match reply with
    | none => exact .await
    | some (.lookup answer) => exact .await
    | some (.execute (.ok (.ok ()))) => exact .store rfl
    | some (.execute (.ok (.error e))) => exact .refuse rfl
    | some (.execute (.error crash)) => exact .storeCrashes rfl
  | ended outcome => exact .rest

theorem isOf_of_move {id : ItemId} {before after : Phase} {events : List Event}
    (m : Move loops now cancelled reply id before after events) :
    ∀ e ∈ events, e.isOf .unit = true := by
  have hf {f g : Fetch.Phase} {events : List Event} (step : Fetch.Move loops.timer loops.policy id now
      cancelled (reply.bind Reply.lookup?) f g events) : ∀ e ∈ events, e.isOf .unit = true := by
    intro e he
    have := Fetch.isFetch_of_move step e he
    cases e <;> first | rfl | cases this
  cases m with
  | fetch _ step | fetchCrashes step => exact hf step
  | find step | giveUp step =>
    intro e he
    rcases List.mem_append.1 he with he | he
    · exact hf step e he
    · rw [List.mem_singleton.1 he]; rfl
  | await | rest | store | refuse | storeCrashes => simp [Event.isOf]

end UnitOfWork
end FeedIngest
