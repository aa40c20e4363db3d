import FeedIngest.Proofs.Channel
import FeedIngest.Proofs.Run

/-! Every step of discovery is one of these moves, each with the conditions under which it is
made. What holds of all steps is shown move by move. -/

namespace FeedIngest.Discovery

variable {loops : Loops} {now : Nat} {cancelled : Bool} {answer : Option (Answer ItemId)}
  {channel : Channel}

/-- Whether the first maximum is still to be read. -/
def Phase.isStarting : Phase → Bool
  | asking _ | awaiting _ _ | backingOff _ _ => true
  | _ => false

section Move
variable (loops now cancelled answer channel)

inductive Move : Phase → Step → Prop
  /-- What it waits for has not come, or it is over. -/
  | rest {phase} : Move phase ⟨phase, channel, []⟩
  | ask {attempt} (running : cancelled = false) :
    Move (.asking attempt) ⟨.awaiting attempt now, channel, [.maximumCalled]⟩
  | retry {attempt since e} (running : cancelled = false)
    (failed : answer = some (.ok (.error e))) :
    Move (.awaiting attempt since)
      ⟨.backingOff attempt (loops.timer.due now (loops.policy.interval attempt)), channel,
        [.maximumAnswered (.error e), .waiting (loops.policy.interval attempt)]⟩
  | again {attempt due} (running : cancelled = false) :
    Move (.backingOff attempt due) ⟨.asking (Fetch.nextAttempt attempt), channel, []⟩
  | learn {attempt since max} (running : cancelled = false) (read : answer = some (.ok (.ok max))) :
    Move (.awaiting attempt since)
      ⟨.reporting ⟨max⟩, channel, [.maximumAnswered (.ok max), .measured (.watermark max)]⟩
  | decline {phase} (early : phase.isStarting = true) (shutdown : cancelled = true) :
    Move phase (finish channel (some .cancelledBeforeStart))
  | report {mark moment} :
    Move (.reporting mark) ⟨.polling mark, channel, [.reported moment]⟩
  | reportFails {mark fault} : Move (.reporting mark) (crash channel (.calendar fault) [])
  | poll {mark} (running : cancelled = false) :
    Move (.polling mark) ⟨.awaitingPoll mark now, channel, [.maximumCalled]⟩
  | see {mark since max} (running : cancelled = false) (read : answer = some (.ok (.ok max))) :
    Move (.awaitingPoll mark since)
      ⟨.announcing mark mark (mark.pending max), channel, [.maximumAnswered (.ok max)]⟩
  | miss {mark since e} (running : cancelled = false) (failed : answer = some (.ok (.error e))) :
    Move (.awaitingPoll mark since) (pause loops now channel mark [.maximumAnswered (.error e)])
  | callFails {phase fault} (running : cancelled = false) (failed : answer = some (.error fault)) :
    Move phase (crash channel fault [])
  | announce {mark before rest id later next moment} (running : cancelled = false)
    (left : rest.next? = some (id, later)) (opened : channel.closed = false)
    (place : channel.used < channel.capacity) (moves : mark.advancePast? id = some next) :
    Move (.announcing mark before rest)
      ⟨.announcing next before later, channel.put id, [.announced id, .reported moment]⟩
  | announceLast {mark before rest id later next fault} (running : cancelled = false)
    (left : rest.next? = some (id, later)) (opened : channel.closed = false)
    (place : channel.used < channel.capacity) (moves : mark.advancePast? id = some next) :
    Move (.announcing mark before rest) (crash (channel.put id) (.calendar fault) [.announced id])
  | overflow {mark before rest id later} (running : cancelled = false)
    (left : rest.next? = some (id, later)) (opened : channel.closed = false)
    (place : channel.used < channel.capacity) (moves : mark.advancePast? id = none) :
    Move (.announcing mark before rest) (crash (channel.put id) .additionOverflow [.announced id])
  | block {mark before rest id later} (running : cancelled = false)
    (left : rest.next? = some (id, later)) (opened : channel.closed = false)
    (full : channel.capacity ≤ channel.used) :
    Move (.announcing mark before rest) ⟨.announcing mark before rest, channel.block, []⟩
  | refuse {mark before rest id later} (running : cancelled = false)
    (left : rest.next? = some (id, later)) (closed : channel.closed = true) :
    Move (.announcing mark before rest) (finish channel (some .channelClosed))
  | complete {mark before rest n} (left : rest.next? = none)
    (moved : discovered? mark before = some n) :
    Move (.announcing mark before rest)
      (pause loops now channel mark [.measured (.watermark mark.next), .polled n])
  | underflow {mark before rest} (left : rest.next? = none)
    (moved : discovered? mark before = none) :
    Move (.announcing mark before rest)
      (crash channel .subtractionOverflow [.measured (.watermark mark.next)])
  | wake {mark due} (running : cancelled = false) :
    Move (.pausing mark due) ⟨.reporting mark, channel, []⟩
  | stop {phase mark} (late : phase.mark? = some mark) (shutdown : cancelled = true) :
    Move phase (finish channel none)

end Move

theorem announce_move (mark before : Watermark) (rest : Span) :
    Move loops now cancelled answer channel (.announcing mark before rest)
      (announce loops now cancelled channel mark before rest) := by
  unfold announce
  cases left : rest.next? with
  | none =>
    cases moved : discovered? mark before with
    | some n => exact .complete left moved
    | none => exact .underflow left moved
  | some next =>
    obtain ⟨id, later⟩ := next
    cases cancelled with
    | true => exact .stop rfl rfl
    | false =>
      obtain ⟨closed, ho⟩ | ⟨opened, place, ho⟩ | ⟨opened, full, ho⟩ := channel.offer_cases id
      · simp only [ho, Bool.false_eq_true, if_false]
        exact .refuse rfl left closed
      · simp only [ho, Bool.false_eq_true, if_false]
        cases moves : mark.advancePast? id with
        | none => exact .overflow rfl left opened place moves
        | some next =>
          unfold report
          cases (loops.clock now).add loops.deadline with
          | ok moment => exact .announce rfl left opened place moves
          | error fault => exact .announceLast rfl left opened place moves
      · simp only [ho, Bool.false_eq_true, if_false]
        exact .block rfl left opened full

theorem poll_move (phase : Phase) :
    Move loops now cancelled answer channel phase
      (poll loops now cancelled answer channel phase) := by
  cases phase with
  | asking attempt =>
    cases cancelled with
    | true => exact .decline rfl rfl
    | false => exact .ask rfl
  | awaiting attempt since =>
    cases cancelled with
    | true => exact .decline rfl rfl
    | false =>
      match answer with
      | none => exact .rest
      | some (.error fault) => exact .callFails rfl rfl
      | some (.ok (.ok max)) => exact .learn rfl rfl
      | some (.ok (.error e)) => exact .retry rfl rfl
  | backingOff attempt due =>
    cases cancelled with
    | true => exact .decline rfl rfl
    | false =>
      by_cases hd : due ≤ now
      · simp only [Discovery.poll, hd, Bool.false_eq_true, if_false, if_true]
        exact .again rfl
      · simp only [Discovery.poll, hd, Bool.false_eq_true, if_false]
        exact .rest
  | reporting mark =>
    simp only [Discovery.poll, Discovery.report]
    cases (loops.clock now).add loops.deadline with
    | ok moment => exact .report
    | error fault => exact .reportFails
  | polling mark =>
    cases cancelled with
    | true => exact .stop rfl rfl
    | false => exact .poll rfl
  | awaitingPoll mark since =>
    cases cancelled with
    | true => exact .stop rfl rfl
    | false =>
      match answer with
      | none => exact .rest
      | some (.error fault) => exact .callFails rfl rfl
      | some (.ok (.ok max)) => exact .see rfl rfl
      | some (.ok (.error e)) => exact .miss rfl rfl
  | announcing mark before rest => exact announce_move mark before rest
  | pausing mark due =>
    cases cancelled with
    | true => exact .stop rfl rfl
    | false =>
      by_cases hd : due ≤ now
      · simp only [Discovery.poll, hd, Bool.false_eq_true, if_false, if_true]
        exact .wake rfl
      · simp only [Discovery.poll, hd, Bool.false_eq_true, if_false]
        exact .rest
  | ended error => exact .rest
  | crashed fault => exact .rest

theorem isOf_of_move {phase : Phase} {s : Step}
    (m : Move loops now cancelled answer channel phase s) :
    ∀ e ∈ s.events, e.isOf .discovery = true := by
  cases m <;> simp [Event.isOf, finish, crash, pause]

end FeedIngest.Discovery
