import FeedIngest.Proofs.Discovery.Liveness
import Mathlib.Data.List.DropRight

/-! The arithmetic of discovery. An identifier is announced only below the maximum of its poll, so that
another one follows it, however high the maxima are. The watermark at the end of a poll is as far from
that at its beginning as identifiers were announced in it. So no sum and no difference fails, and
discovery crashes only with the feed, or when a deadline lies past the end of the calendar. -/

namespace FeedIngest

namespace Event

def callsMaximum : Event → Bool
  | maximumCalled => true
  | _ => false

/-- Whether the event changes what a poll has announced. -/
def ofPoll : Event → Bool
  | maximumCalled | announced _ => true
  | _ => false

theorem callsMaximum_of_ofPoll {e : Event} (h : e.ofPoll = false) : e.callsMaximum = false := by
  cases e <;> first | rfl | cases h

theorem announces_of_ofPoll {e : Event} (h : e.ofPoll = false) : e.announces = [] := by
  cases e <;> first | rfl | cases h

theorem ofPoll_of_isOf {a : Actor} {e : Event} (h : e.isOf a = true) (ha : a ≠ .discovery) :
    e.ofPoll = false := by
  cases a with
  | discovery => exact absurd rfl ha
  | _ => cases e <;> first | rfl | cases h

end Event

namespace Discovery

variable {es tail : List Event}

/-- What has been done since the maximum was last called for. -/
def latestPoll (es : List Event) : List Event := es.rtakeWhile fun e => !e.callsMaximum

theorem latestPoll_call (es : List Event) : latestPoll (es ++ [.maximumCalled]) = [] :=
  List.rtakeWhile_concat_neg _ _ _ (by simp [Event.callsMaximum])

theorem latestPoll_append (h : ∀ e ∈ tail, e.callsMaximum = false) :
    latestPoll (es ++ tail) = latestPoll es ++ tail := by
  induction tail using List.reverseRecOn with
  | nil => rw [List.append_nil, List.append_nil]
  | append_singleton tail e ih =>
    rw [List.forall_mem_append] at h
    have last := List.rtakeWhile_concat_pos (fun e : Event => !e.callsMaximum) (es ++ tail) e
      (by rw [h.2 e (List.mem_singleton_self e)]; rfl)
    rw [← List.append_assoc, latestPoll, last, ← latestPoll, ih h.1, List.append_assoc]

/-- What the latest poll has announced. -/
def announcedLately (es : List Event) : List ItemId := (latestPoll es).flatMap Event.announces

theorem announcedLately_call (es : List Event) : announcedLately (es ++ [.maximumCalled]) = [] := by
  rw [announcedLately, latestPoll_call]
  rfl

theorem announcedLately_append (h : ∀ e ∈ tail, e.callsMaximum = false) :
    announcedLately (es ++ tail) = announcedLately es ++ tail.flatMap Event.announces := by
  rw [announcedLately, latestPoll_append h, List.flatMap_append, announcedLately]

theorem announcedLately_of_silent (h : ∀ e ∈ tail, e.ofPoll = false) :
    announcedLately (es ++ tail) = announcedLately es := by
  have silent : tail.flatMap Event.announces = [] :=
    List.flatMap_eq_nil_iff.2 fun e he => Event.announces_of_ofPoll (h e he)
  rw [announcedLately_append fun e he => Event.callsMaximum_of_ofPoll (h e he), silent,
    List.append_nil]

/-- What the latest poll has announced, by the phase: nothing before it is answered, and then all
from the watermark it began at up to the present one. -/
def Counted (es : List Event) : Phase → Prop
  | .awaitingPoll _ _ => announcedLately es = []
  | .announcing mark before _ => before.next ≤ mark.next ∧
    announcedLately es = (Span.mk before.next mark.next).toList
  | _ => True

section Step
variable {loops : Loops} {now : Nat} {cancelled : Bool} {answer : Option (Answer ItemId)}
  {channel : Channel} {phase : Phase} {step : Step} {mark before : Watermark} {rest later : Span}
  {id : ItemId}

theorem Counted.append_silent (h : Counted es phase) (silent : ∀ e ∈ tail, e.ofPoll = false) :
    Counted (es ++ tail) phase := by
  cases phase with
  | awaitingPoll | announcing =>
    rw [Counted, announcedLately_of_silent silent]
    exact h
  | _ => trivial

/-- What is announced next is at the watermark, and below the latest maximum. -/
theorem Tracks.next (h : Tracks es (.announcing mark before rest))
    (left : rest.next? = some (id, later)) : id = mark.next ∧ id < rest.stop ∧
      (es.flatMap Event.answers).getLast? = some (.ok rest.stop) := by
  obtain ⟨-, first, last, -⟩ := h
  obtain ⟨rfl, below, -⟩ := Span.next?_eq_some left
  exact ⟨first, below, last⟩

theorem Counted.announce {next : Watermark} (h : Counted es (.announcing mark before rest))
    (tracks : Tracks es (.announcing mark before rest)) (left : rest.next? = some (id, later))
    (moves : mark.advancePast? id = some next) (rest' : Span) :
    Counted (es ++ [.announced id]) (.announcing next before rest') := by
  obtain ⟨forward, announced⟩ := h
  obtain ⟨rfl, -⟩ := tracks.next left
  have place := Watermark.toNat_of_advancePast? moves
  have follows : next.next.toNat = mark.next.toNat + 1 := by omega
  have grown : announcedLately (es ++ [.announced mark.next]) = announcedLately es ++ [mark.next] :=
    announcedLately_append (by simp [Event.callsMaximum])
  rw [ItemId.le_iff] at forward
  refine ⟨?_, ?_⟩
  · rw [ItemId.le_iff]
    omega
  · rw [grown, announced, Span.toList_concat forward follows]

theorem Counted.move (h : Counted es phase) (tracks : Tracks es phase)
    (m : Move loops now cancelled answer channel phase step) :
    Counted (es ++ step.events) step.phase := by
  cases m with
  | rest | block => rw [List.append_nil]; exact h
  | poll => exact announcedLately_call es
  | @see mark =>
    refine ⟨Nat.le_refl mark.next.toNat, ?_⟩
    rw [announcedLately_of_silent (by simp [Event.ofPoll]), h,
      Span.toList_eq_nil (Nat.le_refl mark.next.toNat)]
  | @announce _ _ _ _ later _ _ _ left _ _ moves =>
    rw [List.append_cons]
    exact (h.announce tracks left moves later).append_silent (by simp [Event.ofPoll])
  | _ => trivial

/-- The difference of the watermarks is the number of identifiers announced. -/
theorem Counted.discovered (h : Counted es (.announcing mark before rest)) :
    discovered? mark before = some (announcedLately es).length := by
  obtain ⟨forward, announced⟩ := h
  rw [discovered?, if_pos forward, announced, Span.length_toList]
  rfl

/-- A poll tells the number of identifiers it has announced. -/
theorem Counted.told {n : Nat} (h : Counted es phase)
    (m : Move loops now cancelled answer channel phase step) (said : .polled n ∈ step.events) :
    n = (announcedLately es).length := by
  cases m with
  | complete _ moved =>
    rw [h.discovered, Option.some.injEq] at moved
    rw [moved]
    simpa [pause] using said
  | _ => simp [pause, finish, crash] at said

/-- A step crashes with the feed, or with a deadline that is past the end of the calendar. -/
theorem Counted.crashes {fault : Crash} (h : Counted es phase) (tracks : Tracks es phase)
    (crashed : (poll loops now cancelled answer channel phase).phase = .crashed fault) :
    phase = .crashed fault ∨ answer = some (.error fault) ∨ (∃ cause, fault = .calendar cause) ∧
      Moment.calendarEnd ≤ (loops.clock now).nanos + loops.deadline.nanos := by
  have move : Move loops now cancelled answer channel phase _ := poll_move phase
  have reports (fits : (loops.clock now).nanos + loops.deadline.nanos < Moment.calendarEnd) :
      Advances phase (poll loops now cancelled answer channel phase).events →
      (poll loops now cancelled answer channel phase).events.flatMap Event.reports ≠ [] := by
    intro advances
    obtain ⟨-, told⟩ | ⟨idle, -⟩ := @poll_reports loops now cancelled answer channel fits phase
    · rw [told]
      exact List.cons_ne_nil _ _
    · exact absurd advances idle
  generalize poll loops now cancelled answer channel phase = s at move reports crashed
  cases move with
  | rest => exact .inl crashed
  | callFails _ failed => cases crashed; exact .inr (.inl failed)
  | @reportFails mark cause =>
    cases crashed
    refine .inr (.inr ⟨⟨cause, rfl⟩, Int.not_lt.1 fun fits => ?_⟩)
    exact reports fits (.inl ⟨mark, rfl⟩) rfl
  | @announceLast _ _ _ id _ _ cause =>
    cases crashed
    refine .inr (.inr ⟨⟨cause, rfl⟩, Int.not_lt.1 fun fits => ?_⟩)
    exact reports fits (.inr ⟨id, List.mem_cons_self⟩) rfl
  | @overflow mark _ _ _ _ _ left _ _ moves =>
    obtain ⟨-, below, -⟩ := tracks.next left
    obtain ⟨next, some⟩ := mark.exists_advancePast? below
    rw [some] at moves
    cases moves
  | underflow _ moved =>
    rw [h.discovered] at moved
    cases moved
  | _ => cases crashed

end Step

variable {loops : Loops} {p : Pipeline} {inputs : List Pipeline.Input}

theorem Counted.step (h : Counted es p.discovery) (tracks : Tracks es p.discovery)
    (i : Pipeline.Input) : Counted (es ++ (p.step loops i).2) (p.step loops i).1.discovery := by
  have move : Pipeline.Move loops p i _ _ := p.step_move i
  cases i with
  | discovery answer => exact h.move tracks (poll_move p.discovery)
  | _ =>
    rw [move.discovery_eq (by simp [Pipeline.Input.actor])]
    exact h.append_silent fun e he =>
      Event.ofPoll_of_isOf (move.isOf e he) (by simp [Pipeline.Input.actor])

theorem counted_run (fresh : p.discovery = start) (inputs : List Pipeline.Input) :
    Counted (p.run loops inputs).events (p.run loops inputs).pipeline.discovery := by
  induction inputs using List.reverseRecOn with
  | nil => rw [Pipeline.run_nil, fresh]; trivial
  | append_singleton inputs i ih =>
    rw [Pipeline.run_concat, Pipeline.Run.events_step]
    exact ih.step (tracks_run fresh inputs) i

/-- Discovery crashes with the feed, or when a deadline has come to lie past the end of the calendar. -/
theorem crashed_run (fresh : p.discovery = start) {fault : Crash}
    (crashed : (p.run loops inputs).pipeline.discovery = .crashed fault) :
    .discovery (some (.error fault)) ∈ inputs ∨ (∃ cause, fault = .calendar cause) ∧
      ∃ n ≤ (p.run loops inputs).pipeline.now,
        Moment.calendarEnd ≤ (loops.clock n).nanos + loops.deadline.nanos := by
  induction inputs using List.reverseRecOn with
  | nil => rw [Pipeline.run_nil, fresh] at crashed; cases crashed
  | append_singleton inputs i ih =>
    have later := now_concat loops p inputs [i]
    have earlier (before : (p.run loops inputs).pipeline.discovery = .crashed fault) :
        .discovery (some (.error fault)) ∈ inputs ++ [i] ∨ (∃ cause, fault = .calendar cause) ∧
          ∃ n ≤ (p.run loops (inputs ++ [i])).pipeline.now,
            Moment.calendarEnd ≤ (loops.clock n).nanos + loops.deadline.nanos := by
      rcases ih before with answered | ⟨cause, n, past, late⟩
      · exact .inl (List.mem_append_left _ answered)
      · exact .inr ⟨cause, n, past.trans later, late⟩
    rw [Pipeline.run_concat] at crashed
    by_cases own : i.actor = .discovery
    · cases i with
      | discovery answer =>
        rcases (counted_run fresh inputs).crashes (tracks_run fresh inputs) crashed with
          before | rfl | ⟨cause, late⟩
        · exact earlier before
        · exact .inl (List.mem_append_right _ (List.mem_singleton_self _))
        · exact .inr ⟨cause, _, later, late⟩
      | _ => cases own
    · exact earlier (((Pipeline.step_move _ i).discovery_eq own).symm.trans crashed)

/-- The arithmetic of discovery after some inputs. -/
structure Reckons (loops : Loops) (p : Pipeline) (inputs : List Pipeline.Input) : Prop where
  /-- What is announced next lies below the maximum of its poll, so that another identifier follows it,
  and the watermark moves there. -/
  followed : ∀ mark before rest id later,
    (p.run loops inputs).pipeline.discovery = .announcing mark before rest →
    rest.next? = some (id, later) → ∃ max next,
      (p.run loops inputs).answers.getLast? = some (.ok max) ∧ id < max ∧
      id.next? = some next ∧ mark.advancePast? id = some ⟨next⟩
  /-- The watermark is never below that at the beginning of its poll, and as far from it as the poll
  has announced. -/
  counted : ∀ mark before rest,
    (p.run loops inputs).pipeline.discovery = .announcing mark before rest →
    before.next ≤ mark.next ∧
      discovered? mark before = some (announcedLately (p.run loops inputs).events).length
  /-- That is the number which is told at the end of a poll. -/
  told : ∀ i n, .polled n ∈ ((p.run loops inputs).pipeline.step loops i).2 →
    n = (announcedLately (p.run loops inputs).events).length
  /-- A poll that has nothing left tells it in the next step. -/
  completed : ∀ mark before rest,
    (p.run loops inputs).pipeline.discovery = .announcing mark before rest → rest.next? = none →
    ∀ answer, .polled (announcedLately (p.run loops inputs).events).length ∈
      ((p.run loops inputs).pipeline.step loops (.discovery answer)).2
  crashed : ∀ fault, (p.run loops inputs).pipeline.discovery = .crashed fault →
    .discovery (some (.error fault)) ∈ inputs ∨ (∃ cause, fault = .calendar cause) ∧
      ∃ n ≤ (p.run loops inputs).pipeline.now,
        Moment.calendarEnd ≤ (loops.clock n).nanos + loops.deadline.nanos

/-- Whatever maxima the feed answers, up to the very last identifier, and whatever else happens. -/
theorem reckons_in_range (fresh : p.discovery = start) (inputs : List Pipeline.Input) :
    Reckons loops p inputs := by
  have tracks : Tracks (p.run loops inputs).events _ := tracks_run fresh inputs
  have counted : Counted (p.run loops inputs).events _ := counted_run fresh inputs
  constructor
  case followed =>
    intro mark before rest id later phase left
    rw [phase] at tracks
    obtain ⟨rfl, below, last⟩ := tracks.next left
    obtain ⟨next, moves, place⟩ := Watermark.advancePast?_next below
    exact ⟨rest.stop, next.next, last, below, ItemId.next?_eq_some.2 place, moves⟩
  case counted =>
    intro mark before rest phase
    rw [phase] at counted
    exact ⟨counted.1, counted.discovered⟩
  case told =>
    intro i n said
    -- No one but discovery tells a number.
    cases i with
    | discovery answer => exact counted.told (poll_move _) said
    | _ => cases (Pipeline.step_move _ _).isOf _ said
  case completed =>
    intro mark before rest phase left answer
    rw [phase] at counted
    simp [Pipeline.step, phase, poll, announce, left, counted.discovered, pause]
  case crashed =>
    intro fault
    exact crashed_run fresh

/-- A feed at the last identifier but one, then far below, then at the very last one. -/
def topInputs : List Pipeline.Input :=
  [.discovery none, .discovery (some (.ok (.ok ⟨18446744073709551614⟩))), .discovery none,
    .discovery none, .discovery (some (.ok (.ok ⟨5⟩))), .discovery none, .advance 1000,
    .discovery none, .discovery none, .discovery none,
    .discovery (some (.ok (.ok ⟨18446744073709551615⟩))), .discovery none]

/-- The watermark gets to the very last identifier, which is never announced. -/
theorem reckons_in_range_top :
    (Pipeline.start 2 1).discovery = start ∧ Reckons .sample (Pipeline.start 2 1) topInputs ∧
      ((Pipeline.start 2 1).run .sample topInputs).pipeline.discovery =
        .announcing ⟨⟨18446744073709551615⟩⟩ ⟨⟨18446744073709551614⟩⟩
          ⟨⟨18446744073709551615⟩, ⟨18446744073709551615⟩⟩ ∧
      announcedLately ((Pipeline.start 2 1).run .sample topInputs).events =
        [⟨18446744073709551614⟩] :=
  ⟨rfl, reckons_in_range rfl topInputs, by decide, by decide⟩

end Discovery
end FeedIngest
