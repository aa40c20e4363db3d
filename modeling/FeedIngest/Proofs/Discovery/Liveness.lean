import FeedIngest.Proofs.Discovery.Order
import FeedIngest.Proofs.Health.Registry

/-! How discovery is shown while it runs. With its clock and its waits on one time line, the
registry shows it as starting until its first poll, and from then on as healthy until its deadline
after the last progress: the beginning of a poll, or an identifier put on the channel. So it is
enough to make progress more often than the deadline, however long the backlog and whatever becomes
of the polls, and whoever makes none for that long is shown as stalled. -/

namespace FeedIngest

/-- Clock and waits are on one time line. -/
def Loops.Steady (loops : Loops) : Prop :=
  ∀ n, (loops.clock n).nanos = (loops.clock 0).nanos + n * 1000000

/-- What fits in the calendar at some time has fitted before. -/
theorem Loops.Steady.fits {loops : Loops} {earlier later : Nat} (steady : loops.Steady)
    (le : earlier ≤ later)
    (fits : (loops.clock later).nanos + loops.deadline.nanos < Moment.calendarEnd) :
    (loops.clock earlier).nanos + loops.deadline.nanos < Moment.calendarEnd := by
  have := steady earlier
  have := steady later
  omega

/-- The deadlines that discovery reports. -/
def Event.reports : Event → List Moment
  | reported moment => [moment]
  | _ => []

/-- Only its own steps lead discovery on. -/
theorem Pipeline.Move.discovery_eq {loops : Loops} {p q : Pipeline} {i : Input}
    {events : List Event} (m : Move loops p i q events) (other : i.actor ≠ .discovery) :
    q.discovery = p.discovery := by
  cases m with
  | discovery => exact absurd rfl other
  | _ => rfl

theorem Watermark.exists_advancePast? {id max : ItemId} (h : id < max) (mark : Watermark) :
    ∃ next, mark.advancePast? id = some next := by
  have top := max.toNat_le
  rw [ItemId.lt_iff] at h
  obtain ⟨last, -⟩ | ⟨-, next, moves, -⟩ := mark.advancePast?_cases id
  · omega
  · exact ⟨next, moves⟩

namespace Discovery

/-- A step in which a poll begins or an identifier is put on the channel. -/
def Advances (phase : Phase) (events : List Event) : Prop :=
  (∃ mark, phase = .reporting mark) ∨ ∃ id, .announced id ∈ events

/-- An input with which discovery does so. -/
def Progresses (loops : Loops) (p : Pipeline) : Pipeline.Input → Prop
  | .discovery answer => Advances p.discovery (p.step loops (.discovery answer)).2
  | _ => False

/-- Discovery made progress then, and none since. -/
inductive LastProgress (loops : Loops) (p : Pipeline) : List Pipeline.Input → Nat → Prop
  | now {inputs i} (made : Progresses loops (p.run loops inputs).pipeline i) :
    LastProgress loops p (inputs ++ [i]) (p.run loops inputs).pipeline.now
  | before {inputs i since} (earlier : LastProgress loops p inputs since)
    (idle : ¬ Progresses loops (p.run loops inputs).pipeline i) :
    LastProgress loops p (inputs ++ [i]) since

/-- Until when discovery is healthy if it last made progress then. -/
def healthyUntil (loops : Loops) (since : Nat) : Moment :=
  ⟨(loops.clock since).nanos + loops.deadline.nanos⟩

/-- How discovery is shown at a moment, after what was done. -/
def shownAt (loops : Loops) (events : List Event) (t : Moment) : Option Health.Status :=
  ((registryAfter loops.deadline events).reportAt t).components.get? component

variable {loops : Loops} {now : Nat} {cancelled : Bool} {answer : Option (Answer ItemId)}
  {channel : Channel} {phase : Phase} {p : Pipeline} {inputs : List Pipeline.Input}
  {i : Pipeline.Input} {since : Nat}

section Step
variable (fits : (loops.clock now).nanos + loops.deadline.nanos < Moment.calendarEnd)
include fits

theorem report_eq (channel : Channel) (before : List Event) (next : Phase) :
    report loops now channel before next =
      ⟨next, channel, before ++ [.reported (healthyUntil loops now)]⟩ := by
  obtain ⟨-, sum⟩ | ⟨late, -⟩ := (loops.clock now).add_cases loops.deadline
  · rw [report, sum]
    rfl
  · exact absurd fits (Int.not_lt.2 late)

/-- Each identifier that is put on the channel is reported. -/
theorem announce_reports (cancelled : Bool) (channel : Channel) (mark before : Watermark)
    (rest : Span) :
    let s := announce loops now cancelled channel mark before rest
    ((∃ id, .announced id ∈ s.events) ∧
      s.events.flatMap Event.reports = [healthyUntil loops now]) ∨
    ((∀ id, .announced id ∉ s.events) ∧ s.events.flatMap Event.reports = []) := by
  unfold announce
  cases left : rest.next? with
  | none => cases discovered? mark before <;> exact .inr (by simp [pause, crash, Event.reports])
  | some next =>
    obtain ⟨id, later⟩ := next
    cases cancelled with
    | true => exact .inr (by simp [finish, Event.reports])
    | false =>
      obtain ⟨-, ho⟩ | ⟨-, -, ho⟩ | ⟨-, -, ho⟩ := channel.offer_cases id
      · exact .inr (by simp [ho, finish, Event.reports])
      · obtain ⟨rfl, below, -⟩ := Span.next?_eq_some left
        obtain ⟨next, moves⟩ := mark.exists_advancePast? below
        simp only [ho, moves, report_eq fits, Bool.false_eq_true, if_false]
        exact .inl (by simp [Event.reports])
      · exact .inr (by simp [ho])

/-- A step of discovery reports if it advances, and only then. -/
theorem poll_reports (phase : Phase) :
    let s := poll loops now cancelled answer channel phase
    (Advances phase s.events ∧ s.events.flatMap Event.reports = [healthyUntil loops now]) ∨
    (¬ Advances phase s.events ∧ s.events.flatMap Event.reports = []) := by
  have move : Move loops now cancelled answer channel phase _ := poll_move phase
  cases phase with
  | reporting mark =>
    refine .inl ⟨.inl ⟨mark, rfl⟩, ?_⟩
    rw [poll, report_eq fits]
    rfl
  | announcing mark before rest =>
    obtain ⟨put, told⟩ | ⟨none, silent⟩ :=
      announce_reports fits cancelled channel mark before rest
    · exact .inl ⟨.inr put, told⟩
    · refine .inr ⟨?_, silent⟩
      rintro (⟨-, -, ⟨⟩⟩ | ⟨id, put⟩)
      exact none id put
  | _ =>
    refine .inr ?_
    generalize poll loops now cancelled answer channel _ = s at move
    cases move <;> simp [Advances, Event.reports, pause, crash, finish]

end Step

theorem step_reports
    (fits : (loops.clock p.now).nanos + loops.deadline.nanos < Moment.calendarEnd)
    (i : Pipeline.Input) :
    (Progresses loops p i ∧ (p.step loops i).2.flatMap Event.reports = [healthyUntil loops p.now]) ∨
    (¬ Progresses loops p i ∧ (p.step loops i).2.flatMap Event.reports = []) := by
  cases i with
  | discovery answer => exact poll_reports fits p.discovery
  | _ =>
    refine .inr ⟨id, List.flatMap_eq_nil_iff.2 fun e he => ?_⟩
    have of := (Pipeline.step_move p _).isOf e he
    cases e <;> first | rfl | cases of

theorem not_lastProgress_nil : ¬ LastProgress loops p [] since := by
  generalize hn : ([] : List Pipeline.Input) = inputs
  rintro (_ | _) <;> simp at hn

theorem lastProgress_concat : LastProgress loops p (inputs ++ [i]) since ↔
    (Progresses loops (p.run loops inputs).pipeline i ∧
      since = (p.run loops inputs).pipeline.now) ∨
    (¬ Progresses loops (p.run loops inputs).pipeline i ∧ LastProgress loops p inputs since) := by
  constructor
  · generalize hl : inputs ++ [i] = all
    rintro (made | ⟨earlier, idle⟩) <;> obtain ⟨rfl, hi⟩ := List.append_inj' hl rfl <;>
      obtain rfl := List.singleton_inj.1 hi
    · exact .inl ⟨made, rfl⟩
    · exact .inr ⟨idle, earlier⟩
  · rintro (⟨made, rfl⟩ | ⟨idle, earlier⟩)
    · exact .now made
    · exact .before earlier idle

theorem now_concat (loops : Loops) (p : Pipeline) (inputs more : List Pipeline.Input) :
    (p.run loops inputs).pipeline.now ≤ (p.run loops (inputs ++ more)).pipeline.now := by
  rw [Pipeline.run_append, Pipeline.pipeline_resume]
  exact Pipeline.now_run loops _ more

/-- The last deadline that was reported is that of the last progress. -/
theorem reported_last (steady : loops.Steady)
    (fits : (loops.clock (p.run loops inputs).pipeline.now).nanos + loops.deadline.nanos <
      Moment.calendarEnd) :
    ((∀ since, ¬ LastProgress loops p inputs since) ∧
      (p.run loops inputs).collect Event.reports = []) ∨
    ∃ since ≤ (p.run loops inputs).pipeline.now, (∀ t, LastProgress loops p inputs t ↔ t = since) ∧
      ((p.run loops inputs).collect Event.reports).getLast? = some (healthyUntil loops since) := by
  -- A step tells its own deadline or none, so the last one told is of this step or of before.
  induction inputs using List.reverseRecOn with
  | nil => exact .inl ⟨fun _ => not_lastProgress_nil, rfl⟩
  | append_singleton inputs i ih =>
    have later := now_concat loops p inputs [i]
    have earlier := steady.fits later fits
    simp only [lastProgress_concat]
    rcases step_reports earlier i with ⟨made, told⟩ | ⟨idle, silent⟩
    · refine .inr ⟨_, later, fun t => by simp [made], ?_⟩
      rw [Pipeline.run_concat, Pipeline.Run.collect_step, told, List.getLast?_concat]
    · have same : (p.run loops (inputs ++ [i])).collect Event.reports =
          (p.run loops inputs).collect Event.reports := by
        rw [Pipeline.run_concat, Pipeline.Run.collect_step, silent, List.append_nil]
      rw [same]
      obtain ⟨never, none⟩ | ⟨since, past, last, told⟩ := ih earlier
      · exact .inl ⟨by simpa [idle] using never, none⟩
      · exact .inr ⟨since, past.trans later, by simpa [idle] using last, told⟩

/-- The registry of discovery shows what was reported last. -/
theorem components_registryAfter (deadline : Duration) (events : List Event) :
    (registryAfter deadline events).components =
      [(component, (events.flatMap Event.reports).getLast?.elim .starting .healthyUntil)] := by
  induction events using List.reverseRecOn with
  | nil => rfl
  | append_singleton events e ih =>
    have step : registryAfter deadline (events ++ [e]) = match e with
        | .reported moment =>
          (registryAfter deadline events).report ⟨component, deadline⟩ (.healthyUntil moment)
        | _ => registryAfter deadline events := List.foldl_append
    rw [step, List.flatMap_append]
    cases e with
    | reported moment =>
      simp [Health.Registry.report, ih, Health.Components.set, Event.reports]
    | _ => simpa [Event.reports] using ih

theorem shownAt_eq (loops : Loops) (events : List Event) (t : Moment) :
    shownAt loops events t = some (Health.Status.shownAt t
      ((events.flatMap Event.reports).getLast?.elim .starting .healthyUntil)) := by
  rw [shownAt, Health.Registry.reportAt, components_registryAfter]
  simp [Health.Components.get?_cons]

theorem maxima_concat (loops : Loops) (p : Pipeline) (inputs : List Pipeline.Input)
    (i : Pipeline.Input) : (p.run loops (inputs ++ [i])).maxima = (p.run loops inputs).maxima ++
      ((p.run loops inputs).pipeline.step loops i).2.flatMap Event.maxima := by
  rw [Pipeline.run_concat]
  exact Pipeline.Run.collect_step _

/-- Before there is a watermark, nothing is announced. -/
theorem Advances.mark?_ne_none {s : Step} (m : Move loops now cancelled answer channel phase s)
    (h : Advances phase s.events) : ∃ mark, phase.mark? = some mark := by
  obtain ⟨mark, rfl⟩ | ⟨id, put⟩ := h
  · exact ⟨mark, rfl⟩
  · cases m with
    | announce | announceLast | overflow => exact ⟨_, rfl⟩
    | _ => simp [finish, crash, pause] at put

section Fresh
variable (fresh : p.discovery = start)
include fresh

theorem maxima_ne_nil {mark : Watermark}
    (held : (p.run loops inputs).pipeline.discovery.mark? = some mark) :
    (p.run loops inputs).maxima ≠ [] := by
  obtain ⟨max, read, -⟩ := ((tracks_run fresh inputs).reached held).bounded
  exact List.ne_nil_of_mem read

/-- Progress is made only after the first maximum has been read. -/
theorem LastProgress.read (h : LastProgress loops p inputs since) :
    (p.run loops inputs).maxima ≠ [] := by
  induction h with
  | @now inputs i made =>
    rw [maxima_concat]
    cases i with
    | discovery answer =>
      obtain ⟨mark, held⟩ := Advances.mark?_ne_none (poll_move _) made
      exact List.append_ne_nil_of_left_ne_nil (maxima_ne_nil fresh held) _
    | _ => exact made.elim
  | before _ _ ih =>
    rw [maxima_concat]
    exact List.append_ne_nil_of_left_ne_nil ih _

/-- With the first maximum, discovery comes to the beginning of its first poll. -/
theorem lastProgress_or_reporting (read : (p.run loops inputs).maxima ≠ []) :
    (∃ since, LastProgress loops p inputs since) ∨
      ∃ mark, (p.run loops inputs).pipeline.discovery = .reporting mark := by
  induction inputs using List.reverseRecOn with
  | nil => exact absurd rfl read
  | append_singleton inputs i ih =>
    by_cases made : Progresses loops (p.run loops inputs).pipeline i
    · exact .inl ⟨_, .now made⟩
    by_cases earlier : (p.run loops inputs).maxima = []
    · -- What has been read was read in this step.
      rw [maxima_concat, earlier, List.nil_append] at read
      rw [Pipeline.run_concat]
      obtain ⟨answer, s, task, hd, -, he⟩ | ⟨-, silent⟩ :=
        ((p.run loops inputs).pipeline.step_move i).discovery_cases
      · rw [he] at read
        refine .inr ?_
        change ∃ mark, ((p.run loops inputs).pipeline.step loops i).1.discovery = _
        rw [hd]
        generalize hp : (p.run loops inputs).pipeline.discovery = phase at task
        cases task with
        | learn => exact ⟨_, rfl⟩
        | see => exact absurd earlier (maxima_ne_nil fresh (congrArg Phase.mark? hp))
        | _ => simp [Event.maxima, finish, crash, pause] at read
      · exact absurd (maxima_of_silent silent) read
    · obtain ⟨since, last⟩ | ⟨mark, begins⟩ := ih earlier
      · exact .inl ⟨since, .before last made⟩
      · by_cases own : i.actor = .discovery
        · cases i with
          | discovery answer => exact absurd (.inl ⟨mark, begins⟩) made
          | _ => cases own
        · refine .inr ⟨mark, ?_⟩
          rw [Pipeline.run_concat]
          exact ((Pipeline.step_move _ i).discovery_eq own).trans begins

end Fresh

section Shown
variable (steady : loops.Steady)
include steady

theorem clock_lt_healthyUntil {n : Nat} :
    loops.clock n < healthyUntil loops since ↔
      n * 1000000 < since * 1000000 + loops.deadline.nanos := by
  have := steady n
  have := steady since
  change (loops.clock n).nanos < (loops.clock since).nanos + loops.deadline.nanos ↔ _
  omega

variable (fits : (loops.clock (p.run loops inputs).pipeline.now).nanos + loops.deadline.nanos <
  Moment.calendarEnd)
include fits

theorem shownAt_of_forall_not (never : ∀ since, ¬ LastProgress loops p inputs since) (t : Moment) :
    shownAt loops (p.run loops inputs).events t = some .starting := by
  obtain ⟨-, none⟩ | ⟨since, -, last, -⟩ := reported_last steady fits
  · rw [shownAt_eq, ← Pipeline.Run.collect, none]
    rfl
  · exact absurd ((last since).2 rfl) (never since)

theorem LastProgress.shownAt (h : LastProgress loops p inputs since) (t : Moment) :
    shownAt loops (p.run loops inputs).events t = some
      (if t < healthyUntil loops since then .healthyUntil (healthyUntil loops since)
        else .stalled) := by
  obtain ⟨never, -⟩ | ⟨since', -, last, told⟩ := reported_last steady fits
  · exact absurd h (never since)
  · obtain rfl := (last since).1 h
    rw [shownAt_eq, ← Pipeline.Run.collect, told]
    rfl

end Shown

/-- What the registry shows of discovery after some inputs. -/
structure ShowsProgress (loops : Loops) (p : Pipeline) (inputs : List Pipeline.Input) : Prop where
  /-- Discovery is starting until the first maximum has been read. -/
  starting : (p.run loops inputs).maxima = [] →
    ∀ t, shownAt loops (p.run loops inputs).events t = some .starting
  /-- Then its first poll has begun, or to begin it is what discovery does next. -/
  begins : (p.run loops inputs).maxima ≠ [] → (∃ since, LastProgress loops p inputs since) ∨
    (∀ t, shownAt loops (p.run loops inputs).events t = some .starting) ∧ ∀ answer,
      LastProgress loops p (inputs ++ [.discovery answer]) (p.run loops inputs).pipeline.now
  latest : ∀ since, LastProgress loops p inputs since → since ≤ (p.run loops inputs).pipeline.now ∧
    ∀ other, LastProgress loops p inputs other → other = since
  /-- From then on it is healthy just until its deadline after the last progress. -/
  shown : ∀ since, LastProgress loops p inputs since →
    ∀ t, shownAt loops (p.run loops inputs).events t = some
      (if t < healthyUntil loops since then .healthyUntil (healthyUntil loops since) else .stalled)
  /-- Discovery that is never without progress for as long as its deadline is never stalled. -/
  lively : (∀ earlier, earlier <+: inputs → ∀ since, LastProgress loops p earlier since →
      (p.run loops earlier).pipeline.now * 1000000 < since * 1000000 + loops.deadline.nanos) →
    ∀ earlier, earlier <+: inputs → ∀ n ≤ (p.run loops earlier).pipeline.now,
      shownAt loops (p.run loops earlier).events (loops.clock n) ≠ some .stalled
  /-- Discovery that has been without for that long is stalled. -/
  blocked : ∀ since, LastProgress loops p inputs since → ∀ n,
    since * 1000000 + loops.deadline.nanos ≤ n * 1000000 →
      shownAt loops (p.run loops inputs).events (loops.clock n) = some .stalled

/-- Whatever the feed answers, however the channel is received from, and whatever else happens. -/
theorem shows_progress (steady : loops.Steady) (fresh : p.discovery = start)
    (fits : (loops.clock (p.run loops inputs).pipeline.now).nanos + loops.deadline.nanos <
      Moment.calendarEnd) : ShowsProgress loops p inputs := by
  constructor
  case starting =>
    intro unread
    exact shownAt_of_forall_not steady fits fun since h => h.read fresh unread
  case begins =>
    intro read
    by_cases last : ∃ since, LastProgress loops p inputs since
    · exact .inl last
    · obtain ⟨mark, begins⟩ := (lastProgress_or_reporting fresh read).resolve_left last
      exact .inr ⟨shownAt_of_forall_not steady fits (not_exists.1 last),
        fun answer => .now (.inl ⟨mark, begins⟩)⟩
  case latest =>
    intro since h
    obtain ⟨never, -⟩ | ⟨since', past, last, -⟩ := reported_last steady fits
    · exact absurd h (never since)
    · obtain rfl := (last since).1 h
      exact ⟨past, fun other => (last other).1⟩
  case shown =>
    intro since h
    exact h.shownAt steady fits
  case lively =>
    rintro busy earlier ⟨later, rfl⟩ n past
    have fits := steady.fits (now_concat loops p earlier later) fits
    by_cases h : ∃ since, LastProgress loops p earlier since
    · obtain ⟨since, h⟩ := h
      have soon := busy earlier (List.prefix_append _ _) since h
      have healthy : loops.clock n < healthyUntil loops since :=
        (clock_lt_healthyUntil steady).2 (Nat.lt_of_le_of_lt (Nat.mul_le_mul_right _ past) soon)
      rw [h.shownAt steady fits, if_pos healthy]
      simp
    · rw [shownAt_of_forall_not steady fits (not_exists.1 h)]
      simp
  case blocked =>
    intro since h n late
    rw [h.shownAt steady fits, if_neg (mt (clock_lt_healthyUntil steady).1 (Nat.not_lt.2 late))]

/-- Loops with a deadline of a minute, and a clock that begins with 1970. -/
def tickingLoops : Loops := { Loops.sample with clock := fun n => ⟨n * 1000000⟩ }

theorem steady_tickingLoops : tickingLoops.Steady := by
  intro n
  simp [tickingLoops]

/-- Two identifiers are pending, and on a channel of one place the second waits for a minute. -/
def blockedInputs : List Pipeline.Input :=
  [.discovery none, .discovery (some (.ok (.ok ⟨5⟩))), .discovery none, .discovery none,
    .discovery (some (.ok (.error (.request "timed out")))), .advance 1000, .discovery none,
    .discovery none, .discovery none, .discovery (some (.ok (.ok ⟨7⟩))), .discovery none,
    .discovery none, .advance 60000]

/-- Once there is a place again, discovery is healthy for another minute. -/
theorem shows_progress_blocked :
    tickingLoops.Steady ∧ (Pipeline.start 1 1).discovery = start ∧
      ((tickingLoops.clock ((Pipeline.start 1 1).run tickingLoops
        blockedInputs).pipeline.now).nanos + tickingLoops.deadline.nanos < Moment.calendarEnd) ∧
      ShowsProgress tickingLoops (Pipeline.start 1 1) blockedInputs ∧
      shownAt tickingLoops ((Pipeline.start 1 1).run tickingLoops blockedInputs).events
        (.ofSeconds 61) = some .stalled ∧
      shownAt tickingLoops ((Pipeline.start 1 1).run tickingLoops
        (blockedInputs ++ [.take, .discovery none])).events
        (.ofSeconds 61) = some (.healthyUntil (.ofSeconds 121)) :=
  ⟨steady_tickingLoops, rfl, by decide, shows_progress steady_tickingLoops rfl (by decide),
    by decide, by decide⟩

end Discovery
end FeedIngest
