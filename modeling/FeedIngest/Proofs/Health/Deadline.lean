import FeedIngest.Discovery
import FeedIngest.Except

/-! Whether discovery can report under the settings that are accepted. Its deadline can always be
computed: a poll interval is a number of milliseconds below `2 ^ 64`, and six such intervals are
still a duration. But to report is to add the deadline to the time of the clock, and the sum has to
lie within the calendar. No setting is refused for that, so with the longest poll intervals
discovery crashes where its first poll begins. -/

namespace FeedIngest

/-- A moment of the years 2000 to 2100. -/
def Moment.IsCurrent (t : Moment) : Prop := ¬ t < .ofSeconds 946684800 ∧ t < .ofSeconds 4133980800

example : (Moment.ofSeconds 946684800).text = "2000-01-01 0:00:00.0 +00:00:00" ∧
    (Moment.ofSeconds 4133980800).text = "2101-01-01 0:00:00.0 +00:00:00" := by
  decide +kernel

namespace Settings

variable {env : Environment} {s : Settings} {deadline : Duration}

/-- A poll interval that is accepted was read from its variable. -/
theorem read_pollInterval (accepted : read env = .ok s) :
    (Variable.millis "POLL_INTERVAL" "5000").read env = .ok s.pollInterval := by
  unfold read at accepted
  simp only [bind, Except.bind] at accepted
  repeat' split at accepted
  all_goals first | cases accepted; assumption | cases accepted

/-- It is a whole number of milliseconds, in 64 bits. -/
theorem exists_ofMillis (accepted : read env = .ok s) : ∃ ms, s.pollInterval = .ofMillis ms := by
  have value := read_pollInterval accepted
  unfold Variable.read at value
  split at value
  case h_1 d held =>
    cases value
    obtain ⟨n, -, same⟩ := Option.map_eq_some_iff.1 held
    exact ⟨_, same.symm⟩
  case h_2 => cases value

/-- Six such intervals are a duration. -/
theorem exists_livenessDeadline (accepted : read env = .ok s) :
    ∃ deadline, s.livenessDeadline? = some deadline ∧
      deadline.nanos = max (6 * s.pollInterval.nanos) 60000000000 := by
  obtain ⟨ms, interval⟩ := exists_ofMillis accepted
  have small := ms.toNat_lt
  have nanos : s.pollInterval.nanos = ms.toNat * 1000000 := congrArg Duration.nanos interval
  let six : Duration := ⟨s.pollInterval.nanos * 6, by omega⟩
  have fits : s.pollInterval.scale? 6 = some six := Duration.ofNanos?_eq_some.2 rfl
  refine ⟨six.max (.ofSeconds 60), by rw [livenessDeadline?, fits]; rfl, ?_⟩
  rw [Duration.nanos_max, Nat.mul_comm]
  rfl

/-- What the deadline of accepted settings is good for. -/
structure Reports (s : Settings) (deadline : Duration) : Prop where
  computed : s.livenessDeadline? = some deadline
  /-- Six polls, and at least a minute. -/
  nanos : deadline.nanos = max (6 * s.pollInterval.nanos) 60000000000
  /-- A handle can report as long as its deadline ends within the calendar. -/
  reports : ∀ (registry : Health.Registry) (component : String) (now : Moment),
    (∃ next, registry.reportHealthy ⟨component, deadline⟩ now = .ok next) ↔
      now.nanos + deadline.nanos < Moment.calendarEnd
  /-- Then discovery goes on from the beginning of a poll; otherwise that is where it crashes. -/
  begins : ∀ (timer : Timer) (clock : Nat → Moment), ∃ loops, s.loops? timer clock = some loops ∧
    ∀ now cancelled answer channel mark,
      if (clock now).nanos + deadline.nanos < Moment.calendarEnd then
        Discovery.poll loops now cancelled answer channel (.reporting mark) =
          ⟨.polling mark, channel, [.reported ⟨(clock now).nanos + deadline.nanos⟩]⟩
      else ∃ fault, Discovery.poll loops now cancelled answer channel (.reporting mark) =
        Discovery.crash channel (.calendar fault) []
  /-- It is enough until the end of 2100 for poll intervals of up to 41544720000 seconds. -/
  lasts : (∀ now, now.IsCurrent → ∀ (registry : Health.Registry) (component : String),
      ∃ next, registry.reportHealthy ⟨component, deadline⟩ now = .ok next) ↔
    s.pollInterval ≤ .ofSeconds 41544720000

theorem exists_reportHealthy_iff (registry : Health.Registry) (component : String) (now : Moment) :
    (∃ next, registry.reportHealthy ⟨component, deadline⟩ now = .ok next) ↔
      now.nanos + deadline.nanos < Moment.calendarEnd := by
  unfold Health.Registry.reportHealthy
  obtain ⟨within, sum⟩ | ⟨beyond, fault, refused⟩ := now.add_cases deadline
  · rw [sum]
    exact ⟨fun _ => within, fun _ => ⟨_, rfl⟩⟩
  · rw [refused]
    exact ⟨by rintro ⟨next, ⟨⟩⟩, fun within => absurd within (Int.not_lt.2 beyond)⟩

/-- The last nanosecond of 2100 decides. -/
theorem forall_isCurrent_iff : (∀ now : Moment, now.IsCurrent →
      now.nanos + deadline.nanos < Moment.calendarEnd) ↔
    deadline.nanos ≤ 249268320000000000000 := by
  constructor
  · intro h
    have last := h ⟨4133980799999999999⟩ (by constructor <;> decide)
    change (4133980799999999999 : Int) + deadline.nanos < 253402300800000000000 at last
    omega
  · intro small now current
    have before : now.nanos < 4133980800000000000 := current.2
    change now.nanos + deadline.nanos < 253402300800000000000
    omega

/-- Every poll interval that is accepted makes a deadline, with which discovery can report as long
as the calendar goes on. -/
theorem reports_until_calendarEnd (accepted : read env = .ok s) :
    ∃ deadline, Reports s deadline := by
  obtain ⟨deadline, computed, nanos⟩ := exists_livenessDeadline accepted
  refine ⟨deadline, computed, nanos, exists_reportHealthy_iff, ?begins, ?lasts⟩
  case begins =>
    intro timer clock
    refine ⟨_, by rw [loops?, computed]; rfl, ?_⟩
    intro now cancelled answer channel mark
    rw [Discovery.poll, Discovery.report]
    dsimp only
    obtain ⟨within, sum⟩ | ⟨beyond, fault, refused⟩ := (clock now).add_cases deadline
    · rw [if_pos within, sum]
      rfl
    · rw [if_neg (Int.not_lt.2 beyond), refused]
      exact ⟨fault, rfl⟩
  case lasts =>
    have longest : s.pollInterval ≤ .ofSeconds 41544720000 ↔
        deadline.nanos ≤ 249268320000000000000 := by
      change s.pollInterval.nanos ≤ 41544720000000000000 ↔ _
      omega
    rw [longest, ← forall_isCurrent_iff]
    constructor
    · intro able now current
      exact (exists_reportHealthy_iff .empty "" now).1 (able now current _ _)
    · intro within now current registry component
      exact (exists_reportHealthy_iff registry component now).2 (within now current)

theorem exists_read {interval : Duration}
    (h : (read env).toOption.map Settings.pollInterval = some interval) :
    ∃ s, read env = .ok s ∧ s.pollInterval = interval := by
  obtain ⟨s, accepted, same⟩ := Option.map_eq_some_iff.1 h
  exact ⟨s, eq_ok_of_toOption accepted, same⟩

/-- A poll every twenty seconds makes a deadline of two minutes. -/
theorem reports_until_calendarEnd_twenty : ∃ s deadline,
    read [("POLL_INTERVAL", "20000")] = .ok s ∧ s.pollInterval = .ofSeconds 20 ∧
      deadline.nanos = 120000000000 ∧ Reports s deadline := by
  obtain ⟨s, accepted, interval⟩ := exists_read
    (show (read [("POLL_INTERVAL", "20000")]).toOption.map Settings.pollInterval =
      some (.ofSeconds 20) by decide +kernel)
  obtain ⟨deadline, h⟩ := reports_until_calendarEnd accepted
  refine ⟨s, deadline, accepted, interval, ?_, h⟩
  rw [h.nanos, interval]
  rfl

/-- The longest poll interval is accepted, and with it discovery crashes in its first poll. -/
theorem crashes_with_longest_interval : ∃ s loops,
    read [("POLL_INTERVAL", "18446744073709551615")] = .ok s ∧
      s.loops? (.wheel 0) (fun _ => .ofSeconds 946684800) = some loops ∧
      (Moment.ofSeconds 946684800).IsCurrent ∧
      (Health.Registry.empty.register Discovery.component loops.deadline).reportHealthy
        ⟨Discovery.component, loops.deadline⟩ (.ofSeconds 946684800) = .error .daysPastEnd ∧
      (Discovery.poll loops 0 false none (.empty 1) (.reporting ⟨⟨1⟩⟩)).phase =
        .crashed (.calendar .daysPastEnd) := by
  obtain ⟨s, accepted, interval⟩ := exists_read
    (show (read [("POLL_INTERVAL", "18446744073709551615")]).toOption.map Settings.pollInterval =
      some (.ofMillis 18446744073709551615) by decide +kernel)
  obtain ⟨deadline, computed, nanos⟩ := exists_livenessDeadline accepted
  rw [interval] at nanos
  obtain rfl : deadline = ⟨110680464442257309690000000, by decide⟩ := Duration.ext_nanos nanos
  have refused : (Moment.ofSeconds 946684800).add ⟨110680464442257309690000000, by decide⟩ =
      .error .daysPastEnd := by
    rw [Moment.add, if_pos (by decide)]
  refine ⟨s, _, accepted, by rw [loops?, computed]; rfl, ?_, ?_, ?_⟩
  · constructor <;> decide
  · exact congrArg (Except.map _) refused
  · rw [Discovery.poll, Discovery.report]
    dsimp only
    rw [refused]
    rfl

end Settings
end FeedIngest
