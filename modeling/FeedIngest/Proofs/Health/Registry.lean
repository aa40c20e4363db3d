import FeedIngest.Health
import Mathlib.Data.List.Induction
import Mathlib.Data.List.Nodup

/-! What the registry shows. Whoever reports what through which handle and in whatever order,
each component that was ever registered is listed once, with the status that was told of it last,
or as stalled where that was a deadline that has come. What was told is read off the history of
calls alone. A look changes nothing, and neither does a report that is refused. -/

namespace FeedIngest.Health

namespace Components

variable {cs : Components} {name other : String} {s : Status}

/-- The names of the components. -/
def names (cs : Components) : List String := cs.map (·.1)

@[simp] theorem get?_nil (name : String) : get? [] name = none := rfl

theorem get?_cons (c : String × Status) (cs : Components) (name : String) :
    get? (c :: cs) name = if c.1 = name then some c.2 else get? cs name := by
  unfold get?
  by_cases h : c.1 = name <;> simp [h]

/-- A write is seen under its name, and nowhere else. -/
theorem get?_set (cs : Components) (name other : String) (s : Status) :
    get? (set cs name s) other = if other = name then some s else get? cs other := by
  induction cs with
  | nil =>
    rw [set, get?_cons]
    exact if_congr eq_comm rfl rfl
  | cons c cs ih =>
    unfold set
    by_cases h : c.1 = name
    · rw [if_pos h, get?_cons, get?_cons, h]
      by_cases ho : other = name
      · rw [if_pos ho.symm, if_pos ho]
      · rw [if_neg (Ne.symm ho), if_neg (Ne.symm ho), if_neg ho]
    · rw [if_neg h, get?_cons, get?_cons, ih]
      by_cases hc : c.1 = other
      · rw [if_pos hc, if_pos hc, if_neg (hc ▸ h)]
      · rw [if_neg hc, if_neg hc]

theorem mem_names_set : other ∈ names (set cs name s) ↔ other = name ∨ other ∈ names cs := by
  induction cs with
  | nil => simp [set, names]
  | cons c cs ih =>
    unfold set
    by_cases h : c.1 = name
    · simp [names, h]
    · rw [if_neg h]
      change other ∈ c.1 :: names (set cs name s) ↔ other = name ∨ other ∈ c.1 :: names cs
      rw [List.mem_cons, List.mem_cons, ih]
      exact or_left_comm

theorem nodup_names_set (h : (names cs).Nodup) : (names (set cs name s)).Nodup := by
  induction cs with
  | nil => exact List.nodup_singleton name
  | cons c cs ih =>
    obtain ⟨fresh, rest⟩ := List.nodup_cons.1 h
    unfold set
    by_cases hc : c.1 = name
    · rw [if_pos hc]
      exact List.nodup_cons.2 ⟨hc ▸ fresh, rest⟩
    · rw [if_neg hc]
      refine List.nodup_cons.2 ⟨?_, ih rest⟩
      change c.1 ∉ names (set cs name s)
      rw [mem_names_set]
      exact not_or.2 ⟨hc, fresh⟩

theorem mem_names_iff : name ∈ names cs ↔ ∃ s, get? cs name = some s := by
  induction cs with
  | nil => simp [names]
  | cons c cs ih =>
    rw [get?_cons]
    change name ∈ c.1 :: names cs ↔ _
    rw [List.mem_cons, ih]
    by_cases h : c.1 = name
    · simp [h]
    · simp [h, Ne.symm h]

/-- The components with their statuses changed. -/
theorem get?_map (cs : Components) (f : Status → Status) (name : String) :
    get? (cs.map fun (name, status) => (name, f status)) name = (get? cs name).map f := by
  induction cs with
  | nil => rfl
  | cons c cs ih =>
    rw [List.map_cons, get?_cons, get?_cons, ih]
    dsimp only
    split <;> rfl

theorem names_map (cs : Components) (f : Status → Status) :
    names (cs.map fun (name, status) => (name, f status)) = names cs := by
  simp [names, Function.comp_def]

end Components

/-- What is done with a registry. -/
inductive Act
  | call (c : Call)
  | look
  deriving DecidableEq

/-- What comes back. -/
inductive Reply
  | done
  | refused (fault : CalendarFault)
  | seen (report : Report)
  deriving DecidableEq

/-- The registry after an act, and the reply to it. A call that is refused does nothing. -/
def Registry.act (r : Registry) (now : Moment) : Act → Registry × Reply
  | .call c =>
    match c.apply now r with
    | .ok next => (next, .done)
    | .error fault => (r, .refused fault)
  | .look => (r, .seen (r.reportAt now))

/-- What was done with a registry, with the reading of the clock each time. -/
abbrev History := List (Moment × Act)

/-- The registry after all that. -/
def Registry.after (h : History) : Registry := h.foldl (fun r e => (r.act e.1 e.2).1) .empty

theorem Registry.after_concat (h : History) (e : Moment × Act) :
    Registry.after (h ++ [e]) = ((Registry.after h).act e.1 e.2).1 := by
  simp [Registry.after]

/-- The handle that an act gives out. -/
def handed? : Act → Option Handle
  | .call (.register name deadline) => some ⟨name, deadline⟩
  | _ => none

/-- The handles that were given out, in order. -/
def handles (h : History) : List Handle := h.filterMap fun e => handed? e.2

/-- What is told of which component through handles that were given out before. -/
def told? (handles : List Handle) (e : Moment × Act) : Option (String × Status) :=
  match e.2 with
  | .call (.register name _) => some (name, .starting)
  | .call (.reportHealthy k) =>
    handles[k]?.bind fun handle =>
      if e.1.nanos + handle.deadline.nanos < Moment.calendarEnd then
        some (handle.component, .healthyUntil ⟨e.1.nanos + handle.deadline.nanos⟩)
      else none
  | .call (.report k status) => handles[k]?.map fun handle => (handle.component, status)
  | .look => none

/-- The status that was told of a component last. -/
inductive ToldLast : History → String → Status → Prop
  | now {h e name status} (told : told? (handles h) e = some (name, status)) :
    ToldLast (h ++ [e]) name status
  | before {h e name status} (earlier : ToldLast h name status)
    (silent : ∀ other, told? (handles h) e ≠ some (name, other)) :
    ToldLast (h ++ [e]) name status

variable {h : History} {e : Moment × Act} {name : String} {status : Status}

theorem not_toldLast_nil : ¬ ToldLast [] name status := by
  generalize hn : ([] : History) = h
  rintro (_ | _) <;> simp at hn

/-- What is told now is told last, and leaves what was told of others. -/
theorem toldLast_concat : ToldLast (h ++ [e]) name status ↔
    told? (handles h) e = some (name, status) ∨
      ((∀ other, told? (handles h) e ≠ some (name, other)) ∧ ToldLast h name status) := by
  constructor
  · generalize hl : h ++ [e] = l
    rintro (told | ⟨earlier, silent⟩)
    · obtain ⟨rfl, he⟩ := List.append_inj' hl rfl
      obtain rfl := List.singleton_inj.1 he
      exact .inl told
    · obtain ⟨rfl, he⟩ := List.append_inj' hl rfl
      obtain rfl := List.singleton_inj.1 he
      exact .inr ⟨silent, earlier⟩
  · rintro (told | ⟨silent, earlier⟩)
    · exact .now told
    · exact .before earlier silent

theorem handles_concat (h : History) (e : Moment × Act) :
    handles (h ++ [e]) = handles h ++ (handed? e.2).toList := by
  rw [handles, List.filterMap_append]
  rfl

/-- An act gives out a handle or not, and changes the status that it tells of. -/
theorem act_eq (r : Registry) (e : Moment × Act) :
    (r.act e.1 e.2).1 = ⟨(told? r.handles e).elim r.components fun (name, status) =>
      r.components.set name status, r.handles ++ (handed? e.2).toList⟩ := by
  obtain ⟨now, act⟩ := e
  match act with
  | .look => simp [Registry.act, told?, handed?]
  | .call (.register name deadline) => rfl
  | .call (.report k status) =>
    simp only [Registry.act, Call.apply, told?, handed?]
    cases r.handles[k]? <;> simp [Registry.report]
  | .call (.reportHealthy k) =>
    simp only [Registry.act, Call.apply, told?, handed?, Registry.reportHealthy]
    cases r.handles[k]? with
    | none => simp
    | some handle =>
      rcases now.add_cases handle.deadline with ⟨early, sum⟩ | ⟨late, fault, refused⟩
      · simp [sum, early, Except.map, Registry.report]
      · simp [refused, Int.not_lt.2 late, Except.map]

theorem handles_after (h : History) : (Registry.after h).handles = handles h := by
  induction h using List.reverseRecOn with
  | nil => rfl
  | append_singleton h e ih => rw [Registry.after_concat, act_eq, handles_concat, ih]

/-- The registry holds what was told last. -/
theorem get?_after (h : History) (name : String) (status : Status) :
    (Registry.after h).components.get? name = some status ↔ ToldLast h name status := by
  induction h using List.reverseRecOn with
  | nil => exact iff_of_false (by rintro ⟨⟩) not_toldLast_nil
  | append_singleton h e ih =>
    rw [Registry.after_concat, act_eq, toldLast_concat, ← ih, handles_after]
    cases told? (handles h) e with
    | none => simp
    | some told =>
      obtain ⟨other, new⟩ := told
      simp only [Option.elim_some, Components.get?_set]
      by_cases same : name = other
      · simp [same]
      · simp [same, Ne.symm same]

/-- What is told is told of a component that registers with it, or has a handle. -/
theorem told_cases (hs : List Handle) (e : Moment × Act) :
    (∃ handle, handed? e.2 = some handle ∧ told? hs e = some (handle.component, .starting)) ∨
    (handed? e.2 = none ∧
      ∀ name status, told? hs e = some (name, status) → name ∈ hs.map Handle.component) := by
  obtain ⟨now, act⟩ := e
  have named {k : Nat} {handle : Handle} (given : hs[k]? = some handle) :
      handle.component ∈ hs.map Handle.component :=
    List.mem_map_of_mem (List.mem_of_getElem? given)
  match act with
  | .look => exact .inr ⟨rfl, by rintro name status ⟨⟩⟩
  | .call (.register name deadline) => exact .inl ⟨⟨name, deadline⟩, rfl, rfl⟩
  | .call (.report k new) =>
    refine .inr ⟨rfl, fun name status told => ?_⟩
    obtain ⟨handle, given, same⟩ := Option.map_eq_some_iff.1 told
    cases same
    exact named given
  | .call (.reportHealthy k) =>
    refine .inr ⟨rfl, fun name status told => ?_⟩
    obtain ⟨handle, given, same⟩ := Option.bind_eq_some_iff.1 told
    split at same
    · cases same
      exact named given
    · cases same

theorem mem_names_after (h : History) (name : String) :
    name ∈ (Registry.after h).components.names ↔ name ∈ (handles h).map Handle.component := by
  induction h using List.reverseRecOn with
  | nil => exact Iff.rfl
  | append_singleton h e ih =>
    rw [Registry.after_concat, act_eq, handles_concat, handles_after, List.map_append,
      List.mem_append]
    rcases told_cases (handles h) e with ⟨handle, handed, told⟩ | ⟨handed, told⟩
    · rw [handed, told]
      simp only [Option.elim_some, Components.mem_names_set, ih]
      simp [or_comm]
    · rw [handed]
      cases ht : told? (handles h) e with
      | none => simpa using ih
      | some t =>
        have known := told t.1 t.2 ht
        simp only [Option.elim_some, Components.mem_names_set, ih]
        simp only [Option.toList_none, List.map_nil, List.not_mem_nil, or_false]
        exact or_iff_right_of_imp fun same => same ▸ known

theorem nodup_names_after (h : History) : (Registry.after h).components.names.Nodup := by
  induction h using List.reverseRecOn with
  | nil => exact List.nodup_nil
  | append_singleton h e ih =>
    rw [Registry.after_concat, act_eq]
    cases told? (Registry.after h).handles e with
    | none => exact ih
    | some told => exact Components.nodup_names_set ih

theorem mem_handles_components : name ∈ (handles h).map Handle.component ↔
    ∃ time deadline, (time, .call (.register name deadline)) ∈ h := by
  rw [List.mem_map]
  constructor
  · rintro ⟨handle, given, rfl⟩
    obtain ⟨⟨time, act⟩, done, handed⟩ := List.mem_filterMap.1 given
    match act with
    | .call (.register name deadline) =>
      cases handed
      exact ⟨time, deadline, done⟩
    | .call (.reportHealthy _) | .call (.report _ _) | .look => cases handed
  · rintro ⟨time, deadline, done⟩
    exact ⟨⟨name, deadline⟩, List.mem_filterMap.2 ⟨_, done, rfl⟩, rfl⟩

theorem Status.isHealthy_iff {s : Status} :
    s.isHealthy = true ↔ ∃ deadline, s = .healthyUntil deadline := by
  cases s <;> simp [isHealthy]

theorem healthy_iff (r : Registry) (now : Moment) : (r.reportAt now).healthy = true ↔
    (r.reportAt now).components ≠ [] ∧
      ∀ c ∈ (r.reportAt now).components, ∃ deadline, c.2 = .healthyUntil deadline := by
  rw [Registry.reportAt, Bool.and_eq_true, List.all_eq_true]
  simp only [Status.isHealthy_iff, Bool.not_eq_true', List.isEmpty_eq_false_iff]

/-- What a look at some moment has to show after a history. -/
structure ShowsLatest (h : History) (now : Moment) (report : Report) : Prop where
  /-- The components are those that were ever registered, each listed once. -/
  listed : ∀ name, name ∈ report.components.names ↔
    ∃ time deadline, (time, .call (.register name deadline)) ∈ h
  once : report.components.names.Nodup
  told : ∀ name ∈ report.components.names, ∃ status, ToldLast h name status
  /-- A deadline that has come is shown as missed. -/
  missed : ∀ name deadline, ToldLast h name (.healthyUntil deadline) →
    deadline.nanos ≤ now.nanos → report.components.get? name = some .stalled
  /-- Otherwise what was told last is shown. -/
  shown : ∀ name status, ToldLast h name status →
    (∀ deadline, status = .healthyUntil deadline → now.nanos < deadline.nanos) →
    report.components.get? name = some status
  healthy : report.healthy = true ↔ report.components ≠ [] ∧
    ∀ c ∈ report.components, ∃ deadline, c.2 = .healthyUntil deadline
  code : (report.code = 200 ↔ report.healthy = true) ∧
    (report.code = 500 ↔ report.healthy = false)

theorem showsLatest (h : History) (now : Moment) :
    ShowsLatest h now ((Registry.after h).reportAt now) := by
  have names : ((Registry.after h).reportAt now).components.names =
      (Registry.after h).components.names := Components.names_map _ _
  have shown (name : String) : ((Registry.after h).reportAt now).components.get? name =
      ((Registry.after h).components.get? name).map (Status.shownAt now) :=
    Components.get?_map _ _ name
  constructor
  case listed =>
    intro name
    rw [names, mem_names_after, mem_handles_components]
  case once =>
    rw [names]
    exact nodup_names_after h
  case told =>
    intro name known
    rw [names, Components.mem_names_iff] at known
    exact known.imp fun status => (get?_after h name status).1
  case missed =>
    intro name deadline told late
    rw [shown, (get?_after h name _).2 told, Option.map_some, Status.shownAt, if_neg]
    exact Int.not_lt.2 late
  case shown =>
    intro name status told early
    rw [shown, (get?_after h name status).2 told, Option.map_some]
    cases status with
    | healthyUntil deadline => rw [Status.shownAt, if_pos (Moment.lt_iff.2 (early deadline rfl))]
    | _ => rfl
  case healthy => exact healthy_iff _ now
  case code =>
    unfold Report.code
    cases ((Registry.after h).reportAt now).healthy <;> simp

/-- How a registry behaves after a history. -/
structure Reliable (h : History) : Prop where
  /-- A look shows what was told last, and changes nothing. -/
  look : ∀ now, ∃ report, (Registry.after h).act now .look = (Registry.after h, .seen report) ∧
    ShowsLatest h now report
  /-- Earlier looks made no difference. -/
  looked : Registry.after (h.filter fun e => e.2 ≠ .look) = Registry.after h
  /-- A report of liveness is seen until its deadline, whatever was shown before. -/
  recovers : ∀ k handle time, (handles h)[k]? = some handle →
    time.nanos + handle.deadline.nanos < Moment.calendarEnd →
    ((Registry.after h).act time (.call (.reportHealthy k))).2 = .done ∧
    ∀ now : Moment, now.nanos < time.nanos + handle.deadline.nanos →
      ((Registry.after (h ++ [(time, .call (.reportHealthy k))])).reportAt now).components.get?
        handle.component = some (.healthyUntil ⟨time.nanos + handle.deadline.nanos⟩)
  /-- One that would lie past the end of the calendar is refused and changes nothing. -/
  refused : ∀ k handle time, (handles h)[k]? = some handle →
    Moment.calendarEnd ≤ time.nanos + handle.deadline.nanos →
    ∃ fault, (Registry.after h).act time (.call (.reportHealthy k)) =
      (Registry.after h, .refused fault)

theorem after_filter (h : History) :
    Registry.after (h.filter fun e => e.2 ≠ .look) = Registry.after h := by
  induction h using List.reverseRecOn with
  | nil => rfl
  | append_singleton h e ih =>
    obtain ⟨now, act⟩ := e
    rw [List.filter_append, Registry.after_concat, ← ih]
    match act with
    | .look => simp [Registry.act]
    | .call c => exact Registry.after_concat _ _

/-- Whatever was done through whichever handles, the registry shows what was told last. -/
theorem shows_told_last (h : History) : Reliable h := by
  constructor
  case look =>
    intro now
    exact ⟨_, rfl, showsLatest h now⟩
  case looked => exact after_filter h
  case recovers =>
    intro k handle time given early
    constructor
    · rw [← handles_after] at given
      obtain ⟨-, sum⟩ | ⟨late, -⟩ := time.add_cases handle.deadline
      · simp [Registry.act, Call.apply, given, Registry.reportHealthy, sum, Except.map]
      · exact absurd early (Int.not_lt.2 late)
    · intro now before
      have told : told? (handles h) (time, .call (.reportHealthy k)) =
          some (handle.component, .healthyUntil ⟨time.nanos + handle.deadline.nanos⟩) := by
        simp [told?, given, early]
      apply (showsLatest _ now).shown _ _ (.now told)
      rintro deadline ⟨⟩
      exact before
  case refused =>
    intro k handle time given late
    rw [← handles_after] at given
    obtain ⟨early, -⟩ | ⟨-, fault, sum⟩ := time.add_cases handle.deadline
    · exact absurd late (Int.not_le.2 early)
    · refine ⟨fault, ?_⟩
      simp [Registry.act, Call.apply, given, Registry.reportHealthy, sum, Except.map]

end FeedIngest.Health
