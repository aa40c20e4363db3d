import FeedIngest.Feed.Scripted
import FeedIngest.Proofs.Item.SampleLimit
import Mathlib.Data.List.Induction
import Mathlib.Data.List.ReduceOption

/-! What a scripted feed answers, by the number of calls. Lookups of an identifier fail as often as
set for it, then the item is not available as often as set, and then it is found, whatever else has
been called for in between. The maxima follow the script in the same way. All that the calls of
different kinds have in common is the crash of a lookup that should find an item where there is no
sample: from then on every call crashes. Calls stand in the order in which they are answered, so that
a lookup that is still waiting counts for nothing. -/

namespace FeedIngest.ScriptedFeed

inductive Call
  | maximum
  | lookup (id : ItemId)
  deriving DecidableEq

/-- The feed after a call. -/
def next (f : ScriptedFeed) : Call → ScriptedFeed
  | .maximum => f.maximum.1
  | .lookup id => (f.item id).1

def after (f : ScriptedFeed) (calls : List Call) : ScriptedFeed := calls.foldl next f

/-! ### Counts -/

/-- The number of failures that a setting asks for. -/
def Setting.failures? (id : ItemId) : Setting → Option Nat
  | .failing other times => if other = id then some times else none
  | .notAvailable _ _ => none

def Setting.absences? (id : ItemId) : Setting → Option Nat
  | .failing _ _ => none
  | .notAvailable other times => if other = id then some times else none

/-- How many lookups of an identifier are to fail: what was set last, if anything was. -/
def failures (settings : List Setting) (id : ItemId) : Nat :=
  (settings.filterMap (Setting.failures? id)).getLast?.getD 0

/-- How many lookups of an identifier are to find that the item is not available. -/
def absences (settings : List Setting) (id : ItemId) : Nat :=
  (settings.filterMap (Setting.absences? id)).getLast?.getD 0

/-- How often an identifier has been looked up. -/
def lookups (calls : List Call) (id : ItemId) : Nat := calls.count (.lookup id)

/-- How often the maximum has been called for. -/
def maxima (calls : List Call) : Nat := calls.count .maximum

/-- Whether a lookup has come to an item that has no sample. -/
def Spoiled (settings : List Setting) (calls : List Call) : Prop :=
  ∃ id, ¬ Item.HasSample id ∧ failures settings id + absences settings id < lookups calls id

variable {script : List (Option ItemId)} {settings : List Setting} {calls : List Call}
  {f : ScriptedFeed} {id : ItemId}

theorem failures_concat (settings : List Setting) (s : Setting) (id : ItemId) :
    failures (settings ++ [s]) id = (s.failures? id).getD (failures settings id) := by
  cases h : s.failures? id <;> simp [failures, List.filterMap_append, h]

theorem absences_concat (settings : List Setting) (s : Setting) (id : ItemId) :
    absences (settings ++ [s]) id = (s.absences? id).getD (absences settings id) := by
  cases h : s.absences? id <;> simp [absences, List.filterMap_append, h]

theorem lookups_concat (calls : List Call) (c : Call) (id : ItemId) :
    lookups (calls ++ [c]) id = lookups calls id + if c = .lookup id then 1 else 0 := by
  simp [lookups, List.count_singleton]

theorem lookups_lookup (calls : List Call) (id other : ItemId) :
    lookups (calls ++ [.lookup id]) other = lookups calls other + if other = id then 1 else 0 := by
  simp [lookups_concat, eq_comm]

theorem maxima_concat (calls : List Call) (c : Call) :
    maxima (calls ++ [c]) = maxima calls + if c = .maximum then 1 else 0 := by
  simp [maxima, List.count_singleton]

/-- Nothing but a lookup of an identifier without a sample spoils a feed, once it has neither
failures nor absences left. -/
theorem spoiled_concat (settings : List Setting) (calls : List Call) (c : Call) :
    Spoiled settings (calls ++ [c]) ↔ Spoiled settings calls ∨ ∃ id, c = .lookup id ∧
      ¬ Item.HasSample id ∧ failures settings id + absences settings id ≤ lookups calls id := by
  constructor
  · rintro ⟨id, noSample, more⟩
    rw [lookups_concat] at more
    by_cases earlier : failures settings id + absences settings id < lookups calls id
    · exact .inl ⟨id, noSample, earlier⟩
    · split at more
      · exact .inr ⟨id, ‹_›, noSample, by omega⟩
      · exact absurd more earlier
  · rintro (⟨id, noSample, more⟩ | ⟨id, rfl, noSample, more⟩)
    · exact ⟨id, noSample, by rw [lookups_concat]; omega⟩
    · exact ⟨id, noSample, by rw [lookups_concat, if_pos rfl]; omega⟩

/-! ### Single calls -/

theorem maximum_entry {max : ItemId} {rest : List (Option ItemId)} (sound : f.poisoned = false)
    (entry : f.script = some max :: rest) :
    f.maximum = ({ f with
      maximumCalls := f.maximumCalls + 1, script := rest, lastMaximum := some max },
        .ok (.ok max)) := by
  simp [maximum, sound, entry]

theorem maximum_absent {rest : List (Option ItemId)} (sound : f.poisoned = false)
    (entry : f.script = none :: rest) :
    f.maximum = ({ f with maximumCalls := f.maximumCalls + 1, script := rest },
      .ok (.error (.status 503))) := by
  simp [maximum, sound, entry]

theorem maximum_end (sound : f.poisoned = false) (atEnd : f.script = []) :
    f.maximum = ({ f with maximumCalls := f.maximumCalls + 1 },
      .ok (.ok (f.lastMaximum.getD ⟨0⟩))) := by
  simp [maximum, sound, atEnd]

theorem item_failing (sound : f.poisoned = false) (left : 0 < f.failing.count id) :
    f.item id = ({ f with
      itemCalls := f.itemCalls.increment id, failing := f.failing.decrement id },
        .ok (.error (.status 500))) := by
  simp [item, sound, left]

theorem item_notAvailable (sound : f.poisoned = false) (spent : f.failing.count id = 0)
    (left : 0 < f.notAvailable.count id) :
    f.item id = ({ f with
      itemCalls := f.itemCalls.increment id, notAvailable := f.notAvailable.decrement id },
        .ok (.ok .notAvailable)) := by
  simp [item, sound, spent, left]

theorem item_sample (sound : f.poisoned = false) (spent : f.failing.count id = 0)
    (spent' : f.notAvailable.count id = 0) (sample : Item.HasSample id) :
    f.item id = ({ f with itemCalls := f.itemCalls.increment id },
      .ok (.ok (.available (Item.specimen id)))) := by
  simp [item, sound, spent, spent', Item.sample_eq sample]

theorem item_crash (sound : f.poisoned = false) (spent : f.failing.count id = 0)
    (spent' : f.notAvailable.count id = 0) (noSample : ¬ Item.HasSample id) :
    ∃ crash, Item.sample id = .error crash ∧ f.item id = ({ f with
      itemCalls := f.itemCalls.increment id, poisoned := true }, .error crash) := by
  have crashes : ∃ crash, Item.sample id = .error crash := by
    rcases Item.sample_cases id with ⟨sample, -⟩ | ⟨-, crash⟩ | ⟨-, -, _, crash⟩
    · exact absurd sample noSample
    · exact ⟨_, crash⟩
    · exact ⟨_, crash⟩
  obtain ⟨crash, crashes⟩ := crashes
  exact ⟨crash, crashes, by simp [item, sound, spent, spent', crashes]⟩

/-! ### The state after a number of calls -/

/-- What a feed that has not crashed holds, in terms of the calls it has had. -/
structure Stands (script : List (Option ItemId)) (settings : List Setting) (calls : List Call)
    (f : ScriptedFeed) : Prop where
  sound : f.poisoned = false
  left : f.script = script.drop (maxima calls)
  last : f.lastMaximum = (script.take (maxima calls)).reduceOption.getLast?
  maximumCalls : f.maximumCalls = maxima calls
  itemCalls : ∀ id, f.itemCalls.count id = lookups calls id
  failing : ∀ id, f.failing.count id = failures settings id - lookups calls id
  notAvailable : ∀ id, f.notAvailable.count id =
    absences settings id - (lookups calls id - failures settings id)

theorem build_concat (script : List (Option ItemId)) (settings : List Setting) (s : Setting) :
    build script (settings ++ [s]) = build script settings >>= (set? · s) := by
  simp [build, List.foldlM_append]

theorem Stands.set (h : Stands script settings [] f) (s : Setting) :
    ∃ f', f.set? s = .ok f' ∧ Stands script (settings ++ [s]) [] f' := by
  have unspoiled : ¬ f.poisoned = true := by simp [h.sound]
  cases s with
  | failing id times =>
    refine ⟨_, if_neg unspoiled, { h with failing := fun other => ?_, notAvailable := fun other => ?_ }⟩
    · by_cases same : id = other
      · simp [Tally.count_set, failures_concat, Setting.failures?, lookups, same]
      · have same' : ¬ other = id := fun e => same e.symm
        simp [Tally.count_set, failures_concat, Setting.failures?, same, same', h.failing]
    · simp [absences_concat, Setting.absences?, h.notAvailable, lookups]
  | notAvailable id times =>
    refine ⟨_, if_neg unspoiled, { h with failing := fun other => ?_, notAvailable := fun other => ?_ }⟩
    · simp [failures_concat, Setting.failures?, h.failing]
    · by_cases same : id = other
      · simp [Tally.count_set, absences_concat, Setting.absences?, lookups, same]
      · have same' : ¬ other = id := fun e => same e.symm
        simp [Tally.count_set, absences_concat, Setting.absences?, same, same', h.notAvailable,
          lookups]

theorem exists_build (script : List (Option ItemId)) (settings : List Setting) :
    ∃ f, build script settings = .ok f ∧ Stands script settings [] f := by
  induction settings using List.reverseRecOn with
  | nil => exact ⟨_, rfl, ⟨rfl, rfl, rfl, rfl, fun _ => rfl, fun _ => rfl, fun _ => rfl⟩⟩
  | append_singleton settings s ih =>
    obtain ⟨f, built, h⟩ := ih
    obtain ⟨f', set, h'⟩ := h.set s
    exact ⟨f', by rw [build_concat, built]; exact set, h'⟩

/-- Each call for the maximum takes one entry, if there is one. -/
theorem Stands.asked (h : Stands script settings calls f) {rest : List (Option ItemId)}
    {last : Option ItemId} (rest_eq : rest = f.script.tail)
    (last_eq : last = (script.take (maxima calls) ++ f.script.head?.toList).reduceOption.getLast?) :
    Stands script settings (calls ++ [.maximum])
      { f with maximumCalls := f.maximumCalls + 1, script := rest, lastMaximum := last } where
  sound := h.sound
  left := by
    rw [rest_eq, h.left, List.tail_drop]
    simp [maxima_concat]
  last := by
    rw [last_eq, h.left, List.head?_drop, ← List.take_add_one]
    simp [maxima_concat]
  maximumCalls := by simp [maxima_concat, h.maximumCalls]
  itemCalls := by simpa [lookups_concat] using h.itemCalls
  failing := by simpa [lookups_concat] using h.failing
  notAvailable := by simpa [lookups_concat] using h.notAvailable

theorem Stands.maximum (h : Stands script settings calls f) :
    Stands script settings (calls ++ [.maximum]) f.maximum.1 := by
  cases entries : f.script with
  | nil =>
    rw [maximum_end h.sound entries]
    exact h.asked (by rw [entries]; rfl) (by simpa [entries] using h.last)
  | cons entry rest =>
    cases entry with
    | none =>
      rw [maximum_absent h.sound entries]
      exact h.asked (by rw [entries]; rfl) (by simpa [entries, List.reduceOption_append] using h.last)
    | some max =>
      rw [maximum_entry h.sound entries]
      exact h.asked (by rw [entries]; rfl) (by simp [entries, List.reduceOption_append])

/-- A lookup touches what is left for its own identifier only. -/
theorem Stands.looked (h : Stands script settings calls f) {failing notAvailable : Tally}
    (failing_self : failing.count id = failures settings id - (lookups calls id + 1))
    (failing_other : ∀ other, other ≠ id → failing.count other = f.failing.count other)
    (notAvailable_self : notAvailable.count id =
      absences settings id - (lookups calls id + 1 - failures settings id))
    (notAvailable_other : ∀ other, other ≠ id →
      notAvailable.count other = f.notAvailable.count other) :
    Stands script settings (calls ++ [.lookup id])
      { f with itemCalls := f.itemCalls.increment id, failing, notAvailable } where
  sound := h.sound
  left := by simpa [maxima_concat] using h.left
  last := by simpa [maxima_concat] using h.last
  maximumCalls := by simpa [maxima_concat] using h.maximumCalls
  itemCalls other := by rw [Tally.count_increment, h.itemCalls, lookups_lookup]
  failing other := by
    rw [lookups_lookup]
    by_cases same : other = id
    · rw [if_pos same, same, failing_self]
    · rw [if_neg same, failing_other other same, h.failing, Nat.add_zero]
  notAvailable other := by
    rw [lookups_lookup]
    by_cases same : other = id
    · rw [if_pos same, same, notAvailable_self]
    · rw [if_neg same, notAvailable_other other same, h.notAvailable, Nat.add_zero]

theorem Stands.lookup (h : Stands script settings calls f) (served : Item.HasSample id ∨
    lookups calls id < failures settings id + absences settings id) :
    Stands script settings (calls ++ [.lookup id]) (f.item id).1 := by
  have failing := h.failing id
  have notAvailable := h.notAvailable id
  by_cases fails : lookups calls id < failures settings id
  · rw [item_failing h.sound (by omega)]
    exact h.looked (by rw [Tally.count_decrement_self]; omega)
      (fun _ => Tally.count_decrement_other) (by omega) fun _ _ => rfl
  by_cases misses : lookups calls id < failures settings id + absences settings id
  · rw [item_notAvailable h.sound (by omega) (by omega)]
    exact h.looked (by omega) (fun _ _ => rfl) (by rw [Tally.count_decrement_self]; omega)
      fun _ => Tally.count_decrement_other
  · rw [item_sample h.sound (by omega) (by omega) (served.resolve_right misses)]
    exact h.looked (by omega) (fun _ _ => rfl) (by omega) fun _ _ => rfl

theorem Stands.crash (h : Stands script settings calls f) (noSample : ¬ Item.HasSample id)
    (served : failures settings id + absences settings id ≤ lookups calls id) :
    ∃ crash, Item.sample id = .error crash ∧ (f.item id).2 = .error crash ∧
      (f.item id).1.poisoned = true := by
  have failing := h.failing id
  have notAvailable := h.notAvailable id
  obtain ⟨crash, sample, eq⟩ := item_crash h.sound (by omega) (by omega) noSample
  exact ⟨crash, sample, by rw [eq], by rw [eq]⟩

theorem poisoned_next (h : f.poisoned = true) (c : Call) : (f.next c).poisoned = true := by
  cases c <;> simp [next, maximum, item, h]

theorem after_concat (f : ScriptedFeed) (calls : List Call) (c : Call) :
    f.after (calls ++ [c]) = (f.after calls).next c := by
  simp [after]

/-- The state after any number of calls. -/
theorem Stands.after (h : Stands script settings [] f) (calls : List Call) :
    (¬ Spoiled settings calls → Stands script settings calls (f.after calls)) ∧
      (Spoiled settings calls → (f.after calls).poisoned = true) := by
  -- The last call is split off, as the counts that decide it are those of all the calls before.
  induction calls using List.reverseRecOn with
  | nil => exact ⟨fun _ => h, fun ⟨_, _, more⟩ => absurd more (Nat.not_lt_zero _)⟩
  | append_singleton calls c ih =>
    rw [after_concat, spoiled_concat]
    by_cases earlier : Spoiled settings calls
    · have poisoned := poisoned_next (ih.2 earlier) c
      exact ⟨fun fine => absurd (.inl earlier) fine, fun _ => poisoned⟩
    have stands := ih.1 earlier
    refine ⟨fun fine => ?_, ?_⟩
    · cases c with
      | maximum => exact stands.maximum
      | lookup id =>
        refine stands.lookup (or_iff_not_imp_left.2 fun noSample => ?_)
        exact Nat.lt_of_not_le fun served => fine (.inr ⟨id, rfl, noSample, served⟩)
    · rintro (spoiled | ⟨id, rfl, noSample, served⟩)
      · exact absurd spoiled earlier
      · obtain ⟨-, -, -, poisoned⟩ := stands.crash noSample served
        exact poisoned

/-! ### What is answered -/

/-- What a feed answers to each call that may come next, by the calls it has had. -/
structure Answers (script : List (Option ItemId)) (settings : List Setting) (calls : List Call)
    (f : ScriptedFeed) : Prop where
  entry : ∀ max, script[maxima calls]? = some (some max) → f.maximum.2 = .ok (.ok max)
  absent : script[maxima calls]? = some none → f.maximum.2 = .ok (.error (.status 503))
  repeated : script.length ≤ maxima calls →
    f.maximum.2 = .ok (.ok (script.reduceOption.getLast?.getD ⟨0⟩))
  fails : ∀ id, lookups calls id < failures settings id →
    (f.item id).2 = .ok (.error (.status 500))
  misses : ∀ id, failures settings id ≤ lookups calls id →
    lookups calls id < failures settings id + absences settings id →
      (f.item id).2 = .ok (.ok .notAvailable)
  finds : ∀ id, failures settings id + absences settings id ≤ lookups calls id →
    Item.HasSample id → ∃ item, Item.sample id = .ok item ∧
      (f.item id).2 = .ok (.ok (.available item))
  crashes : ∀ id, failures settings id + absences settings id ≤ lookups calls id →
    ¬ Item.HasSample id → ∃ crash, Item.sample id = .error crash ∧ (f.item id).2 = .error crash
  maximumCalls : f.maximumCalls? = .ok (maxima calls)
  itemCalls : ∀ id, f.itemCalls? id = .ok (lookups calls id)

/-- A feed that only crashes, whatever is called. -/
structure Refuses (f : ScriptedFeed) : Prop where
  maximum : f.maximum.2 = .error .poisonedFeed
  item : ∀ id, (f.item id).2 = .error .poisonedFeed
  maximumCalls : f.maximumCalls? = .error .poisonedFeed
  itemCalls : ∀ id, f.itemCalls? id = .error .poisonedFeed
  set : ∀ s, f.set? s = .error .poisonedFeed

theorem refuses_of_poisoned (h : f.poisoned = true) : Refuses f := by
  constructor <;> simp [maximum, item, maximumCalls?, itemCalls?, set?, h]

theorem Stands.exists_entries (h : Stands script settings calls f) {entry : Option ItemId}
    (next : script[maxima calls]? = some entry) : ∃ rest, f.script = entry :: rest := by
  obtain ⟨within, rfl⟩ := List.getElem?_eq_some_iff.1 next
  exact ⟨_, h.left.trans (List.drop_eq_getElem_cons within)⟩

theorem Stands.answers (h : Stands script settings calls f) : Answers script settings calls f where
  entry max next := by
    obtain ⟨rest, entries⟩ := h.exists_entries next
    rw [maximum_entry h.sound entries]
  absent next := by
    obtain ⟨rest, entries⟩ := h.exists_entries next
    rw [maximum_absent h.sound entries]
  repeated atEnd := by
    rw [maximum_end h.sound (by rw [h.left, List.drop_eq_nil_of_le atEnd]), h.last,
      List.take_of_length_le atEnd]
  fails id left := by
    have failing := h.failing id
    rw [item_failing h.sound (by omega)]
  misses id failed left := by
    have failing := h.failing id
    have notAvailable := h.notAvailable id
    rw [item_notAvailable h.sound (by omega) (by omega)]
  finds id served sample := by
    have failing := h.failing id
    have notAvailable := h.notAvailable id
    exact ⟨Item.specimen id, Item.sample_eq sample,
      by rw [item_sample h.sound (by omega) (by omega) sample]⟩
  crashes id served noSample := by
    obtain ⟨crash, sample, answer, -⟩ := h.crash noSample served
    exact ⟨crash, sample, answer⟩
  maximumCalls := by simp [maximumCalls?, h.sound, h.maximumCalls]
  itemCalls id := by simp [itemCalls?, h.sound, h.itemCalls]

/-- Whatever has been called for before, in any order, the answers go by the number of calls of the
same kind, until the lookup that crashes. -/
theorem answers_by_count (script : List (Option ItemId)) (settings : List Setting) :
    ∃ f, build script settings = .ok f ∧ ∀ calls,
      (¬ Spoiled settings calls → Answers script settings calls (f.after calls)) ∧
      (Spoiled settings calls → Refuses (f.after calls)) := by
  obtain ⟨f, built, fresh⟩ := exists_build script settings
  refine ⟨f, built, fun calls => ⟨fun fine => ?_, fun spoiled => ?_⟩⟩
  · exact ((fresh.after calls).1 fine).answers
  · exact refuses_of_poisoned ((fresh.after calls).2 spoiled)

example : (build [none, some ⟨5⟩] [.notAvailable ⟨7⟩ 1, .failing ⟨7⟩ 3, .failing ⟨7⟩ 1]).map
    (fun f => ((f.after [.maximum, .lookup ⟨7⟩]).maximum.2,
      ((f.after [.lookup ⟨7⟩, .maximum]).item ⟨7⟩).2)) =
        .ok (.ok (.ok ⟨5⟩), .ok (.ok .notAvailable)) := by
  decide

end FeedIngest.ScriptedFeed
