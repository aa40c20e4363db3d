import FeedIngest.Fetch
import Mathlib.Data.List.Chain
import Mathlib.Data.List.Range
import Mathlib.Order.Monotone.Basic

/-! The course of a task that calls the feed. Before each of its steps time passes, a shutdown may
have been asked for, and the call under way may have been answered. -/

namespace FeedIngest

/-- What there is at a step: the milliseconds since the step before, whether a shutdown has been
asked for, and whether the call under way has been answered. -/
structure Tick where
  passed : Nat
  shutdown : Bool
  replied : Bool

/-- Time goes on, and calls are answered. -/
structure Fair (ticks : Nat → Tick) : Prop where
  passing : ∀ i, ∃ j, i ≤ j ∧ 0 < (ticks j).passed
  replying : ∀ i, ∃ j, i ≤ j ∧ (ticks j).replied = true

/-- What stays so until a time comes is so when it comes. -/
theorem exists_until {P R : Nat → Prop} {i j : Nat} (here : P i)
    (stays : ∀ k, P k → ¬ R k → P (k + 1)) (later : i ≤ j) (comes : R j) :
    ∃ k, P k ∧ R k := by
  by_contra never
  push Not at never
  have lasts : ∀ k, i ≤ k → P k := by
    intro k hk
    induction k, hk using Nat.le_induction with
    | base => exact here
    | succ k _ ih => exact stays k ih (never k ih)
  exact never j (lasts j later) comes

/-- How long a wait is meant to be. -/
def Event.waits : Event → List Duration
  | waiting wait => [wait]
  | _ => []

/-- After a wait, what comes next comes when the wait has passed, if the timer keeps time. -/
def Spaced (timer : Timer) (a b : Nat × Event) : Prop :=
  ∀ wait, a.2 = .waiting wait → timer.Keeps a.1 wait → wait.Passed a.1 b.1

/-- Where a task is, what time it is, and what it has done and when. -/
structure Course (Phase : Type) where
  phase : Phase
  now : Nat
  trace : List (Nat × Event)

namespace Course

variable {Phase : Type} {timer : Timer}

def start (phase : Phase) : Course Phase := ⟨phase, 0, []⟩

/-- The task is at a phase now, and has done something more. -/
def next (c : Course Phase) (phase : Phase) (now : Nat) (events : List Event) : Course Phase :=
  ⟨phase, now, c.trace ++ events.map (Prod.mk now)⟩

def events (c : Course Phase) : List Event := c.trace.map Prod.snd

def waited (c : Course Phase) : List Duration := c.events.flatMap Event.waits

/-- The last wait, if nothing has been done since, has passed by that time. -/
def Rested (c : Course Phase) (timer : Timer) (now : Nat) : Prop :=
  ∀ t wait, c.trace.getLast? = some (t, .waiting wait) → timer.Keeps t wait → wait.Passed t now

theorem events_next (c : Course Phase) (phase : Phase) (now : Nat) (events : List Event) :
    (c.next phase now events).events = c.events ++ events := by
  have same : (events.map (Prod.mk now)).map Prod.snd = events := by
    rw [List.map_map]
    exact List.map_id events
  rw [Course.events, next, List.map_append, same]
  rfl

theorem trace_next_nil (c : Course Phase) (phase : Phase) (now : Nat) :
    (c.next phase now []).trace = c.trace := List.append_nil c.trace

theorem getLast?_events {c : Course Phase} {t : Nat} {e : Event}
    (h : c.trace.getLast? = some (t, e)) : c.events.getLast? = some e := by
  rw [events, List.getLast?_map, h]
  rfl

/-- What comes after something that is no wait need not wait. -/
theorem rested_of_events {c : Course Phase} {before : List Event} {e : Event}
    (h : c.events = before ++ [e]) (quiet : ∀ wait, e ≠ .waiting wait) (now : Nat) :
    c.Rested timer now := by
  intro t wait last
  have := getLast?_events last
  rw [h, List.getLast?_concat, Option.some.injEq] at this
  exact absurd this (quiet wait)

theorem Rested.mono {c : Course Phase} {now later : Nat} (h : c.Rested timer now)
    (le : now ≤ later) : c.Rested timer later :=
  fun t wait last keeps => (h t wait last keeps).mono le

/-- What comes at a time extends a trace if its last wait is over by then. -/
theorem spaced_next {c : Course Phase} {phase : Phase} {now : Nat} {events : List Event}
    (h : c.trace.IsChain (Spaced timer)) (past : c.Rested timer now)
    (inner : (events.map (Prod.mk now)).IsChain (Spaced timer)) :
    (c.next phase now events).trace.IsChain (Spaced timer) := by
  apply h.append inner
  rintro ⟨t, e⟩ last b head wait rfl
  obtain ⟨e', -, rfl⟩ := List.mem_map.1 (List.mem_of_mem_head? head)
  exact past t wait last

end Course
end FeedIngest
