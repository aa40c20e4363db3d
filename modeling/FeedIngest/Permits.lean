import FeedIngest.Metrics

/-! Permits for units of work. A permit is taken before a unit starts and given back when it
has ended. One taker may wait; permits that come back go to it first and are held for it
until it has all it needs, or gives up. -/

namespace FeedIngest

/-- A taker that waits: how many permits it needs, and how many are held for it. -/
structure PermitWait where
  needed : Nat
  held : Nat
  deriving DecidableEq

structure Permits where
  total : Nat
  available : Nat
  waiting : Option PermitWait
  deriving DecidableEq

namespace Permits

/-- All permits, at least one and less than `2 ^ 32`. -/
def ofLimit (limit : Nat) : Permits :=
  let total := min (max limit 1) 4294967295
  ⟨total, total, none⟩

/-- Takes as many permits at once, or waits for them. -/
def acquire (p : Permits) (needed : Nat) : Permits × Bool :=
  match p.waiting with
  | some w => if w.needed ≤ w.held then (⟨p.total, p.available, none⟩, true) else (p, false)
  | none =>
    if needed ≤ p.available then (⟨p.total, p.available - needed, none⟩, true)
    else (⟨p.total, 0, some ⟨needed, p.available⟩⟩, false)

/-- Gives one permit back. -/
def release (p : Permits) : Permits :=
  match p.waiting with
  | some w =>
    if w.held < w.needed then ⟨p.total, p.available, some ⟨w.needed, w.held + 1⟩⟩
    else ⟨p.total, p.available + 1, some w⟩
  | none => ⟨p.total, p.available + 1, none⟩

/-- Gives up waiting, and what is held with it. -/
def forgo (p : Permits) : Permits :=
  match p.waiting with
  | some w => ⟨p.total, p.available + w.held, none⟩
  | none => p

/-- Gives back as many permits, which were taken at once. -/
def restore (p : Permits) (n : Nat) : Permits := ⟨p.total, p.available + n, p.waiting⟩

/-- How many permits are out; an impossible number is no answer. -/
def inFlight? (p : Permits) : Option Nat :=
  if p.available ≤ p.total then some (p.total - p.available) else none

def saturation (p : Permits) : Saturation := ⟨p.available, p.total⟩

end Permits
end FeedIngest
