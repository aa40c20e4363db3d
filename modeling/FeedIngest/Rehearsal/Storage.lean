import FeedIngest.Item.Sample
import FeedIngest.Rehearsal.Feed
import FeedIngest.Storage.Memory

/-! The storage of a rehearsal: one in memory, whose executions take their time. -/

namespace FeedIngest.Rehearsal

structure Storage where
  memory : FeedIngest.Storage.Memory
  /-- How long it takes until a write is attempted. -/
  delays : List (ItemId × Duration)

namespace Storage

/-- When an execution is answered. -/
def executeDue (s : Storage) (id : ItemId) (since : Nat) : Nat :=
  match s.delays.lookup id with
  | some delay => timer.due since delay
  | none => since

/-- Stores the sample item of an identifier, if it has one. -/
def seed (s : Storage) (id : ItemId) : Storage :=
  match Item.sample id with
  | .ok item => { s with memory := (s.memory.execute FeedIngest.Storage.insertItem item).1 }
  | .error _ => s

end Storage
end FeedIngest.Rehearsal
