import FeedIngest.Feed.Error
import FeedIngest.Storage.Error
import FeedIngest.Storage.Table

/-! A storage in memory. It refuses what the table refuses: a statement that has not been
registered, then an item whose writes are set to fail, then an identifier that is stored
already. Every execution is an attempt; only a success writes a row. -/

namespace FeedIngest.Storage

structure Memory where
  ready : Bool
  failing : List ItemId
  /-- The stored items, by rising identifier. -/
  rows : List Item
  /-- The stored identifiers in the order of their writes. -/
  writeOrder : List ItemId
  /-- The identifiers of all executions in their order. -/
  attempts : List ItemId
  deriving DecidableEq

namespace Memory

/-- A storage before its setup. -/
def empty (failing : List ItemId) : Memory := ⟨false, failing, [], [], []⟩

def setup (m : Memory) : Memory := { m with ready := true }

def row? (m : Memory) (id : ItemId) : Option Item := m.rows.find? (·.id = id)

def storedIds (m : Memory) : List ItemId := m.rows.map (·.id)

/-- Puts an item in front of the first with a greater identifier. -/
def insertSorted (item : Item) : List Item → List Item
  | [] => [item]
  | r :: rs => if item.id < r.id then item :: r :: rs else r :: insertSorted item rs

/-- Why an execution would be refused. -/
def refusal? (m : Memory) (statement : String) (item : Item) : Option StorageError :=
  if !m.ready || statement ≠ insertItem then some (.unknownStatement statement)
  else if item.id ∈ m.failing then some (.query statement .poolTimedOut)
  else if (m.row? item.id).isSome then some (.duplicate item.id)
  else none

def execute (m : Memory) (statement : String) (item : Item) :
    Memory × Except StorageError Unit :=
  let attempted := { m with attempts := m.attempts ++ [item.id] }
  match m.refusal? statement item with
  | some error => (attempted, .error error)
  | none =>
    ({ attempted with
        rows := insertSorted item m.rows
        writeOrder := m.writeOrder ++ [item.id] }, .ok ())

end Memory
end FeedIngest.Storage
