import FeedIngest.Fetch
import FeedIngest.Loops

/-! A unit of work: the fetch of one item and then one execution that stores it. A shutdown
ends the fetch, but an execution that has begun is always awaited. -/

namespace FeedIngest

namespace UnitOfWork

inductive Outcome
  | stored
  | refused (error : StorageError)
  | abandoned
  | crashed (crash : Crash)
  deriving DecidableEq

inductive Phase
  | fetching (fetch : Fetch.Phase)
  | storing (item : Item) (since : Nat)
  | ended (outcome : Outcome)
  deriving DecidableEq

/-- What the call of a unit comes to. -/
inductive Reply
  | lookup (answer : Answer Lookup)
  | execute (answer : Except Crash (Except StorageError Unit))

/-- The answer to a lookup, if it is one. -/
def Reply.lookup? : Reply → Option (Answer Lookup)
  | lookup answer => some answer
  | execute _ => none

end UnitOfWork

structure UnitOfWork where
  id : ItemId
  /-- When it ran for the first time. -/
  started : Option Nat
  phase : UnitOfWork.Phase
  deriving DecidableEq

namespace UnitOfWork

def create (id : ItemId) : UnitOfWork := ⟨id, none, .fetching Fetch.start⟩

def isRunning (u : UnitOfWork) : Bool :=
  match u.phase with
  | .ended _ => false
  | _ => true

/-- What follows the fetch as it stands. -/
def afterFetch (statement : String) (now : Nat) (id : ItemId) :
    Fetch.Phase → Phase × List Event
  | .found item => (.storing item now, [.executeCalled id statement item])
  | .cancelled => (.ended .abandoned, [.abandoned [id]])
  | .crashed crash => (.ended (.crashed crash), [])
  | fetch => (.fetching fetch, [])

/-- How a unit ends with what its execution came to. -/
def afterExecute (id : ItemId) (elapsed : Nat) :
    Except Crash (Except StorageError Unit) → Phase × List Event
  | .ok (.ok _) =>
    (.ended .stored, [.executeAnswered id (.ok ()), .measured (.processed elapsed)])
  | .ok (.error e) => (.ended (.refused e), [.executeAnswered id (.error e)])
  | .error crash => (.ended (.crashed crash), [.crashed crash])

/-- One step of a unit, with the answer to its call if there is one by now. -/
def poll (loops : Loops) (now : Nat) (cancelled : Bool) (reply : Option Reply)
    (u : UnitOfWork) : UnitOfWork × List Event :=
  match u.phase with
  | .fetching fetch =>
    let (fetch, events) :=
      Fetch.poll loops.timer loops.policy u.id now cancelled (reply.bind Reply.lookup?) fetch
    let (phase, more) := afterFetch loops.statement now u.id fetch
    (⟨u.id, some (u.started.getD now), phase⟩, events ++ more)
  | .storing item since =>
    match reply with
    | some (.execute answer) =>
      let (phase, events) := afterExecute u.id (now - u.started.getD now) answer
      (⟨u.id, u.started, phase⟩, events)
    | _ => (⟨u.id, u.started, .storing item since⟩, [])
  | .ended outcome => (⟨u.id, u.started, .ended outcome⟩, [])

end UnitOfWork
end FeedIngest
