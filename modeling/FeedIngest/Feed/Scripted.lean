import FeedIngest.Feed.Error
import FeedIngest.Feed.Tally
import FeedIngest.Item.Sample

/-! A feed that follows a script. Each call for the maximum takes one entry of the
script, and an absent entry fails the call; after its end the last maximum is repeated.
A lookup fails as often as set for its identifier, then is not available as often as set,
and then answers the sample item. A lookup that crashes poisons the feed: every later
call crashes too. -/

namespace FeedIngest

structure ScriptedFeed where
  script : List (Option ItemId)
  lastMaximum : Option ItemId
  maximumCalls : Nat
  itemCalls : Tally
  failing : Tally
  notAvailable : Tally
  poisoned : Bool
  deriving DecidableEq

namespace ScriptedFeed

/-- A feed at the beginning of its script. -/
def ofScript (script : List (Option ItemId)) (failing notAvailable : Tally) : ScriptedFeed :=
  ⟨script, none, 0, [], failing, notAvailable, false⟩

/-- What can be set for the lookups of an identifier: how many of them fail, and to how many the
item is not available yet. -/
inductive Setting
  | failing (id : ItemId) (times : Nat)
  | notAvailable (id : ItemId) (times : Nat)

/-- Sets a count, in place of the one set before. -/
def set? (f : ScriptedFeed) (s : Setting) : Except Crash ScriptedFeed :=
  if f.poisoned then .error .poisonedFeed
  else match s with
    | .failing id times => .ok { f with failing := f.failing.set id times }
    | .notAvailable id times => .ok { f with notAvailable := f.notAvailable.set id times }

/-- A feed at the beginning of its script, with counts set one after the other. -/
def build (script : List (Option ItemId)) (settings : List Setting) : Except Crash ScriptedFeed :=
  settings.foldlM set? (ofScript script [] [])

/-- The greatest identifier, as far as the feed tells. -/
def maximum (f : ScriptedFeed) : ScriptedFeed × Except Crash (Except FeedError ItemId) :=
  if f.poisoned then (f, .error .poisonedFeed)
  else
    let called := { f with maximumCalls := f.maximumCalls + 1 }
    match f.script with
    | some max :: script =>
      ({ called with script, lastMaximum := some max }, .ok (.ok max))
    | none :: script => ({ called with script }, .ok (.error (.status 503)))
    | [] => (called, .ok (.ok (f.lastMaximum.getD ⟨0⟩)))

/-- Looks an item up. -/
def item (f : ScriptedFeed) (id : ItemId) : ScriptedFeed × Except Crash (Except FeedError Lookup) :=
  if f.poisoned then (f, .error .poisonedFeed)
  else
    let called := { f with itemCalls := f.itemCalls.increment id }
    if 0 < f.failing.count id then
      ({ called with failing := f.failing.decrement id }, .ok (.error (.status 500)))
    else if 0 < f.notAvailable.count id then
      ({ called with notAvailable := f.notAvailable.decrement id }, .ok (.ok .notAvailable))
    else match Item.sample id with
      | .ok item => (called, .ok (.ok (.available item)))
      | .error crash => ({ called with poisoned := true }, .error crash)

/-- How often the maximum was called for. -/
def maximumCalls? (f : ScriptedFeed) : Except Crash Nat :=
  if f.poisoned then .error .poisonedFeed else .ok f.maximumCalls

/-- How often the item was looked up. -/
def itemCalls? (f : ScriptedFeed) (id : ItemId) : Except Crash Nat :=
  if f.poisoned then .error .poisonedFeed else .ok (f.itemCalls.count id)

end ScriptedFeed
end FeedIngest
