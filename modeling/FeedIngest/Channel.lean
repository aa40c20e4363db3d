import FeedIngest.ItemId

/-! The channel between discovery and dispatch: a queue of bounded length. A sender takes a place
and then fills it; one that finds no place waits for one. The receiver may close the channel, after
which no more places are taken, though what is in it can still be taken out. A place that was taken
before is not given back by that, and can still be filled. -/

namespace FeedIngest

structure Channel where
  capacity : Nat
  /-- What has been sent and not yet received, oldest first. -/
  buffer : List ItemId
  /-- How many places have been taken and not yet filled. -/
  reserved : Nat
  /-- Whether the receiver has closed it. -/
  closed : Bool
  /-- Whether no sender is left. -/
  senderGone : Bool
  /-- Whether a sender waits for a place. -/
  waiting : Bool
  deriving DecidableEq

namespace Channel

def empty (capacity : Nat) : Channel := ⟨capacity, [], 0, false, false, false⟩

/-- How many places are taken, filled or not. -/
def used (c : Channel) : Nat := c.buffer.length + c.reserved

/-- What becomes of a sender that is to take a place. -/
inductive Sent
  | accepted
  | full
  | refused
  deriving DecidableEq

/-- Takes a place if there is one. -/
def reserve (c : Channel) : Channel × Sent :=
  if c.closed then (c, .refused)
  else if c.used < c.capacity then
    ({ c with reserved := c.reserved + 1, waiting := false }, .accepted)
  else ({ c with waiting := true }, .full)

/-- Fills a place that has been taken. -/
def push (c : Channel) (id : ItemId) : Channel :=
  { c with buffer := c.buffer ++ [id], reserved := c.reserved - 1 }

/-- Sends if there is a place: takes it, and fills it at once. -/
def offer (c : Channel) (id : ItemId) : Channel × Sent :=
  match c.reserve with
  | (c, .accepted) => (c.push id, .accepted)
  | answer => answer

/-- Receives the oldest identifier. Its place goes to the sender that waits for one. -/
def take? (c : Channel) : Option (ItemId × Channel) :=
  match c.buffer with
  | [] => none
  | id :: rest => some (id, { c with buffer := rest, waiting := false })

/-- Whether nothing will ever be received again once the buffer is empty. -/
def isOver (c : Channel) : Bool := (c.closed || c.senderGone) && c.reserved = 0

/-- Closes the receiving end. -/
def close (c : Channel) : Channel := { c with closed := true, waiting := false }

/-- Closes the receiving end and takes out what is left. -/
def drain (c : Channel) : List ItemId × Channel := (c.buffer, { c.close with buffer := [] })

/-- The sender is gone, and with it what it waited for. -/
def abandonSending (c : Channel) : Channel := { c with senderGone := true, waiting := false }

end Channel
end FeedIngest
