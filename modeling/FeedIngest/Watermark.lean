import FeedIngest.ItemId

/-! The watermark: the lowest identifier not yet announced. It only moves forward. A
poll that reports a maximum makes the identifiers from the watermark up to, but
excluding, that maximum pending. -/

namespace FeedIngest

/-- The identifiers from `first` up to, but excluding, `stop`. -/
structure Span where
  first : ItemId
  stop : ItemId
  deriving DecidableEq

namespace Span

def size (s : Span) : Nat := s.stop.toNat - s.first.toNat

/-- The first `n` identifiers. -/
def take (s : Span) (n : Nat) : List ItemId :=
  (List.range' s.first.toNat (min n s.size)).map fun k => ⟨UInt64.ofNat k⟩

def toList (s : Span) : List ItemId := s.take s.size

/-- The first identifier and the rest. -/
def next? (s : Span) : Option (ItemId × Span) :=
  if s.first < s.stop then some (s.first, ⟨⟨s.first.val + 1⟩, s.stop⟩) else none

end Span

/-- The lowest identifier not yet announced. -/
structure Watermark where
  next : ItemId
  deriving DecidableEq

namespace Watermark

/-- What a poll that reported `max` leaves to be announced. -/
def pending (w : Watermark) (max : ItemId) : Span := ⟨w.next, max⟩

/-- The watermark once `id` has been announced. There is none past the last identifier. -/
def advancePast? (w : Watermark) (id : ItemId) : Option Watermark :=
  if w.next ≤ id then id.next?.map Watermark.mk else some w

/-- The watermark once these have been announced in order. -/
def advanceAll? (w : Watermark) (ids : List ItemId) : Option Watermark :=
  ids.foldlM advancePast? w

end Watermark
end FeedIngest
