import FeedIngest.Proofs.Discovery.Moves
import FeedIngest.Proofs.Dispatch.Moves
import FeedIngest.Proofs.Run
import FeedIngest.Proofs.Span
import Mathlib.Order.Bounds.Defs

/-! Discovery announces in order. Whatever the feed answers, whoever receives and whenever a
shutdown comes, what has been announced is the span from the first maximum to the watermark.
While it announces, the watermark is where the rest of the span begins and the latest answer is
where it stops, so the watermark is the greatest maximum whenever a poll begins. -/

namespace FeedIngest

/-- Whether the event changes what is told of discovery. -/
def Event.ofDiscovery : Event → Bool
  | announced _ | maximumAnswered _ => true
  | _ => false

namespace Discovery

variable {es tail : List Event} {mark next : Watermark} {max : ItemId}

section Silent
variable (h : ∀ e ∈ tail, e.ofDiscovery = false)
include h

theorem flatMap_of_silent {α : Type} {f : Event → List α}
    (hf : ∀ e, e.ofDiscovery = false → f e = []) : tail.flatMap f = [] :=
  List.flatMap_eq_nil_iff.2 fun e he => hf e (h e he)

theorem announces_of_silent : tail.flatMap Event.announces = [] := by
  apply flatMap_of_silent h
  intro e he
  cases e <;> first | rfl | cases he

theorem answers_of_silent : tail.flatMap Event.answers = [] := by
  apply flatMap_of_silent h
  intro e he
  cases e <;> first | rfl | cases he

theorem maxima_of_silent : tail.flatMap Event.maxima = [] := by
  apply flatMap_of_silent h
  intro e he
  cases e <;> first | rfl | cases he

theorem moveMark_of_silent (m : Option Watermark) : tail.foldl Event.moveMark m = m := by
  induction tail with
  | nil => rfl
  | cons e tail ih =>
    have he := h e List.mem_cons_self
    have hm : Event.moveMark m e = m := by
      cases e <;> first | rfl | cases he
    rw [List.foldl_cons, hm]
    exact ih fun e he => h e (List.mem_cons_of_mem _ he)

end Silent

/-- The watermark never moves back. -/
theorem moveMark_mono (h : es.foldl Event.moveMark none = some mark) (tail : List Event) :
    ∃ later, (es ++ tail).foldl Event.moveMark none = some later ∧ mark.next ≤ later.next := by
  rw [List.foldl_append, h]
  clear h
  induction tail generalizing mark with
  | nil => exact ⟨mark, rfl, Nat.le_refl mark.next.toNat⟩
  | cons e tail ih =>
    have he : ∃ m, Event.moveMark (some mark) e = some m ∧ mark.next ≤ m.next := by
      cases e with
      | announced id =>
        refine ⟨(mark.advancePast? id).getD mark, rfl, ?_⟩
        cases ha : mark.advancePast? id with
        | none => exact Nat.le_refl mark.next.toNat
        | some next => exact Watermark.le_of_advancePast? ha
      | maximumAnswered result => cases result <;> exact ⟨mark, rfl, Nat.le_refl mark.next.toNat⟩
      | _ => exact ⟨mark, rfl, Nat.le_refl mark.next.toNat⟩
    obtain ⟨m, hm, hle⟩ := he
    rw [List.foldl_cons, hm]
    obtain ⟨later, hl, hle'⟩ := @ih m
    exact ⟨later, hl, Nat.le_trans hle hle'⟩

/-- Discovery has reached the watermark: from the first maximum up to it all is announced. -/
structure Reached (es : List Event) (mark : Watermark) : Prop where
  told : es.foldl Event.moveMark none = some mark
  announced : ∃ first, (es.flatMap Event.maxima).head? = some first ∧ first ≤ mark.next ∧
    es.flatMap Event.announces = (Span.mk first mark.next).toList
  bounded : ∃ max ∈ es.flatMap Event.maxima, mark.next ≤ max

/-- Nothing has been read and nothing announced. -/
structure Unread (es : List Event) : Prop where
  told : es.foldl Event.moveMark none = none
  announced : es.flatMap Event.announces = []
  maxima : es.flatMap Event.maxima = []

theorem Unread.append_silent (h : Unread es) (ht : ∀ e ∈ tail, e.ofDiscovery = false) :
    Unread (es ++ tail) where
  told := by rw [List.foldl_append, moveMark_of_silent ht, h.told]
  announced := by rw [List.flatMap_append, announces_of_silent ht, h.announced, List.append_nil]
  maxima := by rw [List.flatMap_append, maxima_of_silent ht, h.maxima, List.append_nil]

theorem Unread.append_failure (h : Unread es) (e : FeedError) :
    Unread (es ++ [.maximumAnswered (.error e)]) where
  told := by rw [List.foldl_append, h.told]; rfl
  announced := by rw [List.flatMap_append, h.announced]; rfl
  maxima := by rw [List.flatMap_append, h.maxima]; rfl

theorem Unread.append_first (h : Unread es) (max : ItemId) :
    Reached (es ++ [.maximumAnswered (.ok max)]) ⟨max⟩ := by
  have hm : (es ++ [Event.maximumAnswered (.ok max)]).flatMap Event.maxima = [max] := by
    rw [List.flatMap_append, h.maxima]; rfl
  refine ⟨?_, ⟨max, ?_, Nat.le_refl max.toNat, ?_⟩, max, ?_, Nat.le_refl max.toNat⟩
  · rw [List.foldl_append, h.told]; rfl
  · rw [hm]; rfl
  · rw [List.flatMap_append, h.announced, Span.toList_eq_nil (Nat.le_refl max.toNat)]; rfl
  · rw [hm]; exact List.mem_singleton_self max

theorem Reached.append_silent (h : Reached es mark) (ht : ∀ e ∈ tail, e.ofDiscovery = false) :
    Reached (es ++ tail) mark where
  told := by rw [List.foldl_append, moveMark_of_silent ht, h.told]
  announced := by
    rw [List.flatMap_append, List.flatMap_append, announces_of_silent ht, maxima_of_silent ht,
      List.append_nil, List.append_nil]
    exact h.announced
  bounded := by
    rw [List.flatMap_append, maxima_of_silent ht, List.append_nil]
    exact h.bounded

theorem Reached.append_answer (h : Reached es mark) (result : Except FeedError ItemId) :
    Reached (es ++ [.maximumAnswered result]) mark := by
  obtain ⟨told, ⟨first, hf, hle, ha⟩, max, hm, hmax⟩ := h
  refine ⟨?_, ⟨first, ?_, hle, ?_⟩, max, ?_, hmax⟩
  · rw [List.foldl_append, told]; cases result <;> rfl
  · rw [List.flatMap_append, List.head?_append, hf]; rfl
  · rw [List.flatMap_append, ha]; exact List.append_nil _
  · rw [List.flatMap_append]; exact List.mem_append_left _ hm

/-- Announcing the identifier at the watermark, below a maximum that was read, reaches the
following one. -/
theorem Reached.append_announced (h : Reached es mark) (hm : max ∈ es.flatMap Event.maxima)
    (hlt : mark.next < max) (ha : mark.advancePast? mark.next = some next) :
    Reached (es ++ [.announced mark.next]) next := by
  obtain ⟨told, ⟨first, hf, hle, he⟩, -⟩ := h
  have place := Watermark.toNat_of_advancePast? ha
  have hn : next.next.toNat = mark.next.toNat + 1 := by omega
  rw [ItemId.lt_iff] at hlt
  rw [ItemId.le_iff] at hle
  refine ⟨?_, ⟨first, ?_, ?_, ?_⟩, max, ?_, ?_⟩
  · rw [List.foldl_append, told]
    simp [Event.moveMark, ha]
  · rw [List.flatMap_append, List.head?_append, hf]; rfl
  · rw [ItemId.le_iff]; omega
  · rw [List.flatMap_append, he, Span.toList_concat hle hn]; rfl
  · rw [List.flatMap_append]; exact List.mem_append_left _ hm
  · rw [ItemId.le_iff]; omega

/-- What is told of discovery in each phase. -/
def Tracks (es : List Event) : Phase → Prop
  | .asking _ | .awaiting _ _ | .backingOff _ _ => Unread es
  | .reporting mark | .polling mark | .awaitingPoll mark _ | .pausing mark _ =>
    Reached es mark ∧ IsGreatest {m | m ∈ es.flatMap Event.maxima} mark.next
  | .announcing mark _ rest =>
    -- The greater of the watermark and the stop is the greatest maximum.
    Reached es mark ∧ rest.first = mark.next ∧
      (es.flatMap Event.answers).getLast? = some (.ok rest.stop) ∧
      rest.stop ∈ es.flatMap Event.maxima ∧
      (mark.next ∈ es.flatMap Event.maxima ∨ mark.next ≤ rest.stop) ∧
      ∀ m ∈ es.flatMap Event.maxima, m ≤ mark.next ∨ m ≤ rest.stop
  | .ended _ | .crashed _ => Unread es ∨ ∃ mark, Reached es mark

/-- An announcement reaches the following identifier, and the rest begins there. -/
theorem Tracks.announce {before : Watermark} {rest later : Span} {id : ItemId}
    (h : Tracks es (.announcing mark before rest)) (left : rest.next? = some (id, later))
    (moves : mark.advancePast? id = some next) (before' : Watermark) :
    Tracks (es ++ [.announced id]) (.announcing next before' later) := by
  obtain ⟨reached, hf, hl, hs, -, hb⟩ := h
  obtain ⟨rfl, hlt, hn, hstop⟩ := Span.next?_eq_some left
  rw [hf] at moves hlt hn ⊢
  have place := Watermark.toNat_of_advancePast? moves
  have hn' : next.next.toNat = mark.next.toNat + 1 := by omega
  have hfirst : later.first = next.next := ItemId.ext_toNat (hn.trans hn'.symm)
  have hle : next.next ≤ later.stop := by
    rw [hstop, ItemId.le_iff, hn']
    exact hlt
  refine ⟨reached.append_announced hs hlt moves, hfirst, ?_, ?_, .inr hle, ?_⟩
  · rw [List.flatMap_append, hstop, ← hl]; exact congrArg _ (List.append_nil _)
  · rw [List.flatMap_append, hstop]; exact List.mem_append_left _ hs
  · intro m hm
    rw [List.flatMap_append] at hm
    have hm' : m ∈ es.flatMap Event.maxima := by simpa [Event.maxima] using hm
    rw [hstop]
    rcases hb m hm' with hm | hm
    · exact .inr (Nat.le_trans hm (Nat.le_of_lt hlt))
    · exact .inr hm

/-- The rest of a span is used up only when the watermark is the greatest maximum. -/
theorem Tracks.greatest {before : Watermark} {rest : Span}
    (h : Tracks es (.announcing mark before rest)) (left : rest.next? = none) :
    IsGreatest {m | m ∈ es.flatMap Event.maxima} mark.next := by
  obtain ⟨-, hf, -, hs, hm, hb⟩ := h
  rw [Span.next?_eq_none, hf] at left
  constructor
  · rcases hm with hm | hm
    · exact hm
    · rw [ItemId.ext_toNat (Nat.le_antisymm hm left)]
      exact hs
  · intro m hm
    rcases hb m hm with hm | hm
    · exact hm
    · exact Nat.le_trans hm left

theorem Tracks.append_silent {phase : Phase} (h : Tracks es phase)
    (ht : ∀ e ∈ tail, e.ofDiscovery = false) : Tracks (es ++ tail) phase := by
  have ha : (es ++ tail).flatMap Event.answers = es.flatMap Event.answers := by
    rw [List.flatMap_append, answers_of_silent ht, List.append_nil]
  have hm : (es ++ tail).flatMap Event.maxima = es.flatMap Event.maxima := by
    rw [List.flatMap_append, maxima_of_silent ht, List.append_nil]
  cases phase with
  | asking _ | awaiting _ _ | backingOff _ _ => exact Unread.append_silent h ht
  | reporting _ | polling _ | awaitingPoll _ _ | pausing _ _ =>
    rw [Tracks, hm]
    exact ⟨h.1.append_silent ht, h.2⟩
  | announcing _ _ _ =>
    rw [Tracks, hm, ha]
    exact ⟨h.1.append_silent ht, h.2⟩
  | ended _ | crashed _ =>
    rcases h with h | ⟨mark, h⟩
    · exact .inl (h.append_silent ht)
    · exact .inr ⟨mark, h.append_silent ht⟩

/-- The first maximum is the only one, and discovery begins there. -/
theorem Tracks.learn (h : Unread es) (max : ItemId) :
    Tracks (es ++ [.maximumAnswered (.ok max)]) (.reporting ⟨max⟩) := by
  refine ⟨h.append_first max, ?_⟩
  rw [List.flatMap_append, h.maxima]
  exact ⟨List.mem_singleton_self max, fun m hm => Nat.le_of_eq (by rw [List.mem_singleton.1 hm])⟩

/-- The rest of what there is begins at the watermark and stops at the maximum that is answered. -/
theorem Tracks.see {since : Nat} (h : Tracks es (.awaitingPoll mark since)) (max : ItemId) :
    Tracks (es ++ [.maximumAnswered (.ok max)]) (.announcing mark mark (mark.pending max)) := by
  refine ⟨h.1.append_answer _, rfl, ?_, ?_, .inl ?_, ?_⟩
  · rw [List.flatMap_append]
    exact List.getLast?_concat
  · rw [List.flatMap_append]
    exact List.mem_append_right _ (List.mem_singleton_self max)
  · rw [List.flatMap_append]
    exact List.mem_append_left _ h.2.1
  · intro m hm
    rw [List.flatMap_append] at hm
    rcases List.mem_append.1 hm with hm | hm
    · exact .inl (h.2.2 hm)
    · exact .inr (Nat.le_of_eq (by rw [List.mem_singleton.1 hm]; rfl))

theorem Tracks.miss {since : Nat} (h : Tracks es (.awaitingPoll mark since)) (e : FeedError)
    (due : Nat) : Tracks (es ++ [.maximumAnswered (.error e)]) (.pausing mark due) := by
  refine ⟨h.1.append_answer _, ?_⟩
  rw [List.flatMap_append]
  exact (List.append_nil (es.flatMap Event.maxima)).symm ▸ h.2

theorem Tracks.told {phase : Phase} (h : Tracks es phase) :
    Unread es ∨ ∃ mark, Reached es mark := by
  cases phase with
  | asking _ | awaiting _ _ | backingOff _ _ => exact .inl h
  | reporting mark | polling mark | awaitingPoll mark _ | pausing mark _ | announcing mark _ _ =>
    exact .inr ⟨mark, h.1⟩
  | ended _ | crashed _ => exact h

/-- Whatever the phase, what is told of it is told of an end too. -/
theorem Tracks.ended {phase last : Phase} (h : Tracks es phase) (ho : last.isOver = true) :
    Tracks es last := by
  cases last with
  | ended _ | crashed _ => exact h.told
  | _ => cases ho

theorem Tracks.reached {phase : Phase} (h : Tracks es phase) (hm : phase.mark? = some mark) :
    Reached es mark := by
  cases phase with
  | reporting _ | polling _ | awaitingPoll _ _ | pausing _ _ | announcing _ _ _ =>
    cases hm
    exact h.1
  | _ => cases hm

section Step
variable {loops : Loops} {now : Nat} {cancelled : Bool} {answer : Option (Answer ItemId)}
  {channel : Channel} {phase : Phase} {step : Step}

/-- A move that ends discovery tells nothing of it. -/
theorem Tracks.move (h : Tracks es phase)
    (m : Move loops now cancelled answer channel phase step) :
    Tracks (es ++ step.events) step.phase := by
  cases m with
  | rest => rw [List.append_nil]; exact h
  | ask | again => exact Unread.append_silent h (by simp [Event.ofDiscovery])
  | retry =>
    rw [List.append_cons]
    exact (Unread.append_failure h _).append_silent (by simp [Event.ofDiscovery])
  | @learn _ _ max =>
    rw [List.append_cons]
    exact (Tracks.learn h max).append_silent (by simp [Event.ofDiscovery])
  | report | poll | wake => exact h.append_silent (by simp [Event.ofDiscovery])
  | @see _ _ max => exact h.see max
  | @miss _ _ e =>
    rw [pause, List.singleton_append, List.append_cons]
    exact (h.miss e _).append_silent (by simp [Event.ofDiscovery])
  | @announce _ before _ _ _ _ _ _ left _ _ moves =>
    rw [List.append_cons]
    exact (h.announce left moves before).append_silent (by simp [Event.ofDiscovery])
  | @announceLast _ before _ _ _ _ _ _ left _ _ moves =>
    rw [crash, ← List.append_assoc]
    exact ((h.announce left moves before).append_silent (by simp [Event.ofDiscovery])).ended rfl
  | overflow _ left _ _ moves =>
    -- An identifier below another one has a next.
    obtain ⟨rfl, hlt, -⟩ := Span.next?_eq_some left
    obtain ⟨-, hf, -⟩ := h
    rw [hf] at hlt moves
    obtain ⟨next, ha, -⟩ := Watermark.advancePast?_next hlt
    rw [ha] at moves
    cases moves
  | block => rw [List.append_nil]; exact h
  | @complete mark _ _ _ left =>
    have hs : Tracks es (.pausing mark 0) := ⟨h.1, h.greatest left⟩
    exact hs.append_silent (by simp [pause, Event.ofDiscovery])
  | decline | reportFails | callFails | refuse | underflow | stop =>
    exact (h.append_silent (by simp [Event.ofDiscovery, finish, crash])).ended rfl

end Step

end Discovery
end FeedIngest
