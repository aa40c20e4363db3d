import FeedIngest.Crash
import FeedIngest.Proofs.Span
import Mathlib.Data.List.Induction
import Mathlib.Order.Bounds.Basic
import Mathlib.Order.MinMax

/-! The watermark after any number of announcements. The very last identifier cannot be announced, as
none follows it: that crashes, and the watermark is left as it was. With any other identifier the
watermark is behind it afterwards, and further on if it was there before. So the order of the
announcements does not matter, and nothing that was announced is ever pending again. -/

namespace FeedIngest.Watermark

/-- An announcement as its caller is left with it: the watermark, and the crash if there was one. -/
def announce (w : Watermark) (id : ItemId) : Watermark × Option Crash :=
  match w.advancePast? id with
  | some next => (next, none)
  | none => (w, some .additionOverflow)

/-- The watermark after these announcements, those that crashed included. -/
def after (w : Watermark) (ids : List ItemId) : Watermark :=
  ids.foldl (fun w id => (w.announce id).1) w

variable {w : Watermark} {ids others : List ItemId} {id : ItemId}

theorem announce_cases (w : Watermark) (id : ItemId) :
    (id.toNat = ItemId.limit ∧ w.announce id = (w, some .additionOverflow)) ∨
    (id.toNat < ItemId.limit ∧ ∃ next, w.announce id = (next, none) ∧
      w.advancePast? id = some next ∧ next.next.toNat = max w.next.toNat (id.toNat + 1)) := by
  obtain ⟨last, none⟩ | ⟨followed, next, moves, place⟩ := w.advancePast?_cases id
  · exact .inl ⟨last, by rw [announce, none]⟩
  · exact .inr ⟨followed, next, by rw [announce, moves], moves, place⟩

theorem after_append (w : Watermark) (ids more : List ItemId) :
    w.after (ids ++ more) = (w.after ids).after more :=
  List.foldl_append

/-- The places to which the announcements or the watermark itself lead. -/
def places (w : Watermark) (ids : List ItemId) : Set Nat :=
  {n | n = w.next.toNat ∨ ∃ id ∈ ids, id.toNat < ItemId.limit ∧ n = id.toNat + 1}

theorem mem_places_concat {n : Nat} : n ∈ w.places (ids ++ [id]) ↔
    n ∈ w.places ids ∨ (id.toNat < ItemId.limit ∧ n = id.toNat + 1) := by
  constructor
  · rintro (first | ⟨other, announced, place⟩)
    · exact .inl (.inl first)
    · rcases List.mem_append.1 announced with announced | same
      · exact .inl (.inr ⟨other, announced, place⟩)
      · exact .inr (List.mem_singleton.1 same ▸ place)
  · rintro ((first | ⟨other, announced, place⟩) | place)
    · exact .inl first
    · exact .inr ⟨other, List.mem_append_left _ announced, place⟩
    · exact .inr ⟨id, List.mem_append_right _ (List.mem_singleton_self id), place⟩

theorem isGreatest_after (w : Watermark) (ids : List ItemId) :
    IsGreatest (w.places ids) (w.after ids).next.toNat := by
  induction ids using List.reverseRecOn with
  | nil =>
    refine ⟨.inl rfl, ?_⟩
    rintro n (rfl | ⟨id, announced, -⟩)
    · exact le_rfl
    · cases announced
  | append_singleton ids id ih =>
    obtain ⟨reached, above⟩ := ih
    rw [after_append]
    change IsGreatest _ ((w.after ids).announce id).1.next.toNat
    obtain ⟨last, stays⟩ | ⟨followed, next, moves, -, place⟩ := (w.after ids).announce_cases id
    · rw [stays]
      refine ⟨mem_places_concat.2 (.inl reached), fun n hn => ?_⟩
      rcases mem_places_concat.1 hn with hn | ⟨followed, -⟩
      · exact above hn
      · omega
    · rw [moves, place]
      constructor
      · rw [mem_places_concat]
        rcases max_choice (w.after ids).next.toNat (id.toNat + 1) with hm | hm <;> rw [hm]
        · exact .inl reached
        · exact .inr ⟨followed, rfl⟩
      · intro n hn
        rcases mem_places_concat.1 hn with hn | ⟨-, rfl⟩
        · exact le_max_of_le_left (above hn)
        · exact le_max_right _ _

theorem le_after (w : Watermark) (ids : List ItemId) : w.next ≤ (w.after ids).next :=
  (w.isGreatest_after ids).2 (.inl rfl)

/-- Identifiers that were announced lie below the watermark, the very last one aside. -/
theorem lt_after (announced : id ∈ ids) (followed : id.toNat < ItemId.limit) :
    id < (w.after ids).next :=
  (w.isGreatest_after ids).2 (.inr ⟨id, announced, followed, rfl⟩)

theorem after_perm (same : others.Perm ids) : w.after others = w.after ids := by
  have places : w.places others = w.places ids := by
    ext n
    simp only [Watermark.places, Set.mem_ofPred_eq, same.mem_iff]
  have left := w.isGreatest_after others
  rw [places] at left
  have next := ItemId.ext_toNat (left.unique (w.isGreatest_after ids))
  exact congrArg Watermark.mk next

/-- Where each identifier is followed by another one, no announcement crashes. -/
theorem advanceAll?_eq (followed : ∀ id ∈ ids, id.toNat < ItemId.limit) :
    w.advanceAll? ids = some (w.after ids) := by
  induction ids generalizing w with
  | nil => rfl
  | cons id ids ih =>
    rw [List.forall_mem_cons] at followed
    obtain ⟨last, -⟩ | ⟨-, next, moves, moved, -⟩ := w.announce_cases id
    · omega
    · have rest : next.advanceAll? ids = some (next.after ids) := ih followed.2
      rw [advanceAll?, List.foldlM_cons, moved, after, List.foldl_cons, moves]
      exact rest

theorem toNat_after (followed : ∀ id ∈ ids, id.toNat < ItemId.limit) :
    (w.after ids).next.toNat = (ids.map ItemId.toNat).max?.elim w.next.toNat
      fun greatest => max w.next.toNat (greatest + 1) := by
  cases hm : (ids.map ItemId.toNat).max? with
  | none =>
    rw [List.max?_eq_none_iff, List.map_eq_nil_iff] at hm
    rw [hm]
    rfl
  | some greatest =>
    obtain ⟨member, bound⟩ := List.max?_eq_some_iff.1 hm
    obtain ⟨id, announced, rfl⟩ := List.mem_map.1 member
    refine (w.isGreatest_after ids).unique ⟨?_, ?_⟩
    · rcases max_choice w.next.toNat (id.toNat + 1) with hm | hm <;> rw [Option.elim_some, hm]
      · exact .inl rfl
      · exact .inr ⟨id, announced, followed id announced, rfl⟩
    · rintro n (rfl | ⟨other, member, -, rfl⟩)
      · exact le_max_left _ _
      · have := bound _ (List.mem_map_of_mem member)
        exact le_max_of_le_right (Nat.succ_le_succ this)

theorem not_mem_pending (announced : id ∈ ids) (max : ItemId) :
    id ∉ ((w.after ids).pending max).toList := by
  intro pending
  obtain ⟨reached, below⟩ := Span.mem_toList.1 pending
  have followed : id.toNat < ItemId.limit := Nat.lt_of_lt_of_le below max.toNat_le
  exact Nat.not_le_of_lt (lt_after announced followed) reached

/-- What announcements in any order come to. -/
structure Passes (w : Watermark) (ids : List ItemId) : Prop where
  /-- Without the very last identifier no announcement crashes, and the watermark is behind the
  greatest one, or where it was. -/
  greatest : (∀ id ∈ ids, id.toNat ≠ ItemId.limit) → w.advanceAll? ids = some (w.after ids) ∧
    (w.after ids).next.toNat = (ids.map ItemId.toNat).max?.elim w.next.toNat
      fun greatest => max w.next.toNat (greatest + 1)
  perm : ∀ others, others.Perm ids → w.after others = w.after ids
  /-- The watermark never moves back. -/
  monotone : ∀ before behind, ids = before ++ behind → (w.after before).next ≤ (w.after ids).next
  /-- Pending is all from the watermark up to a maximum, in order. -/
  pending : ∀ max, ((w.after ids).pending max).toList.map ItemId.toNat =
    List.range' (w.after ids).next.toNat (max.toNat - (w.after ids).next.toNat)
  fresh : ∀ max, ∀ id ∈ ids, id ∉ ((w.after ids).pending max).toList
  /-- The very last identifier crashes, and nothing has changed. -/
  crashes : ∀ id, id.toNat = ItemId.limit →
    (w.after ids).announce id = (w.after ids, some .additionOverflow)

/-- Whatever is announced, and in whatever order, the watermark ends behind all of it. -/
theorem passes_announced (w : Watermark) (ids : List ItemId) : Passes w ids where
  greatest notLast := by
    have followed : ∀ id ∈ ids, id.toNat < ItemId.limit :=
      fun id announced => Nat.lt_of_le_of_ne id.toNat_le (notLast id announced)
    exact ⟨advanceAll?_eq followed, toNat_after followed⟩
  perm others := after_perm
  monotone before behind split := by
    rw [split, after_append]
    exact le_after _ behind
  pending max := Span.map_toNat_toList _
  fresh max id announced := not_mem_pending announced max
  crashes id last := by
    obtain ⟨-, crash⟩ | ⟨followed, -⟩ := (w.after ids).announce_cases id
    · exact crash
    · omega

example : (after ⟨⟨5⟩⟩ [⟨9⟩, ⟨18446744073709551615⟩, ⟨2⟩]).next = ⟨10⟩ := by decide

end FeedIngest.Watermark
