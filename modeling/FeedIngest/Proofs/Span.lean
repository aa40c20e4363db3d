import FeedIngest.Watermark
import Mathlib.Data.List.Range

/-! Spans as lists, and what announcing does to the watermark. The numbers of a span are a
range of natural numbers, so a span is rising, holds exactly the identifiers between its ends,
and grows by the identifier at its stop. Announcing that identifier moves the watermark there. -/

namespace FeedIngest

namespace ItemId

theorem toNat_injective : Function.Injective toNat := fun _ _ => ext_toNat

theorem toNat_mk_ofNat {n : Nat} (h : n ≤ limit) : toNat ⟨UInt64.ofNat n⟩ = n :=
  ofNat?_eq_some.1 (by rw [ofNat?, if_pos h])

theorem nodup_of_pairwise {ids : List ItemId} (h : ids.Pairwise (· < ·)) : ids.Nodup := by
  apply h.imp
  intro a b hab he
  rw [lt_iff, he] at hab
  exact Nat.lt_irrefl _ hab

end ItemId

namespace Span

variable {s : Span} {id : ItemId}

theorem map_toNat_toList (s : Span) :
    s.toList.map ItemId.toNat = List.range' s.first.toNat s.size := by
  unfold toList take
  rw [Nat.min_self, List.map_map, List.map_congr_left, List.map_id]
  intro n hn
  have hs := s.stop.toNat_le
  rw [List.mem_range'_1] at hn
  unfold size at hn
  simp only [Function.comp_apply, id_eq]
  exact ItemId.toNat_mk_ofNat (by omega)

theorem length_toList (s : Span) : s.toList.length = s.size := by
  rw [← List.length_map ItemId.toNat, map_toNat_toList, List.length_range']

theorem toList_eq_nil (h : s.stop ≤ s.first) : s.toList = [] := by
  rw [← List.map_eq_nil_iff (f := ItemId.toNat), map_toNat_toList, List.range'_eq_nil_iff]
  exact Nat.sub_eq_zero_of_le h

theorem mem_toList : id ∈ s.toList ↔ s.first ≤ id ∧ id < s.stop := by
  rw [← List.mem_map_of_injective ItemId.toNat_injective, map_toNat_toList, List.mem_range'_1,
    ItemId.le_iff, ItemId.lt_iff]
  unfold size
  omega

theorem pairwise_toList (s : Span) : s.toList.Pairwise (· < ·) := by
  have h : (s.toList.map ItemId.toNat).Pairwise (· < ·) := by
    rw [map_toNat_toList]
    exact List.pairwise_lt_range'
  rw [List.pairwise_map] at h
  exact h

/-- A span grows at its stop. -/
theorem toList_concat {first stop next : ItemId} (h : first ≤ stop)
    (hn : next.toNat = stop.toNat + 1) :
    (Span.mk first next).toList = (Span.mk first stop).toList ++ [stop] := by
  apply List.map_injective_iff.2 ItemId.toNat_injective
  rw [ItemId.le_iff] at h
  have hs : (Span.mk first next).size = (Span.mk first stop).size + 1 := by
    unfold size
    dsimp only
    omega
  rw [List.map_append, map_toNat_toList, map_toNat_toList, hs, List.range'_1_concat]
  simp only [List.map_cons, List.map_nil, List.append_cancel_left_eq, List.cons.injEq, and_true]
  unfold size
  dsimp only
  omega

/-- The next identifier is the first one, and the rest begins behind it. -/
theorem next?_eq_some {rest : Span} (h : s.next? = some (id, rest)) :
    id = s.first ∧ id < s.stop ∧ rest.first.toNat = id.toNat + 1 ∧ rest.stop = s.stop := by
  unfold next? at h
  split at h
  case isTrue hlt =>
    cases h
    have hs := s.stop.toNat_le
    rw [ItemId.lt_iff] at hlt
    refine ⟨rfl, hlt, ?_, rfl⟩
    show (s.first.val + 1).toNat = s.first.val.toNat + 1
    rw [UInt64.toNat_add, UInt64.toNat_one]
    apply Nat.mod_eq_of_lt
    unfold ItemId.toNat ItemId.limit at *
    omega
  case isFalse => cases h

theorem next?_eq_none : s.next? = none ↔ s.stop ≤ s.first := by
  unfold next?
  split <;> simp_all [ItemId.lt_iff, ItemId.le_iff]

end Span

namespace Watermark

variable {w next : Watermark} {id : ItemId}

/-- Announcing moves the watermark behind the identifier unless it is there, and there is no such
place behind the very last one. -/
theorem advancePast?_cases (w : Watermark) (id : ItemId) :
    (id.toNat = ItemId.limit ∧ w.advancePast? id = none) ∨
    (id.toNat < ItemId.limit ∧ ∃ next, w.advancePast? id = some next ∧
      next.next.toNat = max w.next.toNat (id.toNat + 1)) := by
  have top := id.toNat_le
  have low := w.next.toNat_le
  unfold advancePast?
  split
  case isTrue reached =>
    rw [ItemId.le_iff] at reached
    cases hn : id.next? with
    | none => exact .inl ⟨ItemId.next?_eq_none.1 hn, rfl⟩
    | some next =>
      rw [ItemId.next?_eq_some] at hn
      have := next.toNat_le
      exact .inr ⟨by omega, ⟨next⟩, rfl, by change next.toNat = _; omega⟩
  case isFalse passed =>
    rw [ItemId.le_iff] at passed
    exact .inr ⟨by omega, w, rfl, by omega⟩

theorem toNat_of_advancePast? (h : w.advancePast? id = some next) :
    next.next.toNat = max w.next.toNat (id.toNat + 1) := by
  obtain ⟨-, none⟩ | ⟨-, later, moves, place⟩ := w.advancePast?_cases id
  · rw [none] at h
    cases h
  · obtain rfl : later = next := Option.some.inj (moves.symm.trans h)
    exact place

/-- Announcing never moves the watermark back. -/
theorem le_of_advancePast? (h : w.advancePast? id = some next) : w.next ≤ next.next := by
  have place := toNat_of_advancePast? h
  rw [ItemId.le_iff]
  omega

/-- Announcing the identifier at the watermark moves it to the following one, which exists if
the identifier lies below another. -/
theorem advancePast?_next {stop : ItemId} (h : w.next < stop) :
    ∃ next, w.advancePast? w.next = some next ∧ next.next.toNat = w.next.toNat + 1 := by
  have hs := stop.toNat_le
  rw [ItemId.lt_iff] at h
  obtain ⟨last, -⟩ | ⟨-, next, moves, place⟩ := w.advancePast?_cases w.next
  · omega
  · exact ⟨next, moves, by omega⟩

end Watermark
end FeedIngest
