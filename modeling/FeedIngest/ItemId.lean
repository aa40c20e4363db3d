import FeedIngest.Text.Digits

/-! Item identifiers. The feed numbers its items upwards in 64 bits, and there is no
identifier after the last one. -/

namespace FeedIngest

/-- The number the feed gives to an item. -/
structure ItemId where
  val : UInt64
  deriving DecidableEq

namespace ItemId

def toNat (i : ItemId) : Nat := i.val.toNat

/-- The greatest value of an identifier. -/
def limit : Nat := 18446744073709551615

def ofNat? (n : Nat) : Option ItemId :=
  if n ≤ limit then some ⟨UInt64.ofNat n⟩ else none

instance : LT ItemId := ⟨fun a b => a.toNat < b.toNat⟩
instance : LE ItemId := ⟨fun a b => a.toNat ≤ b.toNat⟩
instance (a b : ItemId) : Decidable (a < b) := Nat.decLt _ _
instance (a b : ItemId) : Decidable (a ≤ b) := Nat.decLe _ _

theorem lt_iff {a b : ItemId} : a < b ↔ a.toNat < b.toNat := Iff.rfl
theorem le_iff {a b : ItemId} : a ≤ b ↔ a.toNat ≤ b.toNat := Iff.rfl

/-- The following identifier, if there is one. -/
def next? (i : ItemId) : Option ItemId := ofNat? (i.toNat + 1)

/-- Decimal digits without leading zeros. -/
def text (i : ItemId) : String := String.ofList (Digits.write i.toNat)

instance : ToString ItemId := ⟨text⟩

theorem toNat_le (i : ItemId) : i.toNat ≤ limit := Nat.le_of_lt_succ i.val.toNat_lt

theorem ext_toNat {a b : ItemId} (h : a.toNat = b.toNat) : a = b := by
  cases a; cases b
  exact congrArg ItemId.mk (UInt64.toNat_inj.1 h)

theorem ofNat?_eq_some {n : Nat} {i : ItemId} : ofNat? n = some i ↔ i.toNat = n := by
  unfold ofNat?
  split
  case isTrue h =>
    have hn : (UInt64.ofNat n).toNat = n := by
      rw [UInt64.toNat_ofNat']; exact Nat.mod_eq_of_lt (by unfold limit at h; omega)
    constructor
    · intro e; cases e; exact hn
    · intro e; exact congrArg some (ext_toNat (hn.trans e.symm))
  case isFalse h =>
    constructor
    · intro e; cases e
    · intro e; have := i.toNat_le; omega

theorem next?_eq_some {i j : ItemId} : i.next? = some j ↔ j.toNat = i.toNat + 1 :=
  ofNat?_eq_some

theorem next?_eq_none {i : ItemId} : i.next? = none ↔ i.toNat = limit := by
  have h := i.toNat_le
  unfold next? ofNat?
  split <;> simp <;> omega

end ItemId
end FeedIngest
