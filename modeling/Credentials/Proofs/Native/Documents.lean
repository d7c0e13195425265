import Credentials.Native.Wire
import Credentials.Proofs.Decimal.Finite
import Credentials.Proofs.Decimal.Numerals

/-!
# Documents of values

How deep the wire form of a value is nested, which values hold no doubles, and what the leaves of a wire form
are read as: tags, integers and bytes. All of them can be taken in whole (`takeable_iff`), as every integer of
64 bits is a finite double too (`isSome_wireFloat?`).
-/

namespace Credentials.Native.Value

open Decimal (Numeral)

mutual

def FloatFree : Value → Prop
  | float _ => False
  | list items => FloatFreeItems items
  | map entries => FloatFreeEntries entries
  | _ => True

def FloatFreeItems : List Value → Prop
  | [] => True
  | v :: rest => FloatFree v ∧ FloatFreeItems rest

def FloatFreeEntries : List (Value × Value) → Prop
  | [] => True
  | (k, v) :: rest => FloatFree k ∧ FloatFree v ∧ FloatFreeEntries rest

end

mutual

/-- How many arrays and objects are nested in the wire form of a value. -/
def wireDepth : Value → Nat
  | bytes _ => 2
  | list items => 2 + deepestItem items
  | map [] => 2
  | map ((k, v) :: rest) => 3 + max (max (wireDepth k) (wireDepth v)) (deepestEntry rest)
  | _ => 1

/-- The largest depth of an item, zero if there is none. -/
def deepestItem : List Value → Nat
  | [] => 0
  | v :: rest => max (wireDepth v) (deepestItem rest)

/-- The largest depth of a key or a value, zero if there is none. -/
def deepestEntry : List (Value × Value) → Nat
  | [] => 0
  | (k, v) :: rest => max (max (wireDepth k) (wireDepth v)) (deepestEntry rest)

end

/-! ## Numbers -/

theorem wireInt?_ofInt (n : Int) : wireInt? (.ofInt n) = some n := by
  simp only [wireInt?, Numeral.ofInt, Decimal.ofDigitList_digitsOf, and_self, if_true]
  by_cases h : n < 0
  · have hne : n.natAbs ≠ 0 := by omega
    have hneg : -Int.ofNat n.natAbs = n := by simp only [Int.ofNat_eq_natCast]; omega
    simp only [h, decide_true, if_true, hne, if_false, hneg]
  · have hnonneg : Int.ofNat n.natAbs = n := by simp only [Int.ofNat_eq_natCast]; omega
    simp only [h, decide_false, Bool.false_eq_true, if_false, hnonneg]

theorem readInt?_toInt (n : Int64) : readInt? (.number (.ofInt n.toInt)) = some n := by
  have hrange := And.intro n.minValue_le_toInt n.toInt_le
  simp only [readInt?, wireInt?_ofInt, hrange, and_self, if_true, Int64.ofInt_toInt]

theorem readByte?_toNat (b : UInt8) : readByte? (.number (.ofInt b.toNat)) = some b := by
  have hlt := b.toNat_lt
  have hrange : (0 : Int) ≤ b.toNat ∧ (b.toNat : Int) < 256 := by omega
  simp only [readByte?, wireInt?_ofInt, hrange, and_self, if_true, Int.toNat_natCast, UInt8.ofNat_toNat]

theorem readBytes?_toNat (bs : List UInt8) :
    readBytes? (bs.map fun b => .number (.ofInt b.toNat)) = some bs := by
  induction bs with
  | nil => rfl
  | cons b bs ih => simp only [List.map_cons, readBytes?, readByte?_toNat, ih]

theorem isSome_wireFloat? {n : Int} (h : n.natAbs < 2 ^ 64) : (wireFloat? (.ofInt n)).isSome = true := by
  apply Decimal.isSome_ofDigits
  show Decimal.ofDigitList (Decimal.digitsOf n.natAbs) < 2 ^ 64
  rw [Decimal.ofDigitList_digitsOf]
  exact h

theorem natAbs_toInt_lt (n : Int64) : n.toInt.natAbs < 2 ^ 64 := by
  have hlow := n.minValue_le_toInt
  have hhigh := n.toInt_le
  have hmin : Int64.minValue.toInt = -9223372036854775808 := by decide
  have hmax : Int64.maxValue.toInt = 9223372036854775807 := by decide
  omega

/-! ## Tags -/

theorem ofName?_name (t : Tag) : Tag.ofName? t.name = some t := by
  cases t <;> decide

theorem readTag?_name (taken : Bool) (b : Nat) (t : Tag) :
    readTag? taken b (.string (some t.name)) = some t := by
  simp [readTag?_string, ofName?_name]

/-! ## Documents taken in whole -/

mutual

/-- Every string and every name is a text, and every number a finite double. -/
def Usable : Json → Prop
  | .number n => (wireFloat? n).isSome = true
  | .string s => s.isSome = true
  | .array items => UsableItems items
  | .object members => UsableMembers members
  | _ => True

def UsableItems : List Json → Prop
  | [] => True
  | j :: rest => Usable j ∧ UsableItems rest

def UsableMembers : List (Option String × Json) → Prop
  | [] => True
  | (key, j) :: rest => key.isSome = true ∧ Usable j ∧ UsableMembers rest

end

mutual

theorem takeable_iff (b : Nat) : ∀ j : Json, takeable b j = true ↔ j.depth ≤ b ∧ Usable j
  | .null => by simp [takeable, Json.depth, Usable]
  | .bool _ => by simp [takeable, Json.depth, Usable]
  | .number _ => by simp [takeable, Json.depth, Usable]
  | .string _ => by simp [takeable, Json.depth, Usable]
  | .array items => by
    cases b with
    | zero => simp [takeable, Json.depth]
    | succ b =>
      rw [takeable, takeableItems_iff b items, Json.depth, Usable, Nat.add_le_add_iff_right]
  | .object members => by
    cases b with
    | zero => simp [takeable, Json.depth]
    | succ b =>
      rw [takeable, takeableMembers_iff b members, Json.depth, Usable, Nat.add_le_add_iff_right]

theorem takeableItems_iff (b : Nat) : ∀ items : List Json,
    takeableItems b items = true ↔ Json.depthItems items ≤ b ∧ UsableItems items
  | [] => by simp [takeableItems, Json.depthItems, UsableItems]
  | j :: rest => by
    rw [takeableItems, Bool.and_eq_true, takeable_iff b j, takeableItems_iff b rest, Json.depthItems,
      UsableItems, Nat.max_le]
    exact and_and_and_comm

theorem takeableMembers_iff (b : Nat) : ∀ members : List (Option String × Json),
    takeableMembers b members = true ↔ Json.depthMembers members ≤ b ∧ UsableMembers members
  | [] => by simp [takeableMembers, Json.depthMembers, UsableMembers]
  | (key, j) :: rest => by
    rw [takeableMembers, Bool.and_eq_true, Bool.and_eq_true, takeable_iff b j,
      takeableMembers_iff b rest, Json.depthMembers, UsableMembers, Nat.max_le]
    constructor
    · rintro ⟨⟨hkey, hdepth, husable⟩, hdepths, husables⟩
      exact ⟨⟨hdepth, hdepths⟩, hkey, husable, husables⟩
    · rintro ⟨⟨hdepth, hdepths⟩, hkey, husable, husables⟩
      exact ⟨⟨hkey, hdepth, husable⟩, hdepths, husables⟩

end

end Credentials.Native.Value
