import Credentials.Proofs.Native.Places
import Mathlib.Algebra.Group.Int.Defs

/-!
# Ill-formed nodes

What no node of a wire form may be, said of the node as it is written: which members it has, and which numbers
and arrays are its content. No such node is decoded (`refused_of_illFormed`), and so no document with one in
it.
-/

namespace Credentials.Native.Value

open Decimal (Numeral ofDigitList)

/-- The number that the digits of an integer literal stand for. -/
def literal (n : Numeral) : Int :=
  if n.negative then -(ofDigitList n.whole : Int) else ofDigitList n.whole

theorem literal_ofInt (n : Int) : literal (.ofInt n) = n := by
  simp only [literal, Numeral.ofInt, Decimal.ofDigitList_digitsOf, decide_eq_true_eq]
  split <;> omega

/-- An integer literal that fits into 64 bits. -/
def IsInteger (j : Json) : Prop :=
  ∃ n : Numeral, j = .number n ∧ n.fraction = [] ∧ n.exponent = none ∧
    -2 ^ 63 ≤ literal n ∧ literal n < 2 ^ 63

/-- A literal of an integer from 0 to 255, without a sign. -/
def IsByte (j : Json) : Prop :=
  ∃ n : Numeral, j = .number n ∧ n.fraction = [] ∧ n.exponent = none ∧
    n.negative = false ∧ literal n < 256

/-- A node that stands for no value, whatever other members it has and in whatever order. -/
inductive IllFormed : Json → Prop where
  | untagged {members : List (Option String × Json)} (h : ∀ j, (some "type", j) ∉ members) :
    IllFormed (.object members)
  | unknownTag {members : List (Option String × Json)} {name : Option String}
    (htag : (some "type", .string name) ∈ members) (hname : ∀ t : Tag, name ≠ some t.name) :
    IllFormed (.object members)
  | withoutContent {members : List (Option String × Json)} {t : Tag} (ht : t ≠ .null)
    (htag : (some "type", .string (some t.name)) ∈ members) (h : ∀ j, (some "value", j) ∉ members) :
    IllFormed (.object members)
  | integer {members : List (Option String × Json)} {j : Json}
    (htag : (some "type", .string (some "int")) ∈ members) (hvalue : (some "value", j) ∈ members)
    (hj : ¬ IsInteger j) : IllFormed (.object members)
  | byte {members : List (Option String × Json)} {items : List Json} {j : Json}
    (htag : (some "type", .string (some "bytes")) ∈ members)
    (hvalue : (some "value", .array items) ∈ members) (hmem : j ∈ items) (hj : ¬ IsByte j) :
    IllFormed (.object members)
  | entry {members : List (Option String × Json)} {items entry : List Json}
    (htag : (some "type", .string (some "map")) ∈ members)
    (hvalue : (some "value", .array items) ∈ members) (hmem : .array entry ∈ items)
    (hlength : entry.length ≠ 2) : IllFormed (.object members)

/-! ## Numbers -/

theorem wireInt?_eq_some {n : Numeral} {i : Int} (h : wireInt? n = some i) :
    n.fraction = [] ∧ n.exponent = none ∧ i = literal n ∧ (n.negative = true → i < 0) := by
  unfold wireInt? at h
  split at h
  · rename_i hplain
    refine ⟨hplain.1, hplain.2, ?_⟩
    unfold literal
    dsimp only at h
    split at h
    · rename_i hnegative
      split at h
      · cases h
      · cases h
        rw [if_pos hnegative]
        refine ⟨rfl, fun _ => ?_⟩
        show -(ofDigitList n.whole : Int) < 0
        omega
    · rename_i hnegative
      cases h
      rw [if_neg hnegative]
      exact ⟨rfl, fun h => absurd h hnegative⟩
  · cases h

theorem isInteger_of_readInt? {j : Json} {i : Int64} (h : readInt? j = some i) : IsInteger j := by
  unfold readInt? at h
  split at h
  · rename_i n
    split at h
    · split at h
      · rename_i hread hrange
        obtain ⟨hfraction, hexponent, rfl, -⟩ := wireInt?_eq_some hread
        have hmin : Int64.minValue.toInt = -2 ^ 63 := by decide
        have hmax : Int64.maxValue.toInt = 2 ^ 63 - 1 := by decide
        exact ⟨n, rfl, hfraction, hexponent, by omega, by omega⟩
      · cases h
    · cases h
  · cases h

theorem isByte_of_readByte? {j : Json} {b : UInt8} (h : readByte? j = some b) : IsByte j := by
  unfold readByte? at h
  split at h
  · rename_i n
    split at h
    · split at h
      · rename_i hread hrange
        obtain ⟨hfraction, hexponent, rfl, hnegative⟩ := wireInt?_eq_some hread
        refine ⟨n, rfl, hfraction, hexponent, ?_, hrange.2⟩
        rw [← Bool.not_eq_true]
        intro h
        have := hnegative h
        omega
      · cases h
    · cases h
  · cases h

theorem readBytes?_eq_none {items : List Json} {j : Json} (hmem : j ∈ items) (hj : ¬ IsByte j) :
    readBytes? items = none := by
  induction items with
  | nil => cases hmem
  | cons i items ih =>
    rw [readBytes?]
    split
    · rename_i b bs hb hbs
      rcases List.mem_cons.mp hmem with rfl | hmem
      · exact absurd (isByte_of_readByte? hb) hj
      · rw [ih hmem] at hbs
        cases hbs
    · rfl

theorem ofContent_int_eq_none {j : Json} (hj : ¬ IsInteger j) (taken : Bool) (b : Nat) :
    ofContent taken b .int j = none := by
  cases j with
  | number n =>
    rw [ofContent, if_pos rfl, Option.map_eq_none_iff, Option.eq_none_iff_forall_ne_some]
    intro i hi
    exact hj (isInteger_of_readInt? hi)
  | array items => cases b <;> rfl
  | _ => rfl

/-! ## Nodes -/

theorem refused_of_illFormed {j : Json} (h : IllFormed j) : Refused j := by
  cases h with
  | untagged h =>
    intro taken b v hv
    obtain ⟨b', t, -, ⟨j, hj, -⟩, -⟩ := ofJson_object_cases hv
    exact h j ((hj j).mpr rfl)
  | unknownTag htag hname =>
    intro taken b v hv
    obtain ⟨b', t, -, ⟨j, hj, htag'⟩, -⟩ := ofJson_object_cases hv
    rw [← (hj _).mp htag] at htag'
    exact hname t (eq_name_of_readTag? htag')
  | withoutContent ht htag h =>
    intro taken b v hv
    obtain ⟨b', t, -, ⟨j, hj, htag'⟩, ⟨hnull, -, -⟩ | ⟨taken', c, hc, -⟩⟩ := ofJson_object_cases hv
    · rw [← (hj _).mp htag, readTag?_name] at htag'
      cases htag'
      exact ht hnull
    · exact h c ((hc c).mpr rfl)
  | integer htag hvalue hj =>
    exact refused_of_content (t := .int) htag hvalue (ofContent_int_eq_none hj)
  | byte htag hvalue hmem hj =>
    apply refused_of_content (t := .bytes) htag hvalue
    intro taken b
    cases b with
    | zero => rfl
    | succ b =>
      rw [ofContent, if_pos rfl, readBytes?_eq_none hmem hj]
      rfl
  | entry htag hvalue hmem hlength =>
    apply refused_of_content (t := .map) htag hvalue
    apply ofContent_map_eq_none hmem
    intro taken b e he
    obtain ⟨b', k, l, -, hitems, -, -⟩ := ofEntry_eq_some_iff.mp he
    cases hitems
    exact hlength rfl

end Credentials.Native.Value
