import Credentials.Decimal.Layout
import Credentials.Decimal.Scaled
import Mathlib

/-!
# Finite doubles

What the arithmetic of doubles keeps finite, from the model of the numbers by mantissa and exponent. Packed
and unpacked again a value keeps its exponent, up to the largest one (`within_unpack_pack`), so a sign changes
nothing (`isFinite_neg`) and rounding is harmless far below the largest double (`within_roundWithAccuracy`).
So a numeral is read as a finite double if it is read at all (`isFinite_of_ofDigits`), and an integer of 64
bits always is (`isSome_ofDigits`).
-/

namespace Credentials.Decimal

open Float.Model (Format UnpackedFloat)
open Float.Model.UnpackedFloat (Accuracy ExtendedMantissa Sign pack roundWithAccuracy shiftToExponent
  shiftToTargetExponent unpack unpackExponent unpackExponent_packComponents unpackMantissa)

/-- A zero, or a finite value with at most `a` binary digits and an exponent of at most `k`. -/
def Within (a : Nat) (k : Int) : UnpackedFloat → Prop
  | .zero _ => True
  | .finite _ m e _ => m < 2 ^ a ∧ e ≤ k
  | _ => False

variable {a : Nat} {k : Int} {f : UnpackedFloat}

theorem Within.isFinite (h : Within a k f) : f.isFinite = true := by
  cases f with
  | infinity s => cases h
  | notANumber => cases h
  | zero s => rfl
  | finite s m e hm => rfl

theorem Within.mono {l : Int} (h : Within a k f) (hkl : k ≤ l) : Within a l f := by
  cases f with
  | infinity s => cases h
  | notANumber => cases h
  | zero s => trivial
  | finite s m e hm => exact ⟨h.1, Int.le_trans h.2 hkl⟩

theorem isFinite_iff {x : Float} : x.isFinite = true ↔ x.isNaN = false ∧ x.isInf = false := by
  show x.toModel.unpack.isFinite = true ↔ x.toModel.unpack.isNaN = false ∧ x.toModel.unpack.isInf = false
  cases x.toModel.unpack <;> simp [UnpackedFloat.isFinite, UnpackedFloat.isNaN, UnpackedFloat.isInf]

theorem within_neg (h : Within a k f) : Within a k f.neg := by
  cases f with
  | infinity s => cases h
  | notANumber => cases h
  | zero s => trivial
  | finite s m e hm => exact h

theorem within_unpack {b : BitVec Format.binary64.numBits} {n : Nat}
    (hb : (unpackExponent b).toNat ≤ n) (hn : n < 2047) :
    Within 53 (max (n - 1075) (-1074)) (unpack .binary64 b) := by
  have hones : unpackExponent b ≠ -BitVec.ofNat Format.binary64.exponentBits 1 := by
    intro h
    rw [h] at hb
    have : (-BitVec.ofNat Format.binary64.exponentBits 1).toNat = 2047 := by decide
    omega
  have hbias : (Format.binary64.exponentBias : Int) + Format.binary64.mantissaBitsWithoutImplicit = 1075 := by
    decide
  simp only [unpack, if_neg hones, hbias]
  split
  · rename_i hzero
    split
    · trivial
    · refine ⟨?_, ?_⟩
      · exact Nat.lt_trans (unpackMantissa b).isLt (by decide)
      · rw [hzero]
        show (0 : Int) - 1075 + 1 ≤ max (n - 1075 : Int) (-1074)
        omega
  · refine ⟨BitVec.isLt _, ?_⟩
    omega

theorem within_unpack_pack (h : Within a k f) (hlow : -1074 ≤ k) (hhigh : k ≤ 971) :
    Within 53 k (unpack .binary64 (pack .binary64 f)) := by
  cases f with
  | infinity s => cases h
  | notANumber => cases h
  | zero s => cases s <;> trivial
  | finite s m e hm =>
    obtain ⟨-, he⟩ := h
    have hbias : ∀ i : Int, i + Format.binary64.exponentBias +
        Format.binary64.mantissaBitsWithoutImplicit = i + 1075 := by
      intro i
      show i + (1023 : Int) + 52 = i + 1075
      omega
    -- the exponent field is the biased exponent, or zero for a subnormal double
    have hfield : (unpackExponent (pack .binary64 (.finite s m e hm))).toNat ≤ (k + 1075).toNat := by
      simp only [pack, hbias]
      rw [if_neg (by omega)]
      split
      · rw [unpackExponent_packComponents, BitVec.toNat_ofNat]
        refine Nat.le_trans (Nat.mod_le _ _) ?_
        omega
      · rw [unpackExponent_packComponents]
        exact Nat.zero_le _
    have hwithin := within_unpack hfield (by omega)
    rwa [show max (((k + 1075).toNat : Int) - 1075) (-1074) = k by omega] at hwithin

theorem isFinite_ofModel_pack (h : Within a k f) (hk : k ≤ 971) :
    (Float.ofModel (.pack f)).isFinite = true := by
  have hwithin := within_unpack_pack (h.mono hk) (by omega) (by omega)
  exact hwithin.isFinite

theorem unpack_not_isFinite {b : BitVec Format.binary64.numBits}
    (h : unpackExponent b = -BitVec.ofNat Format.binary64.exponentBits 1) :
    (unpack .binary64 b).isFinite = false := by
  simp only [unpack, if_pos h]
  split <;> rfl

theorem within_of_isFinite {x : Float} (h : x.isFinite = true) : Within 53 971 x.toModel.unpack := by
  let b : BitVec Format.binary64.numBits := x.toModel.toBits.toBitVec
  have hones : unpackExponent b ≠ -BitVec.ofNat Format.binary64.exponentBits 1 := by
    intro hones
    have hfinite : (unpack .binary64 b).isFinite = true := h
    rw [unpack_not_isFinite hones] at hfinite
    cases hfinite
  have hne : (unpackExponent b).toNat ≠ 2047 := fun h => hones (BitVec.eq_of_toNat_eq h)
  have hlt : (unpackExponent b).toNat < 2048 := (unpackExponent b).isLt
  exact within_unpack (b := b) (n := 2046) (by omega) (by omega)

theorem isFinite_neg {x : Float} (h : x.isFinite = true) : (-x).isFinite = true :=
  isFinite_ofModel_pack (within_neg (within_of_isFinite h)) (by omega)

/-! ## Rounding -/

theorem log2_lt {m : Nat} (h : m < 2 ^ (a + 1)) : m.log2 < a + 1 := by
  by_cases hm : m = 0
  · subst hm
    rw [Nat.log2_zero]
    omega
  · exact (Nat.log2_lt hm).mpr h

theorem mantissa_shiftRight_le (em : ExtendedMantissa) (n : Nat) :
    (em >>> n).mantissa ≤ em.mantissa := by
  show (n.repeat ExtendedMantissa.shiftRightOne em).mantissa ≤ em.mantissa
  induction n with
  | zero => exact Nat.le_refl _
  | succ n ih => exact Nat.le_trans (Nat.div_le_self _ _) ih

theorem roundedMantissa_le (em : ExtendedMantissa) : em.roundedMantissa ≤ em.mantissa + 1 := by
  obtain ⟨m, round, sticky⟩ := em
  cases round <;> cases sticky <;>
    simp only [ExtendedMantissa.roundedMantissa, ExtendedMantissa.accuracy,
      Accuracy.roundToNearestEven] <;> omega

theorem mantissa_ofMantissaAndAccuracy (m : Nat) (a : Accuracy) :
    (ExtendedMantissa.ofMantissaAndAccuracy m a).mantissa = m := by
  unfold ExtendedMantissa.ofMantissaAndAccuracy
  split <;> rfl

theorem shiftToTargetExponent_le {m : Nat} {e : Int} (hm : m < 2 ^ (a + 1)) (he : e ≤ k)
    (hk : -1074 ≤ k) (accuracy : Accuracy) :
    (shiftToTargetExponent .binary64 m e accuracy).1.mantissa ≤ m ∧
      (shiftToTargetExponent .binary64 m e accuracy).2 ≤ a + k := by
  have hlog := log2_lt hm
  constructor
  · apply Nat.le_trans (mantissa_shiftRight_le _ _)
    exact Nat.le_of_eq (mantissa_ofMantissaAndAccuracy _ _)
  · have htarget : Format.binary64.targetExponent (Float.Model.totalExponent m e) =
        max (m.log2 + 1 + e - 53 : Int) (-1074) := rfl
    simp only [shiftToTargetExponent, shiftToExponent, htarget]
    omega

/-- The bounds are generous: what matters is that they do not depend on the value. -/
theorem within_roundWithAccuracy {m : Nat} {e : Int} (hm : m < 2 ^ (a + 1)) (he : e ≤ k)
    (hk : -1074 ≤ k) (s : Sign) (accuracy : Accuracy) :
    Within (a + 2) (2 * a + 1 + k) (roundWithAccuracy .binary64 s m e accuracy) := by
  obtain ⟨hmantissa, hexponent⟩ := shiftToTargetExponent_le hm he hk accuracy
  have hpow : 2 ^ (a + 2) = 2 ^ (a + 1) + 2 ^ (a + 1) := by rw [Nat.pow_succ _ (a + 1), Nat.mul_two]
  have hrounded := roundedMantissa_le (shiftToTargetExponent .binary64 m e accuracy).1
  have hround : (shiftToTargetExponent .binary64 m e accuracy).1.roundedMantissa < 2 ^ (a + 1 + 1) := by
    omega
  -- rounding up may have made the mantissa one digit longer, so it is shifted again
  obtain ⟨hmantissa', hexponent'⟩ := shiftToTargetExponent_le hround hexponent (by omega) .exact
  simp only [roundWithAccuracy]
  split
  · trivial
  · refine ⟨Nat.lt_of_le_of_lt hmantissa' hround, ?_⟩
    push_cast at hexponent'
    omega

theorem within_ofUInt64 (n : UInt64) : Within 117 231 (UnpackedFloat.ofUInt64 .binary64 n) := by
  show Within 117 231 (UnpackedFloat.normalize .binary64 (n.toNat : Int) 0 .positive)
  by_cases hzero : n.toNat = 0
  · rw [hzero]
    trivial
  · have hpos : compare (n.toNat : Int) 0 = .gt := by
      rw [Int.compare_eq_gt]
      omega
    have hn : n.toNat < 2 ^ 64 := n.toNat_lt
    -- the mantissa is made longer by 52 digits at most
    have hshift : (0 - Format.binary64.targetExponent (Float.Model.totalExponent n.toNat 0)).toNat ≤ 52 := by
      show (0 - max (n.toNat.log2 + 1 + 0 - 53 : Int) (-1074)).toNat ≤ 52
      omega
    have hmantissa : n.toNat <<< (0 - Format.binary64.targetExponent
        (Float.Model.totalExponent n.toNat 0)).toNat < 2 ^ (115 + 1) := by
      rw [Nat.shiftLeft_eq]
      calc n.toNat * 2 ^ _ < 2 ^ 64 * 2 ^ _ := Nat.mul_lt_mul_of_pos_right hn (Nat.two_pow_pos _)
        _ ≤ 2 ^ 64 * 2 ^ 52 := Nat.mul_le_mul_left _ (Nat.pow_le_pow_right (by decide) hshift)
        _ = 2 ^ (115 + 1) := by decide
    simp only [UnpackedFloat.normalize, hpos, UnpackedFloat.round, Int.toNat_natCast]
    apply within_roundWithAccuracy (k := 0) hmantissa
    · show (0 : Int) - ((0 - Format.binary64.targetExponent _ : Int).toNat : Int) ≤ 0
      omega
    · omega

theorem isFinite_toFloat (n : UInt64) : (n.toFloat * powerOfTen 0).isFinite = true := by
  have hone : (powerOfTen 0).toModel.unpack = .finite .positive (2 ^ 52) (-52) (by decide) := by rfl
  have hn : Within 53 231 n.toFloat.toModel.unpack :=
    within_unpack_pack (within_ofUInt64 n) (by omega) (by omega)
  have hmul : Within 106 971
      (UnpackedFloat.mul .binary64 n.toFloat.toModel.unpack (powerOfTen 0).toModel.unpack) := by
    rw [hone]
    cases h : n.toFloat.toModel.unpack with
    | infinity s => rw [h] at hn; cases hn
    | notANumber => rw [h] at hn; cases hn
    | zero s => trivial
    | finite s m e hm =>
      rw [h] at hn
      obtain ⟨hm', he⟩ := hn
      have hmantissa : m * 2 ^ 52 < 2 ^ (104 + 1) := by omega
      exact (within_roundWithAccuracy (k := 231) hmantissa (by omega) (by omega) _ .exact).mono
        (by omega)
  exact isFinite_ofModel_pack hmul (by omega)

/-! ## Numerals read as doubles -/

theorem isFinite_of_scale {significand : Nat} {exponent : Int} {x : Float}
    (h : scale significand exponent = some x) : x.isFinite = true := by
  have hfinite : ∀ {y : Float}, ifFinite y = some x → x.isFinite = true := by
    intro y hy
    unfold ifFinite at hy
    split at hy
    · cases hy
      assumption
    · cases hy
  unfold scale at h
  split at h
  · exact hfinite h
  · split at h
    · exact hfinite h
    · split at h
      · cases h
        decide
      · cases h

/-- What a numeral is read as is finite. -/
theorem isFinite_of_ofDigits {negative : Bool} {whole fraction : List Nat} {exponent : Int} {x : Float}
    (h : ofDigits negative whole fraction exponent = some x) : x.isFinite = true := by
  simp only [ofDigits] at h
  obtain ⟨y, hy, rfl⟩ := Option.map_eq_some_iff.mp h
  have hfinite := isFinite_of_scale hy
  split
  · exact isFinite_neg hfinite
  · exact hfinite

theorem le_foldl_digits (ds : List Nat) (n : Nat) : n ≤ ds.foldl (fun n d => n * 10 + d) n := by
  induction ds generalizing n with
  | nil => exact Nat.le_refl n
  | cons d ds ih =>
    have := ih (n * 10 + d)
    rw [List.foldl_cons]
    omega

theorem takeFitting_of_lt {ds : List Nat} {n : Nat} (h : ds.foldl (fun n d => n * 10 + d) n < 2 ^ 64) :
    takeFitting n ds = (ds.foldl (fun n d => n * 10 + d) n, []) := by
  induction ds generalizing n with
  | nil => rfl
  | cons d ds ih =>
    have hfits : n * 10 + d < Nat.pow 2 64 := Nat.lt_of_le_of_lt (le_foldl_digits ds _) h
    rw [takeFitting, if_pos hfits]
    exact ih h

theorem isSome_ofDigits (negative : Bool) {whole : List Nat} (h : ofDigitList whole < 2 ^ 64) :
    (ofDigits negative whole [] 0).isSome = true := by
  have hscale : scale (ofDigitList whole) 0 =
      some ((UInt64.ofNat (ofDigitList whole)).toFloat * powerOfTen 0) := by
    rw [scale, if_neg (by omega), if_pos (by decide)]
    exact if_pos (isFinite_toFloat _)
  simp only [ofDigits, takeFitting_of_lt h]
  show ((scale (ofDigitList whole) 0).map _).isSome = true
  rw [hscale]
  rfl

end Credentials.Decimal
