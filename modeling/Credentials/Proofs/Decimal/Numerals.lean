import Credentials.Decimal.Layout

/-!
# Well-formed numerals

`digitsOf` writes a number in decimal digits without a leading zero, and `ofDigitList` reads it back. A
numeral is `WellFormed` when it is one that a strict reader takes: some digits before the point, the first
of several no zero. Every integer and every double is written as such a numeral (`Numeral.wellFormed_ofInt`,
`Numeral.wellFormed_ofFloat`).
-/

namespace Credentials.Decimal

/-! ## Digits -/

@[simp]
theorem digitsOf_of_lt {n : Nat} (h : n < 10) : digitsOf n = [n] := by
  rw [digitsOf, if_pos h]

theorem digitsOf_of_le {n : Nat} (h : 10 ≤ n) : digitsOf n = digitsOf (n / 10) ++ [n % 10] := by
  rw [digitsOf, if_neg (by omega)]

theorem digitsOf_ne_nil (n : Nat) : digitsOf n ≠ [] := by
  by_cases h : n < 10
  · simp [h]
  · simp [digitsOf_of_le (Nat.le_of_not_lt h)]

theorem lt_of_mem_digitsOf {n d : Nat} (h : d ∈ digitsOf n) : d < 10 := by
  induction n using digitsOf.induct with
  | case1 n hn =>
    rw [digitsOf_of_lt hn, List.mem_singleton] at h
    omega
  | case2 n hn ih =>
    rw [digitsOf_of_le (Nat.le_of_not_lt hn), List.mem_append, List.mem_singleton] at h
    rcases h with h | rfl
    · exact ih h
    · exact Nat.mod_lt n (by omega)

theorem eq_zero_of_head_digitsOf {n : Nat} (h : (digitsOf n).head? = some 0) : n = 0 := by
  induction n using digitsOf.induct with
  | case1 n hn => simpa [hn] using h
  | case2 n hn ih =>
    -- the first digit is the first one of the tenth part, which is not zero
    obtain ⟨d, ds, hds⟩ := List.exists_cons_of_ne_nil (digitsOf_ne_nil (n / 10))
    rw [digitsOf_of_le (Nat.le_of_not_lt hn), hds] at h
    have hzero := ih (by rw [hds]; exact h)
    omega

theorem ofDigitList_append (ds : List Nat) (d : Nat) :
    ofDigitList (ds ++ [d]) = ofDigitList ds * 10 + d := by
  simp [ofDigitList]

@[simp]
theorem ofDigitList_digitsOf (n : Nat) : ofDigitList (digitsOf n) = n := by
  induction n using digitsOf.induct with
  | case1 n hn => simp [hn, ofDigitList]
  | case2 n hn ih =>
    rw [digitsOf_of_le (Nat.le_of_not_lt hn), ofDigitList_append, ih]
    omega

/-! ## Numerals -/

/-- A numeral that a strict reader takes. -/
structure Numeral.WellFormed (n : Numeral) : Prop where
  whole_ne_nil : n.whole ≠ []
  whole_lt : ∀ d ∈ n.whole, d < 10
  /-- A leading zero stands alone. -/
  leading_zero : n.whole.head? = some 0 → n.whole = [0]
  fraction_lt : ∀ d ∈ n.fraction, d < 10

namespace Numeral

theorem wellFormed_ofInt (n : Int) : (ofInt n).WellFormed where
  whole_ne_nil := digitsOf_ne_nil _
  whole_lt _ := lt_of_mem_digitsOf
  leading_zero h := by
    have hzero : n.natAbs = 0 := eq_zero_of_head_digitsOf h
    simp [ofInt, hzero]
  fraction_lt _ h := by cases h

end Numeral

/-! ## Numerals of doubles -/

theorem pos_of_inside {low high n unit : Nat} {even : Prop} [Decidable even] (hlow : 0 < low)
    (h : (if even then decide (low ≤ n * unit) && decide (n * unit ≤ high)
      else decide (low < n * unit) && decide (n * unit < high)) = true) : 0 < n := by
  apply Nat.pos_of_ne_zero
  rintro rfl
  rw [Nat.zero_mul] at h
  split at h <;> simp only [Bool.and_eq_true, decide_eq_true_eq] at h <;> omega

theorem digits_pos_of_onGrid {b : Binary} {k : Int} {d : Digits} (hb : 0 < b.mantissa)
    (h : onGrid b k = some d) : 0 < d.digits := by
  have hlow : 0 < (4 * b.mantissa - if b.narrowBelow then 1 else 2) *
      (Nat.pow 2 (b.exponent - 2).toNat * Nat.pow 10 (-k).toNat) := by
    apply Nat.mul_pos
    · split <;> omega
    · exact Nat.mul_pos (Nat.pow_pos (by decide)) (Nat.pow_pos (by decide))
  simp only [onGrid] at h
  split at h
  · cases h
  · cases h
    exact pos_of_inside hlow ‹_›
  · cases h
    exact Nat.succ_pos _
  · split at h <;> cases h
    · exact pos_of_inside hlow ‹_›
    · exact Nat.succ_pos _

theorem digits_pos_of_search {b : Binary} (hb : 0 < b.mantissa) (count : Nat) :
    ∀ {top : Int} {d : Digits}, search b top count = some d → 0 < d.digits := by
  induction count with
  | zero =>
    intro top d h
    cases h
  | succ count ih =>
    intro top d h
    rw [search] at h
    split at h
    · cases h
      exact digits_pos_of_onGrid hb ‹_›
    · exact ih h

/-- Where the search fails the digits are a single zero before the point. -/
theorem shortest_digits {b : Binary} (hb : 0 < b.mantissa) :
    0 < (shortest b).digits ∨ shortest b = ⟨0, 0⟩ := by
  unfold shortest
  cases h : search b 309 640 with
  | none => exact Or.inr rfl
  | some d => exact Or.inl (digits_pos_of_search hb 640 h)

theorem mantissa_ofBits_pos {bits : Nat} (h : bits ≠ 0) (hlt : bits < Nat.pow 2 63) :
    0 < (Binary.ofBits bits).mantissa := by
  have h52 : Nat.pow 2 52 = 4503599627370496 := rfl
  have h11 : Nat.pow 2 11 = 2048 := rfl
  have h63 : Nat.pow 2 63 = 9223372036854775808 := rfl
  simp only [Binary.ofBits, h52, h11]
  rw [h63] at hlt
  split
  · show 0 < bits % 4503599627370496
    omega
  · show 0 < 4503599627370496 + bits % 4503599627370496
    omega

namespace Numeral

theorem wellFormed_positional {digits : List Nat} (hne : digits ≠ []) (hlt : ∀ d ∈ digits, d < 10)
    {point : Int} (hzero : digits.head? = some 0 → digits = [0] ∧ point = 1) (negative : Bool) :
    (positional negative digits point).WellFormed := by
  simp only [positional]
  split
  · refine ⟨by simp, by simp, fun _ => rfl, ?_⟩
    intro d hd
    rcases List.mem_append.mp hd with hd | hd
    · rw [List.eq_of_mem_replicate hd]
      omega
    · exact hlt d hd
  · split
    · refine ⟨by simp [hne], ?_, ?_, by simp⟩
      · intro d hd
        rcases List.mem_append.mp hd with hd | hd
        · exact hlt d hd
        · rw [List.eq_of_mem_replicate hd]
          omega
      · intro hhead
        rw [List.head?_append, List.head?_eq_some_head hne, Option.some_or, ← List.head?_eq_some_head hne]
          at hhead
        obtain ⟨rfl, rfl⟩ := hzero hhead
        rfl
    · have hplace : point.toNat ≠ 0 := by omega
      refine ⟨by simp [hne, hplace], fun d hd => hlt d (List.mem_of_mem_take hd), ?_,
        fun d hd => hlt d (List.mem_of_mem_drop hd)⟩
      intro hhead
      rw [List.head?_take, if_neg hplace] at hhead
      obtain ⟨rfl, rfl⟩ := hzero hhead
      rfl

theorem wellFormed_scientific {digits : List Nat} (hne : digits ≠ []) (hlt : ∀ d ∈ digits, d < 10)
    (negative : Bool) (point : Int) : (scientific negative digits point).WellFormed := by
  obtain ⟨d, ds, rfl⟩ := List.exists_cons_of_ne_nil hne
  refine ⟨by simp [scientific], ?_, ?_, ?_⟩
  · intro d' hd'
    exact hlt d' (List.mem_of_mem_take hd')
  · intro hhead
    have hd : d = 0 := by simpa [scientific] using hhead
    simp [scientific, hd]
  · intro d' hd'
    exact hlt d' (List.mem_of_mem_drop hd')

theorem wellFormed_ofDigits (l : Layout) (negative : Bool) {d : Digits}
    (h : 0 < d.digits ∨ d = ⟨0, 0⟩) : (ofDigits l negative d).WellFormed := by
  have hlt : ∀ c ∈ digitsOf d.digits, c < 10 := fun c => lt_of_mem_digitsOf
  simp only [ofDigits]
  split
  · apply wellFormed_positional (digitsOf_ne_nil _) hlt
    intro hhead
    rcases h with hpos | rfl
    · have := eq_zero_of_head_digitsOf hhead
      omega
    · simp
  · exact wellFormed_scientific (digitsOf_ne_nil _) hlt negative _

/-- However a double is laid out, it is a numeral that a strict reader takes. -/
theorem wellFormed_ofFloat (l : Layout) (x : Float) : (ofFloat l x).WellFormed := by
  simp only [ofFloat]
  split
  · exact ⟨by simp, by simp, fun _ => rfl, by simp⟩
  · apply wellFormed_ofDigits
    apply shortest_digits
    exact mantissa_ofBits_pos ‹_› (Nat.mod_lt _ (by decide))

end Numeral

end Credentials.Decimal
