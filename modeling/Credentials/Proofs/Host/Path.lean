import Credentials.Host.Path

/-!
# Joined paths and listed paths

A path below a directory with a name has a separator in it. The paths of a search list are what stands
between its colons.
-/

namespace Credentials.Host.Path

theorem isAbsolute_iff {p : String} : isAbsolute p = true ↔ ['/'] <+: p.toList := by
  rw [isAbsolute, String.startsWith_string_iff]
  exact Iff.rfl

theorem endsWith_separator_iff {p : String} : p.endsWith "/" = true ↔ ['/'] <:+ p.toList := by
  rw [String.endsWith_eq_endsWith_toSlice, String.Slice.endsWith_string_iff, String.copy_toSlice]
  exact Iff.rfl

theorem join_of_relative {base sub : String} (hsub : ¬ ['/'] <+: sub.toList) (hne : base ≠ "")
    (hbase : ¬ ['/'] <:+ base.toList) : join base sub = base ++ "/" ++ sub := by
  have hrelative : isAbsolute sub = false := Bool.eq_false_iff.mpr (mt isAbsolute_iff.mp hsub)
  have hend : base.endsWith "/" = false := Bool.eq_false_iff.mpr (mt endsWith_separator_iff.mp hbase)
  simp only [join, hrelative, hend, Bool.false_or, beq_iff_eq, hne, if_false, Bool.false_eq_true]

theorem separator_mem_join {base : String} (h : base ≠ "") (sub : String) :
    '/' ∈ (join base sub).toList := by
  by_cases hsub : ['/'] <+: sub.toList
  · rw [join, if_pos (by simp [isAbsolute_iff.mpr hsub])]
    exact hsub.subset List.mem_cons_self
  · by_cases hbase : ['/'] <:+ base.toList
    · have hrelative : isAbsolute sub = false := Bool.eq_false_iff.mpr (mt isAbsolute_iff.mp hsub)
      rw [join, if_neg (by simp [hrelative, h]), if_pos (endsWith_separator_iff.mpr hbase),
        String.toList_append]
      exact List.mem_append_left _ (hbase.subset List.mem_cons_self)
    · rw [join_of_relative hsub h hbase]
      simp

/-! ## Lists of paths -/

theorem pieces_ne_nil (sep : Char) (cs : List Char) : pieces sep cs ≠ [] := by
  cases cs with
  | nil => simp [pieces]
  | cons c rest =>
    rw [pieces]
    split
    · simp
    · split <;> simp

theorem intercalate_pieces (sep : Char) (cs : List Char) : [sep].intercalate (pieces sep cs) = cs := by
  induction cs with
  | nil => rfl
  | cons c rest ih =>
    obtain ⟨p, ps, hpieces⟩ := List.exists_cons_of_ne_nil (pieces_ne_nil sep rest)
    rw [hpieces] at ih
    rw [pieces, hpieces]
    split
    · rename_i hsep
      rw [List.intercalate_cons_cons, ih, hsep]
      rfl
    · dsimp only
      cases ps with
      | nil => simpa using ih
      | cons q qs =>
        rw [List.intercalate_cons_cons] at ih ⊢
        rw [← ih]
        rfl

theorem notMem_pieces (sep : Char) (cs : List Char) : ∀ p ∈ pieces sep cs, sep ∉ p := by
  induction cs with
  | nil => simp [pieces]
  | cons c rest ih =>
    obtain ⟨p, ps, hpieces⟩ := List.exists_cons_of_ne_nil (pieces_ne_nil sep rest)
    rw [hpieces] at ih
    rw [pieces, hpieces]
    split
    · simpa using ih
    · rename_i hsep
      simpa [Ne.symm hsep] using ih

end Credentials.Host.Path
