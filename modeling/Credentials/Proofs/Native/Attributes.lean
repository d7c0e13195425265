import Credentials.Native.Attributes

/-!
# The last pair of texts counts

What the attributes of a map say about a name is the value of the last entry that is a pair of texts with
this name (`value?_ofEntries_eq_some_iff`); entries of other kinds are as good as not there. A name that no
pair of texts has is absent, and no name is there twice.
-/

namespace Credentials.Native

/-- The entries hold this pair of texts, and none with the same name after it. -/
def LastText (entries : List (Value × Value)) (name value : String) : Prop :=
  ∃ before after, entries = before ++ (.str name, .str value) :: after ∧
    ∀ later, (Value.str name, Value.str later) ∉ after

variable {entries : List (Value × Value)} {name value : String}

theorem not_lastText_nil : ¬ LastText [] name value := by
  rintro ⟨before, after, hentries, -⟩
  cases before <;> cases hentries

theorem lastText_cons {e : Value × Value} :
    LastText (e :: entries) name value ↔ LastText entries name value ∨
      e = (.str name, .str value) ∧ ∀ later, (Value.str name, Value.str later) ∉ entries := by
  constructor
  · rintro ⟨before, after, hentries, hlater⟩
    cases before with
    | nil =>
      cases hentries
      exact .inr ⟨rfl, hlater⟩
    | cons first before =>
      cases hentries
      exact .inl ⟨before, after, rfl, hlater⟩
  · rintro (⟨before, after, rfl, hlater⟩ | ⟨rfl, hlater⟩)
    · exact ⟨e :: before, after, rfl, hlater⟩
    · exact ⟨[], entries, rfl, hlater⟩

theorem LastText.mem (h : LastText entries name value) : (.str name, .str value) ∈ entries := by
  obtain ⟨before, after, rfl, -⟩ := h
  simp

theorem exists_lastText (h : ∃ value, (.str name, .str value) ∈ entries) :
    ∃ value, LastText entries name value := by
  induction entries with
  | nil =>
    obtain ⟨value, hvalue⟩ := h
    cases hvalue
  | cons e entries ih =>
    by_cases hrest : ∃ value, (Value.str name, Value.str value) ∈ entries
    · obtain ⟨value, hlast⟩ := ih hrest
      exact ⟨value, lastText_cons.mpr (.inl hlast)⟩
    · obtain ⟨value, hvalue⟩ := h
      rcases List.mem_cons.mp hvalue with rfl | hvalue
      · exact ⟨value, lastText_cons.mpr (.inr ⟨rfl, fun later hlater => hrest ⟨later, hlater⟩⟩)⟩
      · exact absurd ⟨value, hvalue⟩ hrest

namespace Attributes

/-! ## What is set -/

theorem setEntries_of_notText {e : Value × Value} (h : ∀ name value, e ≠ (.str name, .str value))
    (a : Attributes) (entries : List (Value × Value)) :
    a.setEntries (e :: entries) = a.setEntries entries := by
  rw [setEntries]
  intro name value he
  exact h name value he

theorem value?_setEntries_eq_some_iff (entries : List (Value × Value)) (name value : String) :
    ∀ a : Attributes, (a.setEntries entries).value? name = some value ↔ LastText entries name value ∨
      a.value? name = some value ∧ ∀ later, (Value.str name, Value.str later) ∉ entries := by
  induction entries with
  | nil => intro a; simp [setEntries, not_lastText_nil]
  | cons e entries ih =>
    intro a
    by_cases htext : ∃ n v, e = (Value.str n, Value.str v)
    · obtain ⟨n, v, rfl⟩ := htext
      rw [setEntries, ih, lastText_cons, value?_set]
      by_cases hname : name = n
      · subst hname
        have hhead : ¬ ∀ later, (Value.str name, Value.str later) ∉ (.str name, .str v) :: entries :=
          fun h => h v List.mem_cons_self
        simp only [hhead, and_false, or_false, if_true, Option.some.injEq, Prod.mk.injEq,
          Value.str.injEq, true_and]
      · simp [hname, Ne.symm hname]
    · have hne : ∀ n v, e ≠ (.str n, .str v) := fun n v he => htext ⟨n, v, he⟩
      rw [setEntries_of_notText hne, ih, lastText_cons]
      simp [hne, Ne.symm (hne _ _)]

theorem value?_ofEntries_eq_some_iff :
    (ofEntries entries).value? name = some value ↔ LastText entries name value := by
  rw [ofEntries, value?_setEntries_eq_some_iff]
  simp [value?]

theorem value?_ofEntries_eq_none_iff :
    (ofEntries entries).value? name = none ↔ ∀ value, (Value.str name, Value.str value) ∉ entries := by
  constructor
  · intro h value hmem
    obtain ⟨last, hlast⟩ := exists_lastText ⟨value, hmem⟩
    rw [value?_ofEntries_eq_some_iff.mpr hlast] at h
    cases h
  · intro h
    cases hvalue : (ofEntries entries).value? name with
    | none => rfl
    | some value => exact absurd (value?_ofEntries_eq_some_iff.mp hvalue).mem (h value)

/-! ## Each name once -/

theorem nodup_set {a : Attributes} (h : (a.map Prod.fst).Nodup) (name value : String) :
    ((a.set name value).map Prod.fst).Nodup := by
  rw [set, List.map_cons, List.nodup_cons]
  constructor
  · simp
  · exact h.sublist (List.filter_sublist.map Prod.fst)

theorem nodup_setEntries (entries : List (Value × Value)) :
    ∀ {a : Attributes}, (a.map Prod.fst).Nodup → ((a.setEntries entries).map Prod.fst).Nodup := by
  induction entries with
  | nil => intro a h; exact h
  | cons e entries ih =>
    intro a h
    by_cases htext : ∃ n v, e = (Value.str n, Value.str v)
    · obtain ⟨n, v, rfl⟩ := htext
      exact ih (nodup_set h n v)
    · rw [setEntries_of_notText fun n v he => htext ⟨n, v, he⟩]
      exact ih h

theorem eq_nil_of_value? {a : Attributes} (h : ∀ name, a.value? name = none) : a = [] := by
  cases a with
  | nil => rfl
  | cons e rest =>
    have hfirst := h e.1
    simp [value?] at hfirst

end Attributes

end Credentials.Native
