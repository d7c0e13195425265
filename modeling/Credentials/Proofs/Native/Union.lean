import Credentials.Proofs.Native.Attributes

/-!
# Attributes of joined and reordered maps

To set the attributes of a list of entries is to take the union with what they set on their own, in which
they win (`value?_setEntries`). So the attributes of a joined map are a union (`value?_ofEntries_append`),
and what is true of a stretch of entries stays true wherever the stretch stands. Where the pairs of texts
have different names, each of them is the last with its name (`lastText_iff_mem`), and their order does not
matter (`value?_ofEntries_of_perm`).
-/

namespace Credentials.Native

/-- The name of an entry that is a pair of texts. -/
def textName? : Value × Value → Option String
  | (.str name, .str _) => some name
  | _ => none

/-- The names of the entries that are pairs of texts, in order. -/
def textNames (entries : List (Value × Value)) : List String := entries.filterMap textName?

variable {entries xs ys : List (Value × Value)} {name value : String}

theorem mem_textNames (h : (.str name, .str value) ∈ entries) : name ∈ textNames entries :=
  List.mem_filterMap.mpr ⟨_, h, rfl⟩

theorem lastText_iff_mem (h : (textNames entries).Nodup) :
    LastText entries name value ↔ (.str name, .str value) ∈ entries := by
  refine ⟨LastText.mem, fun hmem => ?_⟩
  obtain ⟨before, after, rfl⟩ := List.append_of_mem hmem
  refine ⟨before, after, rfl, fun later hlater => ?_⟩
  have hsplit : textNames (before ++ (.str name, .str value) :: after) =
      textNames before ++ name :: textNames after := List.filterMap_append
  rw [hsplit] at h
  have hafter : name ∉ textNames after := (List.nodup_cons.mp (List.nodup_append.mp h).2.1).1
  exact hafter (mem_textNames hlater)

namespace Attributes

theorem setEntries_append (xs ys : List (Value × Value)) :
    ∀ a : Attributes, a.setEntries (xs ++ ys) = (a.setEntries xs).setEntries ys := by
  induction xs with
  | nil => intro a; rfl
  | cons e xs ih =>
    intro a
    by_cases htext : ∃ n v, e = (Value.str n, Value.str v)
    · obtain ⟨n, v, rfl⟩ := htext
      exact ih (a.set n v)
    · have hne : ∀ n v, e ≠ (.str n, .str v) := fun n v he => htext ⟨n, v, he⟩
      rw [List.cons_append, setEntries_of_notText hne, setEntries_of_notText hne, ih]

theorem value?_setEntries (a : Attributes) (entries : List (Value × Value)) (name : String) :
    (a.setEntries entries).value? name = ((ofEntries entries).value? name).or (a.value? name) := by
  cases hown : (ofEntries entries).value? name with
  | some value =>
    exact (value?_setEntries_eq_some_iff entries name value a).mpr
      (.inl (value?_ofEntries_eq_some_iff.mp hown))
  | none =>
    have hnone := value?_ofEntries_eq_none_iff.mp hown
    have hlast : ∀ value, ¬ LastText entries name value := fun value h => hnone value h.mem
    apply Option.ext
    intro value
    simp [value?_setEntries_eq_some_iff, hlast, hnone]

theorem value?_ofEntries_append (xs ys : List (Value × Value)) (name : String) :
    (ofEntries (xs ++ ys)).value? name =
      ((ofEntries ys).value? name).or ((ofEntries xs).value? name) := by
  rw [ofEntries, setEntries_append, value?_setEntries]
  rfl

theorem ofEntries_of_notText {e : Value × Value} (h : ∀ n v, e ≠ (.str n, .str v))
    (before after : List (Value × Value)) :
    ofEntries (before ++ e :: after) = ofEntries (before ++ after) := by
  simp only [ofEntries, setEntries_append, setEntries_of_notText h]

theorem value?_ofEntries_of_perm (hperm : xs.Perm ys) (h : (textNames xs).Nodup) (name : String) :
    (ofEntries xs).value? name = (ofEntries ys).value? name := by
  have hys : (textNames ys).Nodup := (hperm.filterMap textName?).nodup_iff.mp h
  apply Option.ext
  intro value
  rw [value?_ofEntries_eq_some_iff, value?_ofEntries_eq_some_iff, lastText_iff_mem h, lastText_iff_mem hys,
    hperm.mem_iff]

/-- The order of a stretch of entries does not matter, whatever stands around it. -/
theorem value?_ofEntries_reordered (hperm : xs.Perm ys) (h : (textNames xs).Nodup)
    (before after : List (Value × Value)) (name : String) :
    (ofEntries (before ++ xs ++ after)).value? name = (ofEntries (before ++ ys ++ after)).value? name := by
  simp only [value?_ofEntries_append, value?_ofEntries_of_perm hperm h]

end Attributes

/-- **The last pair of texts wins.** A value holds attributes if and only if it is a map, and of the
attributes of entries:

* the value of a name is that of the last entry that is a pair of texts with this name, and no name is there
  twice;
* those of two joined lists are the union, in which the second list wins;
* an entry whose name or value is no text changes nothing, wherever it stands: it neither replaces nor
  removes what a pair of texts with the same name has set;
* they stay as they are when entries are reordered among which no two pairs of texts have the same name. -/
theorem Value.attributes_of_entries :
    (∀ (v : Value) (a : Attributes),
      v.attributes? = some a ↔ ∃ entries, v = .map entries ∧ a = .ofEntries entries) ∧
    (∀ entries : List (Value × Value),
      (∀ name value, (Attributes.ofEntries entries).value? name = some value ↔
        LastText entries name value) ∧
      ((Attributes.ofEntries entries).map Prod.fst).Nodup) ∧
    (∀ (xs ys : List (Value × Value)) (name : String),
      (Attributes.ofEntries (xs ++ ys)).value? name =
        ((Attributes.ofEntries ys).value? name).or ((Attributes.ofEntries xs).value? name)) ∧
    (∀ (before after : List (Value × Value)) (e : Value × Value),
      (∀ name value, e ≠ (.str name, .str value)) →
        Attributes.ofEntries (before ++ e :: after) = Attributes.ofEntries (before ++ after)) ∧
    ∀ before xs ys after : List (Value × Value), xs.Perm ys → (textNames xs).Nodup →
      ∀ name, (Attributes.ofEntries (before ++ xs ++ after)).value? name =
        (Attributes.ofEntries (before ++ ys ++ after)).value? name := by
  refine ⟨?_, fun entries => ⟨fun name value => ?_, ?_⟩, Attributes.value?_ofEntries_append, ?_, ?_⟩
  · intro v a
    constructor
    · intro h
      cases v with
      | map entries => exact ⟨entries, rfl, (Option.some.inj h).symm⟩
      | _ => cases h
    · rintro ⟨entries, rfl, rfl⟩
      rfl
  · exact Attributes.value?_ofEntries_eq_some_iff
  · exact Attributes.nodup_setEntries entries List.nodup_nil
  · intro before after e hnot
    exact Attributes.ofEntries_of_notText hnot before after
  · intro before xs ys after hperm hnodup name
    exact Attributes.value?_ofEntries_reordered hperm hnodup before after name

/-- A number under a name that has a text, among entries that are turned around. -/
theorem Value.attributes_of_entries_mixed :
    let number : Value × Value := (.str "k", .int 2)
    let before : List (Value × Value) := [(.str "l", .str "0")]
    let xs : List (Value × Value) := [(.str "k", .str "1"), number, (.int 3, .str "c"), (.str "l", .str "2")]
    (∀ name value, number ≠ (.str name, .str value)) ∧ xs.Perm xs.reverse ∧ (textNames xs).Nodup ∧
      (Attributes.ofEntries (before ++ xs ++ [number])).value? "k" = some "1" ∧
      (Attributes.ofEntries (before ++ xs.reverse ++ [number])).value? "k" = some "1" ∧
      (Attributes.ofEntries (before ++ xs.reverse ++ [number])).value? "l" = some "2" := by
  intro number before xs
  obtain ⟨-, -, -, hnumber, hreorder⟩ := Value.attributes_of_entries
  have hnot : ∀ name value, number ≠ (.str name, .str value) := by simp [number]
  have hperm : xs.Perm xs.reverse := (List.reverse_perm xs).symm
  have hnodup : (textNames xs).Nodup := by decide
  have hturned := hreorder before xs xs.reverse [number] hperm hnodup
  have hlast : Attributes.ofEntries (before ++ xs ++ [number]) = Attributes.ofEntries (before ++ xs ++ []) :=
    hnumber (before ++ xs) [] number hnot
  refine ⟨hnot, hperm, hnodup, ?_, ?_, ?_⟩
  · rw [hlast]
    rfl
  · rw [← hturned, hlast]
    rfl
  · rw [← hturned, hlast]
    rfl

end Credentials.Native
