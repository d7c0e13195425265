import Credentials.Native.Value

/-!
# Signing attributes

The attributes of a signed artifact, from a native map of which only the pairs of texts count. A later
pair replaces an earlier one with the same name.
-/

namespace Credentials.Native

abbrev Attributes := List (String × String)

namespace Attributes

def value? (a : Attributes) (name : String) : Option String := a.lookup name

def set (a : Attributes) (name value : String) : Attributes :=
  (name, value) :: a.filter (·.1 != name)

theorem value?_filter (a : Attributes) {name other : String} (h : other ≠ name) :
    value? (a.filter (·.1 != name)) other = a.value? other := by
  induction a with
  | nil => rfl
  | cons e rest ih =>
    obtain ⟨k, v⟩ := e
    simp only [value?] at ih ⊢
    by_cases hk : k = name
    · subst hk
      have hb : (other == k) = false := by simpa using h
      simp [List.lookup_cons, hb, ih]
    · have hb : ((k, v).1 != name) = true := by simpa using hk
      rw [List.filter_cons, if_pos hb, List.lookup_cons, List.lookup_cons, ih]

theorem value?_set (a : Attributes) (name value other : String) :
    (a.set name value).value? other = if other = name then some value else a.value? other := by
  by_cases h : other = name
  · simp [set, value?, h]
  · have hb : (other == name) = false := by simpa using h
    rw [if_neg h, ← value?_filter a h]
    simp [set, value?, List.lookup_cons, hb]

/-- The attributes that the entries of a map set, after those there are. -/
def setEntries (a : Attributes) : List (Value × Value) → Attributes
  | [] => a
  | (.str name, .str value) :: rest => setEntries (a.set name value) rest
  | _ :: rest => setEntries a rest

/-- The attributes of the entries of a map. -/
def ofEntries (entries : List (Value × Value)) : Attributes := setEntries [] entries

end Attributes

/-- The attributes that a value holds, if it is a map. -/
def Value.attributes? : Value → Option Attributes
  | .map entries => some (.ofEntries entries)
  | _ => none

end Credentials.Native
