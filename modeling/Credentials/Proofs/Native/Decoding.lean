import Credentials.Native.Wire
import Mathlib.Data.List.Forall2

/-!
# What is decoded

What has to hold of a document that is decoded to a value, for each function of the decoder. Lists and maps
are decoded item by item (`ofItems_eq_some_iff`, `ofEntries_eq_some_iff`). An object has one tag and at most
one content (`ofJson_object_cases`), and whatever way tag and content were written, the value is null or what
its content is decoded to with less nesting left (`ofJson_cases`).
-/

namespace Credentials.Native.Value

variable {taken : Bool} {b : Nat} {t : Tag} {j : Json} {v : Value}

/-! ## Lists and maps -/

theorem exists_of_forall₂ {α β : Type} {R : α → β → Prop} {as : List α} {bs : List β}
    (h : List.Forall₂ R as bs) {a : α} (ha : a ∈ as) : ∃ b ∈ bs, R a b := by
  induction h with
  | nil => cases ha
  | cons hab _ ih =>
    rcases List.mem_cons.mp ha with rfl | ha
    · exact ⟨_, List.mem_cons_self, hab⟩
    · obtain ⟨b, hb, hab⟩ := ih ha
      exact ⟨b, List.mem_cons_of_mem _ hb, hab⟩

theorem ofItems_eq_some_iff {items : List Json} {vs : List Value} :
    ofItems taken b items = some vs ↔ List.Forall₂ (fun j v => ofJson taken b j = some v) items vs := by
  induction items generalizing vs with
  | nil => simp [ofItems, eq_comm]
  | cons j items ih =>
    rw [ofItems, List.forall₂_cons_left_iff]
    constructor
    · intro h
      split at h
      · cases h
        exact ⟨_, _, ‹_›, ih.mp ‹_›, rfl⟩
      · cases h
    · rintro ⟨v, vs, hv, hvs, rfl⟩
      rw [hv, ih.mpr hvs]

theorem ofEntries_eq_some_iff {items : List Json} {es : List (Value × Value)} :
    ofEntries taken b items = some es ↔ List.Forall₂ (fun j e => ofEntry taken b j = some e) items es := by
  induction items generalizing es with
  | nil => simp [ofEntries, eq_comm]
  | cons j items ih =>
    rw [ofEntries, List.forall₂_cons_left_iff]
    constructor
    · intro h
      split at h
      · cases h
        exact ⟨_, _, ‹_›, ih.mp ‹_›, rfl⟩
      · cases h
    · rintro ⟨e, es, he, hes, rfl⟩
      rw [he, ih.mpr hes]

theorem ofEntry_eq_some_iff {e : Value × Value} :
    ofEntry taken b j = some e ↔ ∃ b' k l, b = b' + 1 ∧ j = .array [k, l] ∧
      ofJson taken b' k = some e.1 ∧ ofJson taken b' l = some e.2 := by
  constructor
  · intro h
    cases j with
    | array items =>
      cases b with
      | zero => cases h
      | succ b =>
        simp only [ofEntry] at h
        unfold ofKeyAndValue at h
        split at h
        · split at h
          · cases h
            exact ⟨b, _, _, rfl, rfl, ‹_›, ‹_›⟩
          · cases h
        · cases h
    | _ => cases h
  · rintro ⟨b', k, l, rfl, rfl, hk, hl⟩
    simp only [ofEntry, ofKeyAndValue, hk, hl]

/-! ## Objects -/

theorem member_unique {name : String} {members : List (Option String × Json)}
    (h : occurrences name members ≤ 1) (hj : (some name, j) ∈ members) (k : Json) :
    (some name, k) ∈ members ↔ k = j := by
  refine ⟨fun hk => ?_, fun hk => hk ▸ hj⟩
  have hfound : ∀ i, (some name, i) ∈ members → (some name, i) ∈ members.filter (·.1 == some name) :=
    fun i hi => List.mem_filter.mpr ⟨hi, beq_self_eq_true (some name)⟩
  have hj' := hfound j hj
  have hk' := hfound k hk
  rw [occurrences, List.countP_eq_length_filter] at h
  generalize members.filter (·.1 == some name) = found at h hj' hk'
  cases found with
  | nil => cases hj'
  | cons m rest =>
    have hrest : rest = [] := List.eq_nil_of_length_eq_zero (by rw [List.length_cons] at h; omega)
    rw [hrest, List.mem_singleton] at hj' hk'
    rw [← hj'] at hk'
    exact congrArg Prod.snd hk'

theorem eq_name_of_readTag? {s : Option String} (h : readTag? taken b (.string s) = some t) :
    s = some t.name := by
  rw [readTag?_string] at h
  obtain ⟨name, rfl, htag⟩ := Option.bind_eq_some_iff.mp h
  have hfound := List.find?_some htag
  rw [beq_iff_eq] at hfound
  rw [hfound]

theorem memberTag?_eq_some {members : List (Option String × Json)} (h : memberTag? taken b members = some t) :
    occurrences "value" members ≤ 1 ∧
      ∃ j, (∀ k, (some "type", k) ∈ members ↔ k = j) ∧ readTag? taken b j = some t := by
  unfold memberTag? at h
  split at h
  · rename_i hmembers
    obtain ⟨m, hfind, htag⟩ := Option.bind_eq_some_iff.mp h
    have hname := List.find?_some hfind
    rw [beq_iff_eq] at hname
    have hm : (some "type", m.2) ∈ members := by
      rw [← hname]
      exact List.mem_of_find?_eq_some hfind
    exact ⟨hmembers.2.2, m.2, member_unique (Nat.le_of_eq hmembers.2.1) hm, htag⟩
  · cases h

theorem ofMembers_cases {seen : Bool} {members : List (Option String × Json)}
    (h : ofMembers taken b t seen members = some v) :
    (t = .null ∧ v = null ∧ ∀ j, (some "value", j) ∉ members) ∨
      ∃ taken c, (some "value", c) ∈ members ∧ ofContent taken b t c = some v := by
  induction members generalizing seen with
  | nil =>
    rw [ofMembers] at h
    split at h
    · cases h
      exact Or.inl ⟨‹_›, rfl, fun j hj => nomatch hj⟩
    · cases h
  | cons m members ih =>
    obtain ⟨key, j⟩ := m
    rw [ofMembers] at h
    split at h
    · rename_i hkey
      split at h
      · exact Or.inr ⟨_, j, by rw [hkey]; exact List.mem_cons_self, h⟩
      · cases h
    · rename_i hkey
      rcases ih h with ⟨ht, hv, hnone⟩ | ⟨taken, c, hc, hcontent⟩
      · refine Or.inl ⟨ht, hv, fun i hi => ?_⟩
        rcases List.mem_cons.mp hi with hi | hi
        · cases hi
          exact hkey rfl
        · exact hnone i hi
      · exact Or.inr ⟨taken, c, List.mem_cons_of_mem _ hc, hcontent⟩

/-- An object that is decoded has one tag and one content, or is null without content. -/
theorem ofJson_object_cases {members : List (Option String × Json)}
    (h : ofJson taken b (.object members) = some v) :
    ∃ b' t, b = b' + 1 ∧
      (∃ j, (∀ k, (some "type", k) ∈ members ↔ k = j) ∧ readTag? taken b' j = some t) ∧
      ((t = .null ∧ v = null ∧ ∀ j, (some "value", j) ∉ members) ∨
        ∃ taken c, (∀ k, (some "value", k) ∈ members ↔ k = c) ∧ ofContent taken b' t c = some v) := by
  cases b with
  | zero => cases h
  | succ b =>
    simp only [ofJson] at h
    split at h
    · rename_i t htag
      obtain ⟨hone, hj⟩ := memberTag?_eq_some htag
      refine ⟨b, t, rfl, hj, ?_⟩
      rcases ofMembers_cases h with hnull | ⟨taken, c, hc, hcontent⟩
      · exact Or.inl hnull
      · exact Or.inr ⟨taken, c, member_unique hone hc, hcontent⟩
    · cases h

/-! ## Content -/

theorem ofContent_cases {c : Json} (h : ofContent taken b t c = some v) :
    match v with
    | float x => ∃ n, wireFloat? n = some x
    | bytes _ => ∃ b', b = b' + 1
    | list vs => ∃ b' items, b = b' + 1 ∧ ofItems taken b' items = some vs
    | map es => ∃ b' items, b = b' + 1 ∧ ofEntries taken b' items = some es
    | _ => True := by
  cases c with
  | null =>
    obtain ⟨-, ⟨⟩⟩ := Option.ite_none_right_eq_some.mp h
    trivial
  | bool x =>
    obtain ⟨-, ⟨⟩⟩ := Option.ite_none_right_eq_some.mp h
    trivial
  | number n =>
    rw [ofContent] at h
    split at h
    · obtain ⟨i, -, rfl⟩ := Option.map_eq_some_iff.mp h
      trivial
    · obtain ⟨-, h⟩ := Option.ite_none_right_eq_some.mp h
      obtain ⟨x, hx, rfl⟩ := Option.map_eq_some_iff.mp h
      exact ⟨n, hx⟩
  | string s =>
    obtain ⟨-, h⟩ := Option.ite_none_right_eq_some.mp h
    obtain ⟨x, -, rfl⟩ := Option.map_eq_some_iff.mp h
    trivial
  | array items =>
    cases b with
    | zero => cases h
    | succ b =>
      rw [ofContent] at h
      split at h
      · obtain ⟨bs, -, rfl⟩ := Option.map_eq_some_iff.mp h
        exact ⟨b, rfl⟩
      · split at h
        · obtain ⟨vs, hvs, rfl⟩ := Option.map_eq_some_iff.mp h
          exact ⟨b, items, rfl, hvs⟩
        · obtain ⟨-, h⟩ := Option.ite_none_right_eq_some.mp h
          obtain ⟨es, hes, rfl⟩ := Option.map_eq_some_iff.mp h
          exact ⟨b, items, rfl, hes⟩
  | object members => cases h

/-! ## Values -/

/-- However tag and content are written, they take up one level. -/
theorem ofJson_cases (h : ofJson taken b j = some v) :
    ∃ b', b = b' + 1 ∧ (v = null ∨ ∃ taken t c, ofContent taken b' t c = some v) := by
  cases j with
  | object members =>
    obtain ⟨b', t, rfl, -, ⟨-, rfl, -⟩ | ⟨taken, c, -, hcontent⟩⟩ := ofJson_object_cases h
    · exact ⟨b', rfl, Or.inl rfl⟩
    · exact ⟨b', rfl, Or.inr ⟨taken, t, c, hcontent⟩⟩
  | array items =>
    cases b with
    | zero => cases h
    | succ b =>
      simp only [ofJson] at h
      unfold ofPair at h
      split at h
      · split at h
        · exact ⟨b, rfl, Or.inr ⟨_, _, _, h⟩⟩
        · cases h
      · cases h
  | _ => cases h

end Credentials.Native.Value
