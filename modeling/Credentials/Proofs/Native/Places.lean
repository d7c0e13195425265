import Credentials.Proofs.Native.Decoding
import Credentials.Proofs.Native.RoundTrip

/-!
# Places in a value

A place is where a value stands inside another one: at the root, as an item of a list, or as a key or a
value of a map entry, at any depth. `fill` puts a value there, `put` a document there in the wire form of
everything around it. The two agree (`put_toJson`), and where a document stands that is refused, all of the
document around it is refused (`refused_put`).
-/

namespace Credentials.Native

open Value (tagged itemsJson entriesJson)

inductive Place where
  | root
  | item (before : List Value) (p : Place) (after : List Value)
  | entryKey (before : List (Value × Value)) (p : Place) (v : Value) (after : List (Value × Value))
  | entryValue (before : List (Value × Value)) (k : Value) (p : Place) (after : List (Value × Value))

namespace Place

def fill (w : Value) : Place → Value
  | root => w
  | item before p after => .list (before ++ fill w p :: after)
  | entryKey before p v after => .map (before ++ (fill w p, v) :: after)
  | entryValue before k p after => .map (before ++ (k, fill w p) :: after)

/-- The wire form with the document `j` in the place. -/
def put (j : Json) : Place → Json
  | root => j
  | item before p after => tagged .list (.array (itemsJson before ++ put j p :: itemsJson after))
  | entryKey before p v after =>
    tagged .map (.array (entriesJson before ++ .array [put j p, v.toJson] :: entriesJson after))
  | entryValue before k p after =>
    tagged .map (.array (entriesJson before ++ .array [k.toJson, put j p] :: entriesJson after))

theorem itemsJson_append (as bs : List Value) : itemsJson (as ++ bs) = itemsJson as ++ itemsJson bs := by
  induction as with
  | nil => rfl
  | cons v as ih => rw [List.cons_append, itemsJson, itemsJson, ih, List.cons_append]

theorem entriesJson_append (as bs : List (Value × Value)) :
    entriesJson (as ++ bs) = entriesJson as ++ entriesJson bs := by
  induction as with
  | nil => rfl
  | cons e as ih => rw [List.cons_append, entriesJson, entriesJson, ih, List.cons_append]

theorem put_toJson (w : Value) (p : Place) : p.put w.toJson = (p.fill w).toJson := by
  induction p with
  | root => rfl
  | item before p after ih => rw [put, fill, Value.toJson, itemsJson_append, itemsJson, ih]
  | entryKey before p v after ih => rw [put, fill, Value.toJson, entriesJson_append, entriesJson, ih]
  | entryValue before k p after ih => rw [put, fill, Value.toJson, entriesJson_append, entriesJson, ih]

theorem wellFormedItems_append {as bs : List Json} (has : Json.WellFormedItems as)
    (hbs : Json.WellFormedItems bs) : Json.WellFormedItems (as ++ bs) := by
  induction as with
  | nil => exact hbs
  | cons j as ih => exact ⟨has.1, ih has.2⟩

theorem wellFormed_put {j : Json} (hj : j.WellFormed) (p : Place) : (p.put j).WellFormed := by
  have hitems : ∀ items, Json.WellFormedItems (itemsJson items) := fun items =>
    Value.wellFormed_arrangedItems (Value.arranged_itemsJson items)
  have hentries : ∀ entries, Json.WellFormedItems (entriesJson entries) := fun entries =>
    Value.wellFormed_arrangedEntries (Value.arranged_entriesJson entries)
  induction p with
  | root => exact hj
  | item before p after ih =>
    exact ⟨trivial, wellFormedItems_append (hitems before) ⟨ih, hitems after⟩, trivial⟩
  | entryKey before p v after ih =>
    exact ⟨trivial, wellFormedItems_append (hentries before)
      ⟨⟨ih, Value.wellFormed_toJson v, trivial⟩, hentries after⟩, trivial⟩
  | entryValue before k p after ih =>
    exact ⟨trivial, wellFormedItems_append (hentries before)
      ⟨⟨Value.wellFormed_toJson k, ih, trivial⟩, hentries after⟩, trivial⟩

/-! ## What stands in a list or a map -/

variable {w v : Value} {p : Place}

theorem fill_eq_list {items : List Value} (h : p.fill w = .list items) :
    w = .list items ∨ ∃ q : Place, q.fill w ∈ items := by
  cases p with
  | root => exact Or.inl h
  | item before q after =>
    cases h
    exact Or.inr ⟨q, by simp⟩
  | entryKey before q v after => cases h
  | entryValue before k q after => cases h

theorem fill_eq_map {entries : List (Value × Value)} (h : p.fill w = .map entries) :
    w = .map entries ∨ ∃ q : Place, ∃ e ∈ entries, q.fill w = e.1 ∨ q.fill w = e.2 := by
  cases p with
  | root => exact Or.inl h
  | item before q after => cases h
  | entryKey before q v after =>
    cases h
    exact Or.inr ⟨q, (q.fill w, v), by simp, Or.inl rfl⟩
  | entryValue before k q after =>
    cases h
    exact Or.inr ⟨q, (k, q.fill w), by simp, Or.inr rfl⟩

theorem fill_eq_of_leaf (hlist : ∀ items, v ≠ .list items) (hmap : ∀ entries, v ≠ .map entries)
    (h : p.fill w = v) : w = v := by
  cases p with
  | root => exact h
  | item before q after => exact absurd h.symm (hlist _)
  | entryKey before q v after => exact absurd h.symm (hmap _)
  | entryValue before k q after => exact absurd h.symm (hmap _)

end Place

/-! ## Refused documents -/

namespace Value

/-- The document is not decoded, however much nesting is allowed. -/
def Refused (j : Json) : Prop := ∀ taken b v, ofJson taken b j ≠ some v

theorem Refused.eq_none {j : Json} (h : Refused j) (taken : Bool) (b : Nat) : ofJson taken b j = none :=
  Option.eq_none_iff_forall_ne_some.mpr (h taken b)

theorem decode?_eq_none {s : String} {j : Json} (hs : Json.ofString? s = some j) (hj : Refused j) :
    decode? s = none := by
  rw [decode?, hs]
  exact hj.eq_none false depthLimit

theorem signatureResult_of_refused {s : String} (h : decode? s = none) :
    ∃ reason, Exports.signatureResult (.ok (some s)) = .error (.malformed reason) :=
  ⟨_, by rw [Exports.signatureResult, h]⟩

theorem refused_of_content {members : List (Option String × Json)} {t : Tag} {c : Json}
    (htag : (some "type", .string (some t.name)) ∈ members) (hc : (some "value", c) ∈ members)
    (h : ∀ taken b, ofContent taken b t c = none) : Refused (.object members) := by
  intro taken b v hv
  obtain ⟨b', t', -, ⟨j, hj, htag'⟩, ⟨-, -, hnone⟩ | ⟨taken', c', hc', hcontent⟩⟩ :=
    ofJson_object_cases hv
  · exact hnone c hc
  · rw [← (hj _).mp htag, readTag?_name] at htag'
    cases htag'
    rw [← (hc' _).mp hc, h taken' b'] at hcontent
    cases hcontent

theorem refused_tagged {t : Tag} {c : Json} (h : ∀ taken b, ofContent taken b t c = none) :
    Refused (tagged t c) :=
  refused_of_content (t := t) (c := c) (by simp) (by simp) h

theorem ofContent_list_eq_none {j : Json} {items : List Json} (hmem : j ∈ items) (h : Refused j)
    (taken : Bool) (b : Nat) : ofContent taken b .list (.array items) = none := by
  cases b with
  | zero => rfl
  | succ b =>
    have hitems : ofItems taken b items = none := by
      rw [Option.eq_none_iff_forall_ne_some]
      intro vs hvs
      obtain ⟨v, -, hv⟩ := exists_of_forall₂ (ofItems_eq_some_iff.mp hvs) hmem
      exact h taken b v hv
    simp only [ofContent, reduceCtorEq, if_false, if_true, hitems, Option.map_none]

theorem ofContent_map_eq_none {j : Json} {items : List Json} (hmem : j ∈ items)
    (h : ∀ taken b e, ofEntry taken b j ≠ some e) (taken : Bool) (b : Nat) :
    ofContent taken b .map (.array items) = none := by
  cases b with
  | zero => rfl
  | succ b =>
    have hentries : ofEntries taken b items = none := by
      rw [Option.eq_none_iff_forall_ne_some]
      intro es hes
      obtain ⟨e, -, he⟩ := exists_of_forall₂ (ofEntries_eq_some_iff.mp hes) hmem
      exact h taken b e he
    simp only [ofContent, reduceCtorEq, if_false, if_true, hentries, Option.map_none]

theorem ofEntry_ne_some {k l : Json} (h : Refused k ∨ Refused l) (taken : Bool) (b : Nat)
    (e : Value × Value) : ofEntry taken b (.array [k, l]) ≠ some e := by
  intro he
  obtain ⟨b', k', l', -, hitems, hk, hl⟩ := ofEntry_eq_some_iff.mp he
  cases hitems
  rcases h with h | h
  · exact h taken b' e.1 hk
  · exact h taken b' e.2 hl

end Value

/-- One bad part anywhere, and the whole is refused. -/
theorem Place.refused_put {j : Json} (h : Value.Refused j) (p : Place) : Value.Refused (p.put j) := by
  induction p with
  | root => exact h
  | item before p after ih =>
    exact Value.refused_tagged (Value.ofContent_list_eq_none (by simp) ih)
  | entryKey before p v after ih =>
    have hentry := Value.ofEntry_ne_some (l := v.toJson) (Or.inl ih)
    exact Value.refused_tagged (Value.ofContent_map_eq_none (by simp) hentry)
  | entryValue before k p after ih =>
    have hentry := Value.ofEntry_ne_some (k := k.toJson) (Or.inr ih)
    exact Value.refused_tagged (Value.ofContent_map_eq_none (by simp) hentry)

end Credentials.Native
