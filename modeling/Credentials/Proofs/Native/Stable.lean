import Credentials.Proofs.Native.Places

/-!
# What is decoded can be encoded again

Documents of many spellings are decoded to the same value, and some values are encoded to documents that are
refused: those that are nested too deeply, and those with a double in them, at any place, that is written as
null (`decode?_encode_nonfinite`). What has been decoded is neither, however it was spelled, so if there is no
double in it at all it is encoded to a document that is decoded to it again (`decode?_stable`).
-/

namespace Credentials.Native.Value

variable {taken : Bool} {b n : Nat} {v : Value}

/-! ## What the decoder gives -/

def AllFinite (v : Value) : Prop :=
  ∀ (p : Place) (x : Float), p.fill (float x) = v → x.isFinite = true

/-- What can be decoded with `b` levels of nesting. -/
structure Fits (b : Nat) (v : Value) : Prop where
  depth_le : v.wireDepth ≤ b
  allFinite : v.AllFinite

theorem allFinite_of_leaf (hfloat : ∀ x, v ≠ float x) (hlist : ∀ items, v ≠ list items)
    (hmap : ∀ entries, v ≠ map entries) : v.AllFinite := by
  intro p x hp
  exact absurd (Place.fill_eq_of_leaf hlist hmap hp).symm (hfloat x)

theorem allFinite_float {x : Float} : (float x).AllFinite ↔ x.isFinite = true := by
  constructor
  · intro h
    exact h .root x rfl
  · intro h p y hp
    cases Place.fill_eq_of_leaf (by simp) (by simp) hp
    exact h

theorem allFinite_list {items : List Value} : (list items).AllFinite ↔ ∀ w ∈ items, w.AllFinite := by
  constructor
  · rintro h w hw p x rfl
    obtain ⟨before, after, rfl⟩ := List.append_of_mem hw
    exact h (.item before p after) x rfl
  · intro h p x hp
    obtain hroot | ⟨q, hq⟩ := Place.fill_eq_list hp
    · cases hroot
    · exact h _ hq q x rfl

theorem allFinite_map {entries : List (Value × Value)} :
    (map entries).AllFinite ↔ ∀ e ∈ entries, e.1.AllFinite ∧ e.2.AllFinite := by
  constructor
  · rintro h ⟨k, v⟩ he
    obtain ⟨before, after, rfl⟩ := List.append_of_mem he
    constructor
    · rintro p x rfl
      exact h (.entryKey before p v after) x rfl
    · rintro p x rfl
      exact h (.entryValue before k p after) x rfl
  · intro h p x hp
    obtain hroot | ⟨q, e, he, hkey | hvalue⟩ := Place.fill_eq_map hp
    · cases hroot
    · exact (h e he).1 q x hkey
    · exact (h e he).2 q x hvalue

theorem deepestItem_le {items : List Value} (h : ∀ w ∈ items, w.wireDepth ≤ n) :
    deepestItem items ≤ n := by
  induction items with
  | nil => exact Nat.zero_le n
  | cons w items ih =>
    have hfirst := h w List.mem_cons_self
    have hrest := ih fun u hu => h u (List.mem_cons_of_mem _ hu)
    rw [deepestItem]
    omega

theorem deepestEntry_le {entries : List (Value × Value)}
    (h : ∀ e ∈ entries, e.1.wireDepth ≤ n ∧ e.2.wireDepth ≤ n) : deepestEntry entries ≤ n := by
  induction entries with
  | nil => exact Nat.zero_le n
  | cons e entries ih =>
    have hfirst := h e List.mem_cons_self
    have hrest := ih fun u hu => h u (List.mem_cons_of_mem _ hu)
    rw [deepestEntry]
    omega

theorem Fits.list {items : List Value} (h : ∀ w ∈ items, Fits b w) : Fits (b + 2) (list items) where
  depth_le := by
    have hdeepest := deepestItem_le fun w hw => (h w hw).depth_le
    rw [wireDepth]
    omega
  allFinite := allFinite_list.mpr fun w hw => (h w hw).allFinite

/-- An entry takes up a level of its own, so an empty map is less deep. -/
theorem Fits.map {entries : List (Value × Value)}
    (h : ∀ e ∈ entries, ∃ b', b = b' + 1 ∧ Fits b' e.1 ∧ Fits b' e.2) :
    Fits (b + 2) (map entries) where
  depth_le := by
    cases entries with
    | nil =>
      show 2 ≤ b + 2
      omega
    | cons e rest =>
      have hall : ∀ e' ∈ e :: rest, e'.1.wireDepth ≤ b - 1 ∧ e'.2.wireDepth ≤ b - 1 := by
        intro e' he'
        obtain ⟨b', rfl, hkey, hvalue⟩ := h e' he'
        exact ⟨hkey.depth_le, hvalue.depth_le⟩
      have hdeepest := deepestEntry_le hall
      obtain ⟨b', rfl, -, -⟩ := h e List.mem_cons_self
      rw [deepestEntry] at hdeepest
      rw [wireDepth]
      omega
  allFinite := by
    apply allFinite_map.mpr
    intro e he
    obtain ⟨b', -, hkey, hvalue⟩ := h e he
    exact ⟨hkey.allFinite, hvalue.allFinite⟩

theorem fits_of_ofJson {j : Json} (h : ofJson taken b j = some v) : Fits b v := by
  -- the way down to the parts of a value is not the same for all spellings, but all of them use up nesting
  induction b using Nat.strongRecOn generalizing taken j v with
  | ind b ih =>
    obtain ⟨b, rfl, rfl | ⟨taken, t, c, hc⟩⟩ := ofJson_cases h
    · exact ⟨Nat.le_add_left 1 b, allFinite_of_leaf (by simp) (by simp) (by simp)⟩
    have hcontent := ofContent_cases hc
    cases v with
    | float x =>
      obtain ⟨n, hn⟩ := hcontent
      exact ⟨Nat.le_add_left 1 b, allFinite_float.mpr (Decimal.isFinite_of_ofDigits hn)⟩
    | bytes bs =>
      obtain ⟨b, rfl⟩ := hcontent
      exact ⟨Nat.le_add_left 2 b, allFinite_of_leaf (by simp) (by simp) (by simp)⟩
    | list vs =>
      obtain ⟨b, items, rfl, hitems⟩ := hcontent
      apply Fits.list
      intro w hw
      obtain ⟨i, -, hi⟩ := exists_of_forall₂ (ofItems_eq_some_iff.mp hitems).flip hw
      exact ih b (by omega) hi
    | map es =>
      obtain ⟨b, items, rfl, hentries⟩ := hcontent
      apply Fits.map
      intro e he
      obtain ⟨i, -, hi⟩ := exists_of_forall₂ (ofEntries_eq_some_iff.mp hentries).flip he
      obtain ⟨b, k, l, rfl, -, hk, hl⟩ := ofEntry_eq_some_iff.mp hi
      exact ⟨b, rfl, ih b (by omega) hk, ih b (by omega) hl⟩
    | _ => exact ⟨Nat.le_add_left 1 b, allFinite_of_leaf (by simp) (by simp) (by simp)⟩

/-- **What is decoded can be encoded again.** A value that any text is decoded to is nested no deeper than
can be decoded, and every double in it is finite. If there is no double in it, its own wire form is decoded
to it, so whatever the spelling of a text was, the value is not lost when it is written again. -/
theorem decode?_stable {s : String} (h : decode? s = some v) :
    v.wireDepth ≤ 127 ∧ v.AllFinite ∧ (v.FloatFree → decode? v.encode = some v) := by
  obtain ⟨j, -, hj⟩ := Option.bind_eq_some_iff.mp h
  have hfits : Fits 127 v := fits_of_ofJson hj
  refine ⟨hfits.depth_le, hfits.allFinite, fun hfree => ?_⟩
  have htext : Json.ofString? v.encode = some v.toJson := Json.ofString?_toText (wellFormed_toJson v)
  rw [decode?, htext, Option.bind_some, ofJson_toJson hfree, depth_toJson]
  exact if_pos hfits.depth_le

/-- An array instead of an object, and in it an object with its content first and a member that is passed
over, which is nested deeper than a value may be. -/
theorem decode?_stable_spellings :
    let deep : Json := Nat.repeat (fun j => .array [j]) 128 .null
    let item : Json := .object
      [(some "note", deep), (some "value", .string (some "a")), (some "type", .string (some "str"))]
    let text := (Json.array [.string (some "list"), .array [item]]).toText
    decode? text = some (list [str "a"]) ∧
      decode? (list [str "a"]).encode = some (list [str "a"]) := by
  intro deep item text
  have hdeep : ∀ n, (Nat.repeat (fun j => Json.array [j]) n .null).WellFormed := by
    intro n
    induction n with
    | zero => trivial
    | succ n ih => exact ⟨ih, trivial⟩
  have hwf : (Json.array [.string (some "list"), .array [item]]).WellFormed :=
    ⟨trivial, ⟨⟨hdeep 128, trivial, trivial, trivial⟩, trivial⟩, trivial⟩
  have hdecode : decode? text = some (list [str "a"]) := by
    rw [decode?, Json.ofString?_toText hwf]
    rfl
  exact ⟨hdecode, (decode?_stable hdecode).2.2 (by simp [FloatFree, FloatFreeItems])⟩

/-! ## Doubles that are not finite -/

theorem refused_nonfinite : Refused (tagged .float .null) :=
  refused_tagged fun _ _ => rfl

/-- **A double that is not finite is not read back.** A value with one in it, at any place, is encoded to a
document with null as its content, and the document is refused. -/
theorem decode?_encode_nonfinite (p : Place) {x : Float} (hx : x.isNaN = true ∨ x.isInf = true) :
    Json.ofString? (p.fill (float x)).encode = some (p.put (tagged .float .null)) ∧
    decode? (p.fill (float x)).encode = none ∧
    ∃ reason, Exports.signatureResult (.ok (some (p.fill (float x)).encode)) = .error (.malformed reason) := by
  have hfinite : ¬ x.isFinite = true := by
    intro hfinite
    obtain ⟨hnan, hinf⟩ := Decimal.isFinite_iff.mp hfinite
    rcases hx with hx | hx
    · rw [hnan] at hx
      cases hx
    · rw [hinf] at hx
      cases hx
  have hnull : (float x).toJson = tagged .float .null := by
    rw [toJson, floatJson, if_neg hfinite]
  have htext : Json.ofString? (p.fill (float x)).encode = some (p.put (tagged .float .null)) := by
    rw [← hnull, p.put_toJson]
    exact Json.ofString?_toText (wellFormed_toJson _)
  have hdecode := decode?_eq_none htext (p.refused_put refused_nonfinite)
  exact ⟨htext, hdecode, signatureResult_of_refused hdecode⟩

/-- The key of an entry in a list is infinite. -/
theorem decode?_encode_nonfinite_key :
    Float.isInf (1 / 0) = true ∧ decode? (list [null, map [(float (1 / 0), str "k")]]).encode = none :=
  ⟨by decide +kernel, (decode?_encode_nonfinite (.item [null] (.entryKey [] .root (str "k") []) [])
    (Or.inr (by decide +kernel))).2.1⟩

end Credentials.Native.Value
