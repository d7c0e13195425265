import Credentials.Native.Exports
import Credentials.Proofs.Json.Documents
import Credentials.Proofs.Native.Documents

/-!
# Members in any order

The two members of an object may stand in either order, at every node on its own (`Arranged`). All the
documents of a value that differ in this are well formed, equally deep and decoded alike: content that comes
first is taken in whole and understood after its tag, content that comes last is understood as it is read,
and both is the same (`Paired.ofJson_eq_ite`), because everything in a document of a value without doubles is
usable.
-/

namespace Credentials.Native.Value

open Decimal (Numeral)

/-- An object of tag and content, in either order. -/
inductive Paired (t : Tag) (content : Json) : Json → Prop where
  | tagFirst : Paired t content (tagged t content)
  | contentFirst : Paired t content
    (.object [(some "value", content), (some "type", .string (some t.name))])

mutual

/-- The document is the wire form of the value up to the order of the members of its objects. -/
def Arranged : Value → Json → Prop
  | null, j => j = null.toJson
  | bool b, j => Paired .bool (.bool b) j
  | int n, j => Paired .int (.number (.ofInt n.toInt)) j
  | float x, j => Paired .float (floatJson x) j
  | str s, j => Paired .str (.string (some s)) j
  | bytes bs, j => Paired .bytes (.array (bs.map fun b => .number (.ofInt b.toNat))) j
  | list items, j => ∃ docs, ArrangedItems items docs ∧ Paired .list (.array docs) j
  | map entries, j => ∃ docs, ArrangedEntries entries docs ∧ Paired .map (.array docs) j

def ArrangedItems : List Value → List Json → Prop
  | [], docs => docs = []
  | v :: rest, docs => ∃ j docs', docs = j :: docs' ∧ Arranged v j ∧ ArrangedItems rest docs'

def ArrangedEntries : List (Value × Value) → List Json → Prop
  | [], docs => docs = []
  | (k, v) :: rest, docs => ∃ jk jv docs', docs = .array [jk, jv] :: docs' ∧ Arranged k jk ∧
    Arranged v jv ∧ ArrangedEntries rest docs'

end

mutual

theorem arranged_toJson : ∀ v : Value, Arranged v v.toJson
  | null => rfl
  | bool _ => .tagFirst
  | int _ => .tagFirst
  | float _ => .tagFirst
  | str _ => .tagFirst
  | bytes _ => .tagFirst
  | list items => ⟨_, arranged_itemsJson items, .tagFirst⟩
  | map entries => ⟨_, arranged_entriesJson entries, .tagFirst⟩

theorem arranged_itemsJson : ∀ items : List Value, ArrangedItems items (itemsJson items)
  | [] => rfl
  | v :: rest => ⟨_, _, rfl, arranged_toJson v, arranged_itemsJson rest⟩

theorem arranged_entriesJson : ∀ entries : List (Value × Value),
    ArrangedEntries entries (entriesJson entries)
  | [] => rfl
  | (k, v) :: rest =>
    ⟨_, _, _, rfl, arranged_toJson k, arranged_toJson v, arranged_entriesJson rest⟩

end

/-! ## Well-formed documents -/

theorem Paired.wellFormed {t : Tag} {content j : Json} (h : Paired t content j)
    (hcontent : content.WellFormed) : j.WellFormed := by
  cases h with
  | tagFirst => exact ⟨trivial, hcontent, trivial⟩
  | contentFirst => exact ⟨hcontent, trivial, trivial⟩

theorem wellFormed_floatJson (x : Float) : (floatJson x).WellFormed := by
  unfold floatJson
  split
  · exact Numeral.wellFormed_ofFloat wireLayout x
  · trivial

theorem wellFormed_bytes (bs : List UInt8) :
    Json.WellFormedItems (bs.map fun b => .number (.ofInt b.toNat)) := by
  induction bs with
  | nil => trivial
  | cons b bs ih => exact ⟨Numeral.wellFormed_ofInt _, ih⟩

mutual

theorem wellFormed_arranged : ∀ {v : Value} {j : Json}, Arranged v j → j.WellFormed
  | null, _, h => by subst h; exact ⟨trivial, trivial⟩
  | bool _, _, h => h.wellFormed trivial
  | int n, _, h => h.wellFormed (Numeral.wellFormed_ofInt n.toInt)
  | float x, _, h => h.wellFormed (wellFormed_floatJson x)
  | str _, _, h => h.wellFormed trivial
  | bytes bs, _, h => h.wellFormed (wellFormed_bytes bs)
  | list _, _, ⟨_, hdocs, h⟩ => h.wellFormed (wellFormed_arrangedItems hdocs)
  | map _, _, ⟨_, hdocs, h⟩ => h.wellFormed (wellFormed_arrangedEntries hdocs)

theorem wellFormed_arrangedItems : ∀ {items : List Value} {docs : List Json},
    ArrangedItems items docs → Json.WellFormedItems docs
  | [], _, h => by subst h; trivial
  | _ :: _, _, ⟨_, _, hdocs, hj, hrest⟩ => by
    subst hdocs
    exact ⟨wellFormed_arranged hj, wellFormed_arrangedItems hrest⟩

theorem wellFormed_arrangedEntries : ∀ {entries : List (Value × Value)} {docs : List Json},
    ArrangedEntries entries docs → Json.WellFormedItems docs
  | [], _, h => by subst h; trivial
  | (_, _) :: _, _, ⟨_, _, _, hdocs, hk, hv, hrest⟩ => by
    subst hdocs
    exact ⟨⟨wellFormed_arranged hk, wellFormed_arranged hv, trivial⟩, wellFormed_arrangedEntries hrest⟩

end

/-! ## Depth -/

theorem Paired.depth_eq {t : Tag} {content j : Json} (h : Paired t content j) :
    j.depth = content.depth + 1 := by
  cases h <;> simp [tagged, Json.depth, Json.depthMembers]

theorem depthItems_bytes (bs : List UInt8) :
    Json.depthItems (bs.map fun b => .number (.ofInt b.toNat)) = 0 := by
  induction bs with
  | nil => rfl
  | cons b bs ih => simp [Json.depthItems, Json.depth, ih]

mutual

theorem depth_arranged : ∀ {v : Value} {j : Json}, Arranged v j → j.depth = v.wireDepth
  | null, _, h => by subst h; rfl
  | bool _, _, h => h.depth_eq
  | int _, _, h => h.depth_eq
  | float x, _, h => by
    rw [h.depth_eq, floatJson]
    split <;> rfl
  | str _, _, h => h.depth_eq
  | bytes bs, _, h => by rw [h.depth_eq, Json.depth, depthItems_bytes, wireDepth]
  | list items, _, ⟨docs, hdocs, h⟩ => by
    rw [h.depth_eq, Json.depth, depth_arrangedItems hdocs, wireDepth]
    omega
  | map entries, _, ⟨docs, hdocs, h⟩ => by
    rw [h.depth_eq, Json.depth]
    have hdepth := depth_arrangedEntries hdocs
    cases entries with
    | nil =>
      rw [hdepth]
      rfl
    | cons e rest =>
      rw [hdepth]
      simp only [wireDepth, reduceCtorEq, if_false, deepestEntry]
      omega

theorem depth_arrangedItems : ∀ {items : List Value} {docs : List Json}, ArrangedItems items docs →
    Json.depthItems docs = deepestItem items
  | [], _, h => by subst h; rfl
  | _ :: _, _, ⟨_, _, hdocs, hj, hrest⟩ => by
    subst hdocs
    rw [Json.depthItems, depth_arranged hj, depth_arrangedItems hrest, deepestItem]

theorem depth_arrangedEntries : ∀ {entries : List (Value × Value)} {docs : List Json},
    ArrangedEntries entries docs →
    Json.depthItems docs = if entries = [] then 0 else deepestEntry entries + 1
  | [], _, h => by subst h; rfl
  | (k, v) :: rest, _, ⟨_, _, _, hdocs, hk, hv, hrest⟩ => by
    subst hdocs
    have hdepth := depth_arrangedEntries hrest
    simp only [Json.depthItems, Json.depth, depth_arranged hk, depth_arranged hv, hdepth, deepestEntry,
      reduceCtorEq, if_false]
    cases rest with
    | nil => simp [deepestEntry]
    | cons e rest =>
      simp only [reduceCtorEq, if_false]
      omega

end

/-! ## Usable documents -/

theorem Paired.usable {t : Tag} {content j : Json} (h : Paired t content j) (hcontent : Usable content) :
    Usable j := by
  cases h with
  | tagFirst => exact ⟨rfl, rfl, rfl, hcontent, trivial⟩
  | contentFirst => exact ⟨rfl, hcontent, rfl, rfl, trivial⟩

theorem usable_bytes (bs : List UInt8) :
    UsableItems (bs.map fun b => .number (.ofInt b.toNat)) := by
  induction bs with
  | nil => trivial
  | cons b bs ih =>
    have hlt := b.toNat_lt
    exact ⟨isSome_wireFloat? (by omega), ih⟩

mutual

theorem usable_arranged : ∀ {v : Value} {j : Json}, v.FloatFree → Arranged v j → Usable j
  | null, _, _, h => by subst h; exact ⟨rfl, rfl, trivial⟩
  | bool _, _, _, h => h.usable trivial
  | int n, _, _, h => h.usable (isSome_wireFloat? (natAbs_toInt_lt n))
  | str _, _, _, h => h.usable rfl
  | bytes bs, _, _, h => h.usable (usable_bytes bs)
  | list _, _, hv, ⟨_, hdocs, h⟩ => h.usable (usable_arrangedItems hv hdocs)
  | map _, _, hv, ⟨_, hdocs, h⟩ => h.usable (usable_arrangedEntries hv hdocs)

theorem usable_arrangedItems : ∀ {items : List Value} {docs : List Json}, FloatFreeItems items →
    ArrangedItems items docs → UsableItems docs
  | [], _, _, h => by subst h; trivial
  | _ :: _, _, hv, ⟨_, _, hdocs, hj, hrest⟩ => by
    subst hdocs
    exact ⟨usable_arranged hv.1 hj, usable_arrangedItems hv.2 hrest⟩

theorem usable_arrangedEntries : ∀ {entries : List (Value × Value)} {docs : List Json},
    FloatFreeEntries entries → ArrangedEntries entries docs → UsableItems docs
  | [], _, _, h => by subst h; trivial
  | (_, _) :: _, _, hv, ⟨_, _, _, hdocs, hk, hl, hrest⟩ => by
    subst hdocs
    exact ⟨⟨usable_arranged hv.1 hk, usable_arranged hv.2.1 hl, trivial⟩,
      usable_arrangedEntries hv.2.2 hrest⟩

end

/-! ## Decoding

The decoder gives back `v` exactly when its budget covers the nesting of what it reads. That is carried from
content to the object around it, and from the items of an array to the array. -/

/-- Content before its tag has to be taken in whole, content after it has not. -/
theorem ofJson_tagFirst (taken : Bool) (b : Nat) (t : Tag) (content : Json) :
    ofJson taken (b + 1) (tagged t content) = ofContent taken b t content := by
  have htag : memberTag? taken b [(some "type", .string (some t.name)), (some "value", content)] = some t := by
    simp [memberTag?, occurrences, readTag?_name]
  simp [ofJson, tagged, htag, ofMembers]

theorem ofJson_contentFirst (taken : Bool) (b : Nat) (t : Tag) (content : Json) :
    ofJson taken (b + 1) (.object [(some "value", content), (some "type", .string (some t.name))]) =
      if takeable b content then ofContent true b t content else none := by
  have htag : memberTag? taken b [(some "value", content), (some "type", .string (some t.name))] = some t := by
    simp [memberTag?, occurrences, readTag?_name]
  simp [ofJson, htag, ofMembers]

theorem Paired.ofJson_eq_ite {t : Tag} {content j : Json} {v : Value} (hj : Paired t content j)
    (husable : Usable content)
    (h : ∀ taken b, ofContent taken b t content = if content.depth ≤ b then some v else none)
    (taken : Bool) (b : Nat) : ofJson taken b j = if j.depth ≤ b then some v else none := by
  rw [hj.depth_eq]
  cases b with
  | zero =>
    rw [if_neg (by omega)]
    cases hj <;> rfl
  | succ b =>
    simp only [Nat.add_le_add_iff_right]
    cases hj with
    | tagFirst => rw [ofJson_tagFirst, h]
    | contentFirst =>
      rw [ofJson_contentFirst, h]
      by_cases hdepth : content.depth ≤ b
      · rw [if_pos ((takeable_iff b content).mpr ⟨hdepth, husable⟩)]
      · simp only [hdepth, if_false, ite_self]

theorem ofContent_array_eq_ite {t : Tag} {items : List Json} {v : Value}
    (h : ∀ taken b, ofContent taken (b + 1) t (.array items) =
      if Json.depthItems items ≤ b then some v else none) (taken : Bool) (b : Nat) :
    ofContent taken b t (.array items) = if (Json.array items).depth ≤ b then some v else none := by
  cases b with
  | zero => rw [Json.depth, if_neg (by omega)]; rfl
  | succ b => simp only [h, Json.depth, Nat.add_le_add_iff_right]

theorem ofJson_null (taken : Bool) (b : Nat) :
    ofJson taken b (toJson null) = if (toJson null).depth ≤ b then some null else none := by
  have hdepth : (toJson null).depth = 1 := rfl
  cases b with
  | zero => rfl
  | succ b =>
    have htag : memberTag? taken b [(some "type", .string (some Tag.null.name))] = some .null := by
      simp [memberTag?, occurrences, readTag?_name]
    rw [hdepth, if_pos (by omega)]
    simp [toJson, ofJson, htag, ofMembers]

theorem ofEntry_eq_ite {taken : Bool} {j l : Json} {k v : Value}
    (hk : ∀ b, ofJson taken b j = if j.depth ≤ b then some k else none)
    (hv : ∀ b, ofJson taken b l = if l.depth ≤ b then some v else none) (b : Nat) :
    ofEntry taken b (.array [j, l]) = if (Json.array [j, l]).depth ≤ b then some (k, v) else none := by
  have hdepth : (Json.array [j, l]).depth = max j.depth l.depth + 1 := by
    simp [Json.depth, Json.depthItems]
  cases b with
  | zero => rw [hdepth, if_neg (by omega)]; rfl
  | succ b =>
    simp only [ofEntry, ofKeyAndValue, hk, hv, hdepth, Nat.add_le_add_iff_right, Nat.max_le]
    by_cases hkey : j.depth ≤ b
    · by_cases hvalue : l.depth ≤ b <;> simp [hkey, hvalue]
    · simp [hkey]

mutual

theorem ofJson_arranged : ∀ {v : Value} {j : Json}, v.FloatFree → Arranged v j →
    ∀ (taken : Bool) (b : Nat), ofJson taken b j = if j.depth ≤ b then some v else none
  | null, _, _, h, taken, b => by subst h; exact ofJson_null taken b
  | bool _, _, _, h, taken, b =>
    h.ofJson_eq_ite trivial (fun taken b => by simp [ofContent, Json.depth]) taken b
  | int n, _, _, h, taken, b =>
    h.ofJson_eq_ite (isSome_wireFloat? (natAbs_toInt_lt n))
      (fun taken b => by simp [ofContent, Json.depth, readInt?_toInt]) taken b
  | str _, _, _, h, taken, b =>
    h.ofJson_eq_ite rfl (fun taken b => by simp [ofContent, Json.depth]) taken b
  | bytes bs, _, _, h, taken, b => by
    refine h.ofJson_eq_ite (usable_bytes bs) (ofContent_array_eq_ite fun taken b => ?_) taken b
    rw [depthItems_bytes, if_pos (Nat.zero_le b), ofContent, if_pos rfl, readBytes?_toNat]
    rfl
  | list items, _, hv, ⟨_, hdocs, h⟩, taken, b => by
    refine h.ofJson_eq_ite (usable_arrangedItems hv hdocs) (ofContent_array_eq_ite fun taken b => ?_) taken b
    simp only [ofContent, reduceCtorEq, if_false, if_true, ofItems_arranged hv hdocs taken b]
    split <;> rfl
  | map entries, _, hv, ⟨_, hdocs, h⟩, taken, b => by
    refine h.ofJson_eq_ite (usable_arrangedEntries hv hdocs) (ofContent_array_eq_ite fun taken b => ?_) taken b
    simp only [ofContent, reduceCtorEq, if_false, if_true, ofEntries_arranged hv hdocs taken b]
    split <;> rfl

theorem ofItems_arranged : ∀ {items : List Value} {docs : List Json}, FloatFreeItems items →
    ArrangedItems items docs → ∀ (taken : Bool) (b : Nat),
    ofItems taken b docs = if Json.depthItems docs ≤ b then some items else none
  | [], _, _, h, _, b => by subst h; simp [ofItems, Json.depthItems]
  | v :: rest, _, hv, ⟨j, docs, hdocs, hj, hrest⟩, taken, b => by
    subst hdocs
    have hfirst := ofJson_arranged hv.1 hj taken b
    have hothers := ofItems_arranged hv.2 hrest taken b
    simp only [ofItems, Json.depthItems, hfirst, hothers, Nat.max_le]
    by_cases hdepth : j.depth ≤ b
    · by_cases hdepths : Json.depthItems docs ≤ b <;> simp [hdepth, hdepths]
    · simp [hdepth]

theorem ofEntries_arranged : ∀ {entries : List (Value × Value)} {docs : List Json},
    FloatFreeEntries entries → ArrangedEntries entries docs → ∀ (taken : Bool) (b : Nat),
    ofEntries taken b docs = if Json.depthItems docs ≤ b then some entries else none
  | [], _, _, h, _, b => by subst h; simp [ofEntries, Json.depthItems]
  | (k, v) :: rest, _, hv, ⟨jk, jv, docs, hdocs, hk, hl, hrest⟩, taken, b => by
    subst hdocs
    have hentry := ofEntry_eq_ite (ofJson_arranged hv.1 hk taken) (ofJson_arranged hv.2.1 hl taken) b
    have hothers := ofEntries_arranged hv.2.2 hrest taken b
    rw [ofEntries, Json.depthItems, hentry, hothers]
    simp only [Nat.max_le]
    by_cases hdepth : (Json.array [jk, jv]).depth ≤ b
    · by_cases hdepths : Json.depthItems docs ≤ b <;> simp [hdepth, hdepths]
    · simp [hdepth]

end

/-! ## Texts -/

/-- **Members may come in any order.** Take the wire form of a value without doubles that is nested no deeper
than can be decoded, let the two members of every object in it stand in either order, and put any space
between the tokens: the text is decoded to the value. -/
theorem decode?_arranged {v : Value} (hv : v.FloatFree) (hdepth : v.wireDepth ≤ 127) {j : Json}
    (hj : Arranged v j) {s : String} (hs : Json.Spaced (Json.tokens j) s.toList) :
    decode? s = some v ∧ Exports.signatureResult (.ok (some s)) = .ok (some v) := by
  have htext : Json.ofString? s = some j := Json.ofChars?_of_spaced (wellFormed_arranged hj) hs
  have hdecode : decode? s = some v := by
    rw [decode?, htext, Option.bind_some, ofJson_arranged hv hj, depth_arranged hj]
    exact if_pos hdepth
  exact ⟨hdecode, by rw [Exports.signatureResult, hdecode]⟩

/-- A list and the key in it have their content first, the map and the other value their tag; a line break and a
tab stand before every token. -/
theorem decode?_arranged_mixed :
    let key : Json := .object [(some "value", .string (some "k")), (some "type", .string (some "str"))]
    let entry : Json := .array [key, tagged .bytes (.array [.number (.ofInt 255)])]
    let j : Json := .object
      [(some "value", .array [tagged .map (.array [entry])]), (some "type", .string (some "list"))]
    decode? (String.ofList ((Json.tokens j).flatMap (['\n', '\t'] ++ ·)))
      = some (list [map [(str "k", bytes [255])]]) := by
  intro key entry j
  have hentry : ArrangedEntries [(str "k", bytes [255])] [entry] :=
    ⟨_, _, _, rfl, .contentFirst, .tagFirst, rfl⟩
  have hj : Arranged (list [map [(str "k", bytes [255])]]) j :=
    ⟨_, ⟨_, _, rfl, ⟨_, hentry, .tagFirst⟩, rfl⟩, .contentFirst⟩
  have hfree : (list [map [(str "k", bytes [255])]]).FloatFree := by
    simp [FloatFree, FloatFreeItems, FloatFreeEntries]
  refine (decode?_arranged hfree (by decide) hj ?_).1
  rw [String.toList_ofList]
  exact Json.spaced_flatMap (by simp [Json.isSpace]) (Json.tokens j)

end Credentials.Native.Value
