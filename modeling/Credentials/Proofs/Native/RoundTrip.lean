import Credentials.Native.Exports
import Credentials.Proofs.Native.Arrangement

/-!
# Values survive the wire

A value without doubles is read back from its wire form exactly as it was, as long as the wire form is not
nested deeper than the decoder allows; there is no limit to what is encoded, so a deeper value is written
and then refused (`decode?_encode`). The wire form is one of the arrangements of members, the one with every
tag first, so it is as well formed, as deep and decoded as all of them are.
-/

namespace Credentials.Native.Value

theorem wellFormed_toJson (v : Value) : v.toJson.WellFormed :=
  wellFormed_arranged (arranged_toJson v)

theorem depth_toJson (v : Value) : v.toJson.depth = v.wireDepth :=
  depth_arranged (arranged_toJson v)

/-- The decoder undoes the encoder as far as its budget goes. -/
theorem ofJson_toJson {v : Value} (hv : v.FloatFree) (taken : Bool) (b : Nat) :
    ofJson taken b v.toJson = if v.toJson.depth ≤ b then some v else none :=
  ofJson_arranged hv (arranged_toJson v) taken b

/-! ## The round trip -/

/-- **Values survive the wire.** The wire form of a value without doubles is a document that is nested as
deep as `wireDepth` says. It is read back as the value it was if that is within the limit, and refused as
malformed if it is not. -/
theorem decode?_encode {v : Value} (hv : v.FloatFree) :
    (Json.ofString? v.encode).map Json.depth = some v.wireDepth ∧
    (v.wireDepth ≤ 127 → decode? v.encode = some v ∧
      Exports.signatureResult (.ok (some v.encode)) = .ok (some v)) ∧
    (127 < v.wireDepth → decode? v.encode = none ∧
      ∃ reason, Exports.signatureResult (.ok (some v.encode)) = .error (.malformed reason)) := by
  have htext : Json.ofString? v.encode = some v.toJson := Json.ofString?_toText (wellFormed_toJson v)
  have hdecode : decode? v.encode = if v.wireDepth ≤ 127 then some v else none := by
    rw [decode?, htext, Option.bind_some, ofJson_toJson hv, depth_toJson]
    rfl
  refine ⟨by rw [htext, Option.map_some, depth_toJson], fun hdepth => ?_, fun hdepth => ?_⟩
  · rw [if_pos hdepth] at hdecode
    exact ⟨hdecode, by rw [Exports.signatureResult, hdecode]⟩
  · rw [if_neg (by omega)] at hdecode
    exact ⟨hdecode, _, by rw [Exports.signatureResult, hdecode]⟩

/-- A map with a key twice that is no text, and lists nested one too deep. -/
theorem decode?_encode_map_and_lists :
    decode? (map [(int (-1), str "\"\\\x00"), (int (-1), bytes [0, 255]), (null, list [])]).encode
        = some (map [(int (-1), str "\"\\\x00"), (int (-1), bytes [0, 255]), (null, list [])]) ∧
      decode? (Nat.repeat (fun v => list [v]) 64 null).encode = none := by
  constructor
  · exact ((decode?_encode (by simp [FloatFree, FloatFreeEntries, FloatFreeItems])).2.1 (by decide)).1
  · exact ((decode?_encode (by simp [Nat.repeat, FloatFree, FloatFreeItems])).2.2 (by decide +kernel)).1

end Credentials.Native.Value
