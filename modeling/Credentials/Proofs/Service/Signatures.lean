import Credentials.Proofs.Json.Characters
import Credentials.Proofs.Native.Attributes
import Credentials.Proofs.Native.RoundTrip
import Credentials.Service.Resolve

/-!
# Signing attributes come through

A library hands out the wire form of a map, up to a zero byte. No zero byte is in the wire form itself
(`nul_notMem_encode`), so that all of it is seen; what is seen is decoded to the map that was encoded, and
of the map the last pair of texts with each name counts. `Service.attributes_of_wire` puts the four together.
-/

namespace Credentials

open Native

namespace Native

theorem visible_terminated {s : String} (h : '\x00' ∉ s.toList) (address : Nat) (rest : List UInt8) :
    (Handed.mk address (Text.toBytes s ++ 0 :: rest)).visible = Text.toBytes s := by
  have hbytes : ∀ b ∈ Text.toBytes s, decide (b ≠ 0) = true := by
    intro b hb
    rw [decide_eq_true_eq]
    rintro rfl
    exact Text.zero_notMem_toBytes h hb
  rw [Handed.visible, List.takeWhile_append_of_pos hbytes, List.takeWhile_cons_of_neg (by decide),
    List.append_nil]

/-- The wire form escapes U+0000, whatever texts are in the value. -/
theorem nul_notMem_encode (v : Value) : '\x00' ∉ v.encode.toList :=
  Json.nul_notMem_toText (Value.wellFormed_toJson v)

theorem copy_terminated {σ : Type} (e : Exports σ) (call : String) {s : String} (h : '\x00' ∉ s.toList)
    (address : Nat) (rest : List UInt8) (m : σ) :
    e.copy call (some ⟨address, Text.toBytes s ++ 0 :: rest⟩, m) = (.ok (some s), e.release address m) := by
  simp only [Exports.copy, visible_terminated h, Text.ofBytes?_toBytes]

theorem signature_of_wire {σ : Type} (e : Exports σ) {v : Value} (hfree : v.FloatFree)
    (hdepth : v.wireDepth ≤ 127) {path : String} (hpath : '\x00' ∉ path.toList) {context : Context}
    {address : Nat} {rest : List UInt8} {m m' : σ}
    (hreply : e.signature path context m = (some ⟨address, Text.toBytes v.encode ++ 0 :: rest⟩, m')) :
    e.layer.signature path context m = (.value (some v), e.release address m') := by
  have hpass : Exports.canPass path = true := by simpa [Exports.canPass] using hpath
  have hresult := ((Value.decode?_encode hfree).2.1 hdepth).2
  simp only [Exports.layer, hpass, if_true, hreply, copy_terminated e _ (nul_notMem_encode v), hresult,
    Answer.ofExcept]

end Native

namespace Service

variable {ι σ : Type}

/-- **Signing attributes come through.** Over a library that answers a path with the wire form of a map
without doubles, nested no deeper than can be decoded, and a zero byte, the attributes are had without a
line being logged, and the string is given back:

* the value of a name is that of the last entry of the map that is a pair of texts with this name, and a
  name that no such entry has is absent;
* no name is there twice, and there are no attributes if and only if there is no pair of texts. -/
theorem attributes_of_wire (e : Exports σ) {entries : List (Value × Value)}
    (hfree : (Value.map entries).FloatFree) (hdepth : (Value.map entries).wireDepth ≤ 127)
    {path : String} (hpath : '\x00' ∉ path.toList) (context : Context) {c : Connection ι σ}
    (hbound : c.settle.1 = .bound e.layer) {address : Nat} {rest : List UInt8} {m : σ}
    (hreply : e.signature path context c.settle.2.world.memory =
      (some ⟨address, Text.toBytes (Value.map entries).encode ++ 0 :: rest⟩, m)) :
    ∃ attributes : Attributes,
      (signature path context c).1 = { answer := some attributes, lines := [] } ∧
      (signature path context c).2.world.memory = e.release address m ∧
      (∀ name value, attributes.value? name = some value ↔ LastText entries name value) ∧
      (∀ name, attributes.value? name = none ↔ ∀ value, (Value.str name, Value.str value) ∉ entries) ∧
      (attributes.map Prod.fst).Nodup ∧
      (attributes = [] ↔ ∀ name value, (Value.str name, Value.str value) ∉ entries) := by
  have hlayer := signature_of_wire e hfree hdepth hpath hreply
  have hsignature : signature path context c =
      signatureIn path context (.bound e.layer) c.settle.2 := by rw [← hbound]; rfl
  refine ⟨.ofEntries entries, ?_, ?_, fun _ _ => Attributes.value?_ofEntries_eq_some_iff,
    fun _ => Attributes.value?_ofEntries_eq_none_iff, Attributes.nodup_setEntries entries List.nodup_nil, ?_⟩
  · simp only [hsignature, signatureIn, Connection.call, hlayer, signatureReply, Answer.guarded,
      Value.attributes?]
  · simp only [hsignature, signatureIn, Connection.call, hlayer]
  · constructor
    · intro hnil name
      apply Attributes.value?_ofEntries_eq_none_iff.mp
      rw [hnil]
      rfl
    · intro hnone
      exact Attributes.eq_nil_of_value? fun name => Attributes.value?_ofEntries_eq_none_iff.mpr (hnone name)

/-- A name with U+0000 twice, and after it an entry with the same name that is no pair of texts. -/
theorem attributes_of_wire_duplicates :
    let entries : List (Value × Value) :=
      [(.str "k\x00", .str "1"), (.int 3, .str "c"), (.str "k\x00", .str "\""), (.str "k\x00", .int 2)]
    let reply := Text.toBytes (Value.map entries).encode ++ [0]
    let c : Connection Unit Table :=
      ⟨.ofLayer Table.exports.layer,
        ⟨{ environment := .empty, files := .empty }, { signatureReplies := [some reply] }⟩⟩
    (Value.map entries).FloatFree ∧ (Value.map entries).wireDepth ≤ 127 ∧
      '\x00' ∉ "/data/app".toList ∧ c.settle.1 = .bound Table.exports.layer ∧
      Table.exports.signature "/data/app" ⟨7⟩ c.settle.2.world.memory =
        (some ⟨1, reply⟩, { handed := [1], calls := [.signature "/data/app" ⟨7⟩] }) ∧
      ∃ attributes : Attributes,
        (signature "/data/app" ⟨7⟩ c).1 = { answer := some attributes } ∧
        attributes.value? "k\x00" = some "\"" ∧ attributes.value? "k" = none := by
  intro entries reply c
  have hfree : (Value.map entries).FloatFree := by
    simp [entries, Value.FloatFree, Value.FloatFreeEntries]
  have hdepth : (Value.map entries).wireDepth ≤ 127 := by decide
  have hpath : '\x00' ∉ "/data/app".toList := by decide
  have hbound : c.settle.1 = .bound Table.exports.layer := rfl
  have hreply : Table.exports.signature "/data/app" ⟨7⟩ c.settle.2.world.memory =
      (some ⟨1, reply⟩, { handed := [1], calls := [.signature "/data/app" ⟨7⟩] }) := rfl
  refine ⟨hfree, hdepth, hpath, hbound, hreply, ?_⟩
  obtain ⟨attributes, hanswer, -, hsome, hnone, -⟩ :=
    attributes_of_wire Table.exports hfree hdepth hpath ⟨7⟩ hbound hreply
  refine ⟨attributes, hanswer, ?_, ?_⟩
  · exact (hsome _ _).mpr
      ⟨[(.str "k\x00", .str "1"), (.int 3, .str "c")], [(.str "k\x00", .int 2)], rfl, by simp⟩
  · exact (hnone _).mpr (by simp [entries])

end Service

end Credentials
