import Credentials.Proofs.Native.IllFormed
import Credentials.Proofs.Service.Signatures

/-!
# Nothing is salvaged from a malformed reply

Of a decoded map the entries that are no texts are dropped, but that comes later: a document in which a single
node is ill-formed, at any place, is not decoded at all, and the service has no attributes then
(`Service.refused_whole`).
-/

namespace Credentials

open Native

namespace Native

/-- What is seen of a reply is not the wire form of a value, so the call fails. -/
theorem signature_fails {σ : Type} (e : Exports σ) {s : String} (h : Value.decode? s = none)
    {reply : Handed} (hreply : reply.visible = Text.toBytes s) (path : String) (context : Context)
    {m m' : σ} (hcall : e.signature path context m = (some reply, m')) :
    ∃ f, (e.layer.signature path context m).1 = .failure f := by
  obtain ⟨reason, hresult⟩ := Value.signatureResult_of_refused h
  by_cases hpass : Exports.canPass path = true
  · have hcopy : (e.copy signatureCall (some reply, m')).1 = .ok (some s) := by
      simp only [Exports.copy, hreply, Text.ofBytes?_toBytes]
    refine ⟨.malformed reason, ?_⟩
    simp only [Exports.layer, hpass, if_true, hcall, hcopy, hresult, Answer.ofExcept]
  · refine ⟨.innerNul signatureCall, ?_⟩
    simp only [Exports.layer, hpass, Bool.false_eq_true, if_false]

end Native

namespace Service

variable {ι σ : Type}

theorem answer_of_failure {path : String} {context : Context} {c : Connection ι σ} {l : Layer σ}
    (hbound : c.settle.1 = .bound l) {f : Failure}
    (hfails : (l.signature path context c.settle.2.world.memory).1 = .failure f) :
    (signature path context c).1.answer = none := by
  have hsignature : signature path context c = signatureIn path context (.bound l) c.settle.2 := by
    rw [← hbound]
    rfl
  simp only [hsignature, signatureIn, Connection.call, hfails, signatureReply, Answer.guarded]

/-- **Nothing is salvaged from a malformed reply.** Put an ill-formed node at any place of the wire form of a
value. With what stands there left as it is, this is the wire form; with the node there it has a text, and
whatever text it has,

* the text is not decoded, so the result of a call that is answered with it is a malformed one;
* a service whose library replies with it has no attributes. -/
theorem refused_whole (p : Place) (w : Value) {node : Json} (hnode : Value.IllFormed node) :
    p.put w.toJson = (p.fill w).toJson ∧
    (node.WellFormed → Json.ofString? (p.put node).toText = some (p.put node)) ∧
    ∀ s, Json.ofString? s = some (p.put node) →
      Value.decode? s = none ∧
      (∃ reason, Exports.signatureResult (.ok (some s)) = .error (.malformed reason)) ∧
      ∀ (e : Exports σ) (c : Connection ι σ) (path : String) (context : Context) (reply : Handed) (m : σ),
        c.settle.1 = .bound e.layer → reply.visible = Text.toBytes s →
        e.signature path context c.settle.2.world.memory = (some reply, m) →
        (signature path context c).1.answer = none := by
  refine ⟨p.put_toJson w, fun hwf => Json.ofString?_toText (p.wellFormed_put hwf), ?_⟩
  intro s hs
  have hdecode : Value.decode? s = none :=
    Value.decode?_eq_none hs (p.refused_put (Value.refused_of_illFormed hnode))
  refine ⟨hdecode, Value.signatureResult_of_refused hdecode, ?_⟩
  intro e c path context reply m hbound hreply hcall
  obtain ⟨f, hfails⟩ := signature_fails e hdecode hreply path context hcall
  exact answer_of_failure hbound hfails

/-- The second value of a map in a list is bytes with 256 among them, and the text says so before it says that
they are bytes. -/
theorem refused_whole_byte :
    let place : Place := .item [.str "a"] (.entryValue [(.str "k", .str "1")] (.str "l") .root []) [.null]
    let node : Json := .object
      [(some "value", .array [.number (.ofInt 255), .number (.ofInt 256)]), (some "type", .string (some "bytes"))]
    let text := (place.put node).toText
    let c : Connection Unit Table :=
      ⟨.ofLayer Table.exports.layer,
        ⟨{ environment := .empty, files := .empty }, { signatureReplies := [some (Text.toBytes text ++ [0])] }⟩⟩
    Value.IllFormed node ∧ Json.ofString? text = some (place.put node) ∧ Value.decode? text = none ∧
      (signature "/data/app" ⟨7⟩ c).1.answer = none := by
  intro place node text c
  have hbyte : ¬ Value.IsByte (.number (.ofInt 256)) := by
    rintro ⟨n, hn, -, -, -, hlt⟩
    cases hn
    rw [Value.literal_ofInt] at hlt
    omega
  have hnode : Value.IllFormed node :=
    .byte (List.mem_cons_of_mem _ List.mem_cons_self) List.mem_cons_self
      (List.mem_cons_of_mem _ List.mem_cons_self) hbyte
  have hwf : node.WellFormed :=
    ⟨⟨Decimal.Numeral.wellFormed_ofInt _, Decimal.Numeral.wellFormed_ofInt _, trivial⟩, trivial, trivial⟩
  obtain ⟨-, htext, hrefused⟩ := refused_whole (ι := Unit) (σ := Table) place (.bytes [255]) hnode
  obtain ⟨hdecode, -, hanswer⟩ := hrefused text (htext hwf)
  have hvisible := visible_terminated (Json.nul_notMem_toText (place.wellFormed_put hwf)) 1 []
  exact ⟨hnode, htext hwf, hdecode, hanswer Table.exports c "/data/app" ⟨7⟩ _ _ rfl hvisible rfl⟩

end Service

end Credentials
