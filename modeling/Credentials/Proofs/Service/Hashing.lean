import Credentials.Proofs.Native.Replies
import Credentials.Service.Resolve

/-!
# What a hash comes to

`Hashing` is the table of what a service replies to a text that is to be hashed, by what the native side
answers. Without a layer the text itself comes back; with one, nothing does but the layer's own result, be
it the empty text or the text that stands for a failed key, and a failure is logged. The service follows
the table (`hashing_hash`), so that a text that was not hashed is never taken for a hash (`hash_correct`).
-/

namespace Credentials

open Native

variable {ι σ : Type}

/-- What the native side answers to a service that hashes a text, if there is a layer to ask. -/
def Service.hashAnswer? (v : Service) (input : String) (c : Connection ι σ) : Option (Answer String) :=
  c.settle.1.layer?.map fun l => (l.hash input v.context c.settle.2.world.memory).1

/-- The line that is logged when a hash call fails. -/
def hashFailureLine (f : Failure) : Log.Line :=
  ⟨.error, "build_hash: native call failed: " ++ f.message⟩

/-- The reply to a text that is to be hashed, by what the native side answers. -/
inductive Hashing (input : String) :
    Option (Answer String) → Reply (Except Failure String) → Prop where
  | unavailable : Hashing input none { answer := .ok input, lines := [] }
  /-- The native result, as it is. -/
  | native (h : String) : Hashing input (some (.value h)) { answer := .ok h, lines := [] }
  | failure (f : Failure) :
    Hashing input (some (.failure f)) { answer := .error f, lines := [hashFailureLine f] }
  | panicked :
    Hashing input (some .panicked)
      { answer := .error (.callFailed "build_hash" "native layer panicked")
        lines := [hashFailureLine (.callFailed "build_hash" "native layer panicked")] }

namespace Hashing

variable {input : String} {a : Option (Answer String)} {r r' : Reply (Except Failure String)}

theorem unique (h : Hashing input a r) (h' : Hashing input a r') : r = r' := by
  cases h <;> cases h' <;> rfl

theorem ok_iff (hr : Hashing input a r) (h : String) :
    r.answer = .ok h ↔ a = none ∧ h = input ∨ a = some (.value h) := by
  cases hr with
  | unavailable => simp [eq_comm]
  | native h' => simp
  | failure f => simp
  | panicked => simp

end Hashing

namespace Service

/-! ## The service follows the table -/

theorem hashing_hashReply (input : String) (a : Answer String) :
    Hashing input (some a) (hashReply a) := by
  cases a with
  | value h => exact .native h
  | failure f => exact .failure f
  | panicked => exact .panicked

theorem hashing_hash (v : Service) (input : String) (c : Connection ι σ) :
    Hashing input (v.hashAnswer? input c) (v.hash input c).1 := by
  simp only [hash, hashIn, hashAnswer?]
  cases c.settle.1 with
  | failed f => exact .unavailable
  | bound l => exact hashing_hashReply input _

/-- **What a hash comes to.** Whatever the text and the token are, whatever the binding has come to or will,
and whatever the native side answers:

* the reply is what the table says, and nothing else is;
* a text comes back only if there is no layer and it is the one that was to be hashed, or if the layer
  returned this very text;
* over exported functions the answer is what the call reads in its reply, and the text is refused if and
  only if U+0000 is in it. -/
theorem hash_correct (v : Service) (input : String) (c : Connection ι σ) :
    let r := (v.hash input c).1
    (∀ r', Hashing input (v.hashAnswer? input c) r' ↔ r' = r) ∧
      (∀ h, r.answer = .ok h ↔
        v.hashAnswer? input c = none ∧ h = input ∨ v.hashAnswer? input c = some (.value h)) ∧
      ∀ e : Exports σ, c.settle.1 = .bound e.layer →
        let reply := (e.hash input v.context c.settle.2.world.memory).1.map Handed.bytes
        (∀ a, HashReads input reply a ↔ a = r.answer) ∧
          (r.answer = .error (.innerNul "build_hash") ↔ '\x00' ∈ input.toList) := by
  intro r
  have hr : Hashing input (v.hashAnswer? input c) r := v.hashing_hash input c
  refine ⟨fun r' => ⟨fun h' => h'.unique hr, fun h' => h' ▸ hr⟩, hr.ok_iff, ?_⟩
  intro e hbound reply
  obtain ⟨x, hreads, hanswer⟩ := e.exists_hashReads input v.context c.settle.2.world.memory
  -- a call of an exported function never panics, so that its answer is a result
  have hx : r.answer = x := by
    have hsome : v.hashAnswer? input c = some (.ofExcept x) := by
      rw [hashAnswer?, hbound, ← hanswer]
      rfl
    rw [hsome] at hr
    cases x with
    | ok h => exact congrArg Reply.answer (hr.unique (.native h))
    | error f => exact congrArg Reply.answer (hr.unique (.failure f))
  rw [hx]
  exact ⟨fun a => ⟨fun ha => ha.unique hreads, fun ha => ha ▸ hreads⟩, hreads.refused_iff⟩

/-- A library that answers with bytes that are no text, up to a zero byte and more text after it. -/
theorem hash_correct_notText :
    let v : Service := { fallback := ⟨"app-1", "tel-1", "sec-1", false, .injected "explicit"⟩ }
    let bytes : List UInt8 := [0xC3, 0x28, 0, 0x61]
    let c : Connection Unit Table :=
      ⟨.ofLayer Table.exports.layer,
        ⟨{ environment := .empty, files := .empty }, { hashReplies := [some bytes] }⟩⟩
    c.settle.1 = .bound Table.exports.layer ∧ '\x00' ∉ "payload".toList ∧
      (v.hash "payload" c).1.answer = .error (.notText "build_hash") ∧
      ¬ (v.hash "payload" c).1.answer = .error (.innerNul "build_hash") := by
  intro v bytes c
  have hbound : c.settle.1 = .bound Table.exports.layer := rfl
  have hnul : '\x00' ∉ "payload".toList := by decide
  have hbytes : NoText (beforeZero bytes) := noText_iff.mpr (by decide)
  obtain ⟨-, -, hexports⟩ := hash_correct v "payload" c
  obtain ⟨hreads, hrefused⟩ := hexports Table.exports hbound
  exact ⟨hbound, hnul, ((hreads _).mp (.notText hnul hbytes)).symm, mt hrefused.mp hnul⟩

end Service

end Credentials
