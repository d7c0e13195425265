import Credentials.Native.Exports
import Credentials.Proofs.Native.Calls

/-!
# Strings are given back

A native library hands out a string with each call and has to get it back. Over any library a call gives
back what it was handed, and nothing else, whatever the bytes are (`receive_of_passes`); a call that cannot
be passed does not reach the library at all (`receive_of_not_passes`). Over a table of replies these are a
step of the invariant `Table.Balanced`, and `Table.given_back` is what holds after any calls.
-/

namespace Credentials.Native

/-! ## One call -/

/-- The text that a call hands over, if there is one. -/
def Call.text? : Call → Option String
  | .key _ _ => none
  | .hash input _ => some input
  | .signature path _ => some path

/-- Whether a call can be passed: its text, if it has one, is free of U+0000. -/
def Call.passes (k : Call) : Bool := k.text?.all fun s => '\x00' ∉ s.toList

theorem canPass_eq (s : String) : Exports.canPass s = decide ('\x00' ∉ s.toList) := by
  simp [Exports.canPass]

namespace Exports

variable {σ : Type}

/-- What the function of a call hands out. -/
def handOut (e : Exports σ) : Call → σ → Option Handed × σ
  | .key id c => e.key id c
  | .hash s c => e.hash s c
  | .signature p c => e.signature p c

/-- The address that a call to the layer is handed, if it reaches the library and there is one. -/
def address? (e : Exports σ) (k : Call) (m : σ) : Option Nat :=
  if k.passes then (e.handOut k m).1.map Handed.address else none

/-- The addresses that calls to the layer are handed, in order. -/
def addresses (e : Exports σ) : List Call → σ → List Nat
  | [], _ => []
  | k :: rest, m => (e.address? k m).toList ++ e.addresses rest (e.layer.receive k m).2

/-- Gives back what was handed out, if anything was. -/
def giveBack (e : Exports σ) (r : Option Handed × σ) : σ :=
  match r.1 with
  | none => r.2
  | some h => e.release h.address r.2

theorem copy_memory (e : Exports σ) (call : String) (r : Option Handed × σ) :
    (e.copy call r).2 = e.giveBack r := by
  obtain ⟨h, m⟩ := r
  cases h with
  | none => rfl
  | some h =>
    simp only [copy, giveBack]
    split <;> rfl

theorem receive_of_passes (e : Exports σ) {k : Call} (h : k.passes = true) (m : σ) :
    (e.layer.receive k m).2 = e.giveBack (e.handOut k m) := by
  cases k with
  | key id c => exact copy_memory e keyCall _
  | hash s c =>
    have hs : canPass s = true := (canPass_eq s).trans h
    simp only [Layer.receive, layer, hs, if_pos]
    exact copy_memory e hashCall _
  | signature p c =>
    have hp : canPass p = true := (canPass_eq p).trans h
    simp only [Layer.receive, layer, hp, if_pos]
    exact copy_memory e signatureCall _

theorem receive_of_nul (e : Exports σ) {text : String} (h : '\x00' ∈ text.toList) (c : Context)
    (m : σ) :
    e.layer.receive (.hash text c) m = (.hash (.failure (.innerNul "build_hash")), m) ∧
      e.layer.receive (.signature text c) m =
        (.signature (.failure (.innerNul "get_signature")), m) := by
  have htext : canPass text = false := by simp [canPass_eq, h]
  constructor
  · simp [Layer.receive, layer, htext, hashCall]
  · simp [Layer.receive, layer, htext, signatureCall]

theorem receive_of_not_passes (e : Exports σ) {k : Call} (h : k.passes = false) (m : σ) :
    (e.layer.receive k m).2 = m := by
  cases k with
  | key id c => cases h
  | hash s c =>
    have hs : '\x00' ∈ s.toList := by simpa [Call.passes, Call.text?] using h
    rw [(e.receive_of_nul hs c m).1]
  | signature p c =>
    have hp : '\x00' ∈ p.toList := by simpa [Call.passes, Call.text?] using h
    rw [(e.receive_of_nul hp c m).2]

end Exports

/-! ## Tables of replies -/

/-- The three functions that hand out strings. -/
inductive CallKind where
  | key
  | hash
  | signature
  deriving DecidableEq

def Call.kind : Call → CallKind
  | .key _ _ => .key
  | .hash _ _ => .hash
  | .signature _ _ => .signature

namespace Table

/-- What is left of the replies of a function. -/
def replies (t : Table) : CallKind → List (Option (List UInt8))
  | .key => t.keyReplies
  | .hash => t.hashReplies
  | .signature => t.signatureReplies

/-- How many strings there are in the replies that are left. -/
def stringsLeft (t : Table) : Nat :=
  (t.keyReplies ++ t.hashReplies ++ t.signatureReplies).countP Option.isSome

/-- The table after a call was noted and its reply spent. -/
def spend (t : Table) (k : Call) : Table :=
  match k with
  | .key _ _ => note { t with keyReplies := t.keyReplies.tail } k
  | .hash _ _ => note { t with hashReplies := t.hashReplies.tail } k
  | .signature _ _ => note { t with signatureReplies := t.signatureReplies.tail } k

theorem handOut_exports (t : Table) (k : Call) :
    exports.handOut k t = (t.spend k).reply (next (t.replies k.kind)) := by
  cases k <;> rfl

@[simp] theorem spend_calls (t : Table) (k : Call) : (t.spend k).calls = t.calls ++ [k] := by
  cases k <;> rfl

@[simp] theorem spend_handed (t : Table) (k : Call) : (t.spend k).handed = t.handed := by
  cases k <;> rfl

@[simp] theorem spend_released (t : Table) (k : Call) : (t.spend k).released = t.released := by
  cases k <;> rfl

theorem spend_replies (t : Table) (k : Call) (j : CallKind) :
    (t.spend k).replies j = if k.kind = j then (t.replies j).tail else t.replies j := by
  cases k <;> cases j <;> rfl

theorem countP_tail (replies : List (Option (List UInt8))) :
    replies.countP Option.isSome =
      replies.tail.countP Option.isSome + (next replies).toList.length := by
  cases replies with
  | nil => rfl
  | cons r rest => cases r <;> simp [next]

theorem spend_stringsLeft (t : Table) (k : Call) :
    t.stringsLeft = (t.spend k).stringsLeft + (next (t.replies k.kind)).toList.length := by
  simp only [stringsLeft, List.countP_append]
  cases k with
  | key id c =>
    have := countP_tail t.keyReplies
    simp only [spend, note, replies, Call.kind]
    omega
  | hash s c =>
    have := countP_tail t.hashReplies
    simp only [spend, note, replies, Call.kind]
    omega
  | signature p c =>
    have := countP_tail t.signatureReplies
    simp only [spend, note, replies, Call.kind]
    omega

theorem giveBack_reply (t : Table) (r : Option (List UInt8)) :
    exports.giveBack (t.reply r) =
      match r with
      | none => t
      | some _ =>
        { t with
          handed := t.handed ++ [t.handed.length + 1]
          released := t.released ++ [t.handed.length + 1] } := by
  cases r <;> rfl

/-! ### The invariant -/

/-- The books of a table that was `t₀` at first: what it handed out was given back, in the same order and
under addresses of their own, and it is short of the replies of the calls it noted and of nothing else. -/
structure Balanced (t₀ t : Table) : Prop where
  released : t.released = t.handed
  handed : t.handed = List.range' 1 t.handed.length
  replies : ∀ j, t.replies j = (t₀.replies j).drop (t.calls.countP (·.kind = j))
  strings : t.handed.length + t.stringsLeft = t₀.stringsLeft

theorem balanced_start (keys hashes signatures : List (Option (List UInt8))) :
    let t : Table := { keyReplies := keys, hashReplies := hashes, signatureReplies := signatures }
    Balanced t t where
  released := rfl
  handed := rfl
  replies _ := rfl
  strings := Nat.zero_add _

theorem balanced_spend {t₀ t : Table} (h : Balanced t₀ t) (k : Call) (j : CallKind) :
    (t.spend k).replies j = (t₀.replies j).drop ((t.spend k).calls.countP (·.kind = j)) := by
  rw [spend_replies, spend_calls, List.countP_append, List.countP_singleton, h.replies j]
  by_cases hkind : k.kind = j
  · simp [hkind]
  · simp [hkind]

theorem balanced_receive {t₀ t : Table} (h : Balanced t₀ t) (k : Call) :
    Balanced t₀ (exports.layer.receive k t).2 := by
  cases hpasses : k.passes with
  | false =>
    rw [exports.receive_of_not_passes hpasses]
    exact h
  | true =>
    have hleft := spend_stringsLeft t k
    have hstrings := h.strings
    rw [exports.receive_of_passes hpasses, handOut_exports, giveBack_reply]
    cases hreply : next (t.replies k.kind) with
    | none =>
      rw [hreply] at hleft
      refine ⟨?_, ?_, balanced_spend h k, ?_⟩
      · rw [spend_released, spend_handed, h.released]
      · rw [spend_handed]
        exact h.handed
      · show (t.spend k).handed.length + (t.spend k).stringsLeft = _
        rw [spend_handed]
        simp only [Option.toList_none, List.length_nil] at hleft
        omega
    | some bytes =>
      rw [hreply] at hleft
      simp only [spend_handed, spend_released]
      refine ⟨?_, ?_, balanced_spend h k, ?_⟩
      · exact congrArg (· ++ _) h.released
      -- the new address is the next number, so the addresses stay an interval
      · show t.handed ++ [t.handed.length + 1] = _
        rw [List.length_append, List.length_singleton, List.range'_1_concat, ← h.handed,
          Nat.add_comm]
      · show (t.handed ++ [t.handed.length + 1]).length + (t.spend k).stringsLeft = _
        rw [List.length_append, List.length_singleton]
        simp only [Option.toList_some, List.length_singleton] at hleft
        omega

theorem balanced_receiveAll {t₀ : Table} (calls : List Call) :
    ∀ t : Table, Balanced t₀ t → Balanced t₀ (exports.layer.receiveAll calls t).2 := by
  induction calls with
  | nil => intro t h; exact h
  | cons k rest ih =>
    intro t h
    rw [receiveAll_cons]
    exact ih _ (balanced_receive h k)

theorem receive_released (t : Table) (k : Call) :
    (exports.layer.receive k t).2.released = t.released ++ (exports.address? k t).toList := by
  unfold Exports.address?
  cases hpasses : k.passes with
  | false =>
    rw [exports.receive_of_not_passes hpasses, if_neg (by decide), Option.toList_none,
      List.append_nil]
  | true =>
    rw [exports.receive_of_passes hpasses, handOut_exports, giveBack_reply, if_pos rfl]
    cases next (t.replies k.kind) with
    | none => exact (spend_released t k).trans (List.append_nil _).symm
    | some bytes =>
      show (t.spend k).released ++ [(t.spend k).handed.length + 1] = _
      rw [spend_released]
      rfl

theorem receiveAll_released (calls : List Call) : ∀ t : Table,
    (exports.layer.receiveAll calls t).2.released = t.released ++ exports.addresses calls t := by
  induction calls with
  | nil => intro t; exact (List.append_nil _).symm
  | cons k rest ih =>
    intro t
    rw [receiveAll_cons, ih, receive_released, List.append_assoc]
    rfl

theorem receive_calls (t : Table) (k : Call) :
    (exports.layer.receive k t).2.calls = t.calls ++ [k].filter Call.passes := by
  cases hpasses : k.passes with
  | false =>
    rw [exports.receive_of_not_passes hpasses, List.filter_cons_of_neg (by simp [hpasses]),
      List.filter_nil, List.append_nil]
  | true =>
    rw [exports.receive_of_passes hpasses, handOut_exports, giveBack_reply,
      List.filter_cons_of_pos hpasses, List.filter_nil, ← spend_calls]
    split <;> rfl

theorem receiveAll_calls (calls : List Call) : ∀ t : Table,
    (exports.layer.receiveAll calls t).2.calls = t.calls ++ calls.filter Call.passes := by
  induction calls with
  | nil => intro t; exact (List.append_nil _).symm
  | cons k rest ih =>
    intro t
    rw [receiveAll_cons, ih, receive_calls, List.append_assoc, ← List.filter_append]
    rfl

/-! ### Every sequence of calls -/

/-- **Strings are given back.** Whatever the replies are, after any calls to the layer over a table:

* the addresses given back are those that the calls were handed, in the same order, each once, and none is
  null, so that no string is left over between calls;
* the strings handed out are those that are gone from the replies;
* the calls that reached the table are those that can be passed, and the replies of a function that are
  gone are as many as its calls among them;
* a next call whose text has U+0000 fails and leaves the table as it is. -/
theorem given_back (keys hashes signatures : List (Option (List UInt8))) (calls : List Call) :
    let t₀ : Table := { keyReplies := keys, hashReplies := hashes, signatureReplies := signatures }
    let t := (exports.layer.receiveAll calls t₀).2
    t.released = exports.addresses calls t₀ ∧ t.released.Nodup ∧ 0 ∉ t.released ∧
      t.released = t.handed ∧ t.live = 0 ∧
      t.handed.length + t.stringsLeft = t₀.stringsLeft ∧
      t.calls = calls.filter Call.passes ∧
      (∀ j, t.replies j = (t₀.replies j).drop (t.calls.countP (·.kind = j))) ∧
      ∀ text c, '\x00' ∈ text.toList →
        exports.layer.receive (.hash text c) t = (.hash (.failure (.innerNul "build_hash")), t) ∧
          exports.layer.receive (.signature text c) t =
            (.signature (.failure (.innerNul "get_signature")), t) := by
  intro t₀ t
  have h : Balanced t₀ t :=
    balanced_receiveAll calls t₀ (balanced_start keys hashes signatures)
  have haddresses : t.released = List.range' 1 t.handed.length := h.released.trans h.handed
  refine ⟨receiveAll_released calls t₀, ?_, ?_, h.released, ?_, h.strings,
    receiveAll_calls calls t₀, h.replies, ?_⟩
  · rw [haddresses]
    exact List.nodup_range' 1
  · rw [haddresses, List.mem_range'_1]
    omega
  · rw [live, h.released]
    exact Int.sub_self _
  · intro text c htext
    exact exports.receive_of_nul htext c t

end Table

end Credentials.Native
