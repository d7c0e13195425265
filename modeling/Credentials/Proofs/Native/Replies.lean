import Credentials.Proofs.Native.Ownership

/-!
# What a reply is read as

A reply of a native library is null, or bytes of which those before the first zero count. `Reads` is the
table of what a call reads in a reply: nothing, no text, or the one text whose UTF-8 form the bytes are.
The layer over exported functions reads its replies by this table, for keys (`exists_reads_key`) and for
hashes, where a text with U+0000 is not passed and a null is a failure (`HashReads`).

Over a table of replies a key call takes the next reply of its list, and no other call takes any
(`receive_keyReplies`).
-/

namespace Credentials.Native

variable {σ : Type}

def beforeZero (bytes : List UInt8) : List UInt8 := bytes.takeWhile (· ≠ 0)

/-- No text has the bytes as its UTF-8 form. -/
def NoText (bytes : List UInt8) : Prop := ∀ s, Text.toBytes s ≠ bytes

theorem noText_iff {bytes : List UInt8} : NoText bytes ↔ Text.ofBytes? bytes = none := by
  rw [Option.eq_none_iff_forall_ne_some]
  exact forall_congr' fun s => not_congr (eq_comm.trans Text.ofBytes?_eq_some_iff.symm)

theorem toBytes_injective {s t : String} (h : Text.toBytes s = Text.toBytes t) : s = t := by
  have hs := Text.ofBytes?_toBytes s
  rw [h, Text.ofBytes?_toBytes] at hs
  exact (Option.some.inj hs).symm

/-! ## One reply -/

/-- What a call reads in a reply. -/
inductive Reads (call : String) : Option (List UInt8) → Except Failure (Option String) → Prop where
  | null : Reads call none (.ok none)
  | notText {bytes : List UInt8} (h : NoText (beforeZero bytes)) :
    Reads call (some bytes) (.error (.notText call))
  | text {bytes : List UInt8} {s : String} (h : beforeZero bytes = Text.toBytes s) :
    Reads call (some bytes) (.ok (some s))

theorem Reads.unique {call : String} {reply : Option (List UInt8)} {x y : Except Failure (Option String)}
    (h : Reads call reply x) (h' : Reads call reply y) : x = y := by
  cases h with
  | null => cases h'; rfl
  | notText hnone =>
    cases h' with
    | notText => rfl
    | text hbytes => exact absurd hbytes.symm (hnone _)
  | text hbytes =>
    cases h' with
    | notText hnone => exact absurd hbytes.symm (hnone _)
    | text hbytes' => rw [toBytes_injective (hbytes.symm.trans hbytes')]

/-- The result of a hash call with a text, by the reply to it. -/
inductive HashReads (input : String) : Option (List UInt8) → Except Failure String → Prop where
  /-- The text is not passed, so that there is no reply to read. -/
  | nul (h : '\x00' ∈ input.toList) (reply : Option (List UInt8)) :
    HashReads input reply (.error (.innerNul "build_hash"))
  | null (h : '\x00' ∉ input.toList) : HashReads input none (.error (.nullResult "build_hash"))
  | notText (h : '\x00' ∉ input.toList) {bytes : List UInt8} (hbytes : NoText (beforeZero bytes)) :
    HashReads input (some bytes) (.error (.notText "build_hash"))
  | text (h : '\x00' ∉ input.toList) {bytes : List UInt8} {s : String}
    (hbytes : beforeZero bytes = Text.toBytes s) : HashReads input (some bytes) (.ok s)

namespace HashReads

variable {input : String} {reply : Option (List UInt8)} {a a' : Except Failure String}

theorem of_reads (h : '\x00' ∉ input.toList) {x : Except Failure (Option String)}
    (hreads : Reads "build_hash" reply x) : HashReads input reply (Exports.hashResult x) := by
  cases hreads with
  | null => exact .null h
  | notText hbytes => exact .notText h hbytes
  | text hbytes => exact .text h hbytes

theorem refused_or_reads (h : HashReads input reply a) :
    '\x00' ∈ input.toList ∧ a = .error (.innerNul "build_hash") ∨
      '\x00' ∉ input.toList ∧ ∃ x, Reads "build_hash" reply x ∧ a = Exports.hashResult x := by
  cases h with
  | nul h => exact Or.inl ⟨h, rfl⟩
  | null h => exact Or.inr ⟨h, _, .null, rfl⟩
  | notText h hbytes => exact Or.inr ⟨h, _, .notText hbytes, rfl⟩
  | text h hbytes => exact Or.inr ⟨h, _, .text hbytes, rfl⟩

theorem unique (h : HashReads input reply a) (h' : HashReads input reply a') : a = a' := by
  rcases h.refused_or_reads with ⟨hnul, rfl⟩ | ⟨hnot, x, hx, rfl⟩
  · rcases h'.refused_or_reads with ⟨-, rfl⟩ | ⟨hnot, -⟩
    · rfl
    · exact absurd hnul hnot
  · rcases h'.refused_or_reads with ⟨hnul, -⟩ | ⟨-, x', hx', rfl⟩
    · exact absurd hnul hnot
    · rw [hx.unique hx']

theorem refused_iff (h : HashReads input reply a) :
    a = .error (.innerNul "build_hash") ↔ '\x00' ∈ input.toList := by
  cases h with
  | nul hnul => exact iff_of_true rfl hnul
  | null hnot | notText hnot | text hnot => simp [hnot]

end HashReads

/-! ## The layer over exported functions -/

namespace Exports

theorem reads_copy (e : Exports σ) (call : String) (r : Option Handed × σ) :
    Reads call (r.1.map Handed.bytes) (e.copy call r).1 := by
  obtain ⟨handed, m⟩ := r
  cases handed with
  | none => exact .null
  | some h =>
    simp only [copy, Option.map_some]
    cases hbytes : Text.ofBytes? h.visible with
    | none => exact .notText (noText_iff.mpr hbytes)
    | some s => exact .text (Text.ofBytes?_eq_some_iff.mp hbytes)

theorem exists_reads_key (e : Exports σ) (id : Int32) (c : Context) (m : σ) :
    ∃ x, Reads "get_key" ((e.key id c m).1.map Handed.bytes) x ∧
      (e.layer.key id c m).1 = .ofExcept x :=
  ⟨_, e.reads_copy keyCall (e.key id c m), rfl⟩

theorem exists_hashReads (e : Exports σ) (input : String) (c : Context) (m : σ) :
    ∃ x, HashReads input ((e.hash input c m).1.map Handed.bytes) x ∧
      (e.layer.hash input c m).1 = .ofExcept x := by
  by_cases hnul : '\x00' ∈ input.toList
  · have hrefused := (e.receive_of_nul hnul c m).1
    simp only [Layer.receive, Prod.mk.injEq, Outcome.hash.injEq] at hrefused
    exact ⟨_, .nul hnul _, hrefused.1⟩
  · have hpass : canPass input = true := by
      rw [canPass_eq, decide_eq_true_eq]
      exact hnul
    refine ⟨_, .of_reads hnul (e.reads_copy hashCall (e.hash input c m)), ?_⟩
    simp only [layer, hpass, if_true]

end Exports

/-! ## Tables of replies -/

theorem Table.receive_keyReplies (t : Table) (k : Call) :
    (Table.exports.layer.receive k t).2.keyReplies =
      if k.kind = .key then t.keyReplies.tail else t.keyReplies := by
  cases hpasses : k.passes with
  | false =>
    -- a key call can always be passed
    have hkind : k.kind ≠ .key := by
      cases k with
      | key id c => cases hpasses
      | hash s c | signature p c => exact CallKind.noConfusion
    rw [Table.exports.receive_of_not_passes hpasses, if_neg hkind]
  | true =>
    have hspent := Table.spend_replies t k .key
    rw [Table.exports.receive_of_passes hpasses, Table.handOut_exports, Table.giveBack_reply]
    cases Table.next (t.replies k.kind) with
    | none => exact hspent
    | some bytes => exact hspent

end Credentials.Native
