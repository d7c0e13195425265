import Credentials.Proofs.Native.Replies
import Credentials.Proofs.Service.Phases
import Credentials.Proofs.Service.Resolution

/-!
# One reply for each resolution

Over a library with a given list of replies to key calls, what a service gives out as the shared secret
depends on one reply: `KeyVerdict` is the table, from the bytes of the reply to the value and where it came
from. Every resolution of the shared secret takes the next reply, and no other request takes any
(`keyReplies_perform`), so that over a run the replies that are left are those not yet taken
(`keyReplies_run`), and each resolution is decided by the reply of its number (`decided_by_reply`).
-/

namespace Credentials

open Native

variable {ι : Type}

/-! ## One reply -/

/-- What is given out as the shared secret, by the static value and the reply to the key call. -/
inductive KeyVerdict (given : String) : Option (List UInt8) → Resolved → Prop where
  | null : KeyVerdict given none ⟨given, .fallback (.nativeFailed (.nullResult "get_key"))⟩
  | notText {bytes : List UInt8} (h : NoText (beforeZero bytes)) :
    KeyVerdict given (some bytes) ⟨given, .fallback (.nativeFailed (.notText "get_key"))⟩
  | empty {bytes : List UInt8} (h : beforeZero bytes = []) :
    KeyVerdict given (some bytes) ⟨given, .fallback (.nativeFailed (.emptyResult "get_key"))⟩
  | sentinel {bytes : List UInt8} (h : beforeZero bytes = Text.toBytes "error") :
    KeyVerdict given (some bytes) ⟨given, .fallback (.nativeFailed (.sentinel "get_key"))⟩
  /-- Any other text, as it is. -/
  | native {bytes : List UInt8} {s : String} (h : beforeZero bytes = Text.toBytes s) (hempty : s ≠ "")
    (hsentinel : s ≠ "error") : KeyVerdict given (some bytes) ⟨s, .native⟩

namespace KeyVerdict

variable {given : String} {reply : Option (List UInt8)} {r r' : Resolved}

/-- What is read in a reply and what a resolution makes of it are the table together. -/
theorem of_reads {values : Secret → String} {x : Except Failure (Option String)}
    (h : Reads "get_key" reply x) (hr : Resolution values .sharedSecret (some (.ofExcept x)) r) :
    KeyVerdict (values .sharedSecret) reply r := by
  cases h with
  | null =>
    cases hr with
    | static hs => exact absurd rfl hs
    | null => exact .null
  | notText hbytes =>
    cases hr with
    | static hs => exact absurd rfl hs
    | failure => exact .notText hbytes
  | text hbytes =>
    cases hr with
    | static hs => exact absurd rfl hs
    | native hempty hsentinel => exact .native hbytes hempty hsentinel
    | empty hempty =>
      rw [hempty] at hbytes
      exact .empty hbytes
    | sentinel hsentinel =>
      rw [hsentinel] at hbytes
      exact .sentinel hbytes

theorem exists_reads (h : KeyVerdict given reply r) :
    ∃ x, Reads "get_key" reply x ∧
      Resolution (fun _ => given) .sharedSecret (some (.ofExcept x)) r := by
  cases h with
  | null => exact ⟨_, .null, .null⟩
  | notText hbytes => exact ⟨_, .notText hbytes, .failure _⟩
  | empty hbytes => exact ⟨.ok (some ""), .text hbytes, .empty rfl⟩
  | sentinel hbytes => exact ⟨.ok (some "error"), .text hbytes, .sentinel rfl⟩
  | native hbytes hempty hsentinel => exact ⟨_, .text hbytes, .native hempty hsentinel⟩

theorem unique (h : KeyVerdict given reply r) (h' : KeyVerdict given reply r') : r = r' := by
  obtain ⟨x, hx, hr⟩ := h.exists_reads
  obtain ⟨x', hx', hr'⟩ := h'.exists_reads
  rw [hx.unique hx'] at hr
  exact hr.unique hr'

end KeyVerdict

theorem Native.Table.reply_key (t : Table) (id : Int32) (c : Context) :
    (Table.exports.key id c t).1.map Handed.bytes = t.keyReplies.head?.join := by
  show (Table.reply _ (Table.next t.keyReplies)).1.map Handed.bytes = Table.next t.keyReplies
  cases Table.next t.keyReplies <;> rfl

/-! ## One resolution -/

/-- Whether a request asks for the shared secret. -/
def Request.isShared : Request → Bool
  | .resolve .sharedSecret => true
  | _ => false

namespace Service

section
variable {c : Connection ι Table} (hbound : c.settle.1 = .bound Table.exports.layer)
include hbound

theorem verdict_resolve (v : Service) :
    KeyVerdict v.fallback.sharedSecret c.settle.2.world.memory.keyReplies.head?.join
      (v.resolve .sharedSecret c).1.answer := by
  obtain ⟨x, hreads, hanswer⟩ := Table.exports.exists_reads_key Secret.sharedSecret.keyId v.context
    c.settle.2.world.memory
  have hresolution := v.resolution_resolve .sharedSecret c
  rw [keyAnswer?, hbound, LoadState.layer?, Option.map_some, hanswer] at hresolution
  rw [Table.reply_key] at hreads
  exact .of_reads hreads hresolution

theorem keyReplies_perform (v : Service) (q : Request) :
    (v.perform c q).2.settle.2.world.memory.keyReplies =
      if q.isShared then c.settle.2.world.memory.keyReplies.tail
      else c.settle.2.world.memory.keyReplies := by
  cases hq : q.settles with
  | false =>
    have hshared : q.isShared = false := by
      cases q with
      | resolve s => cases hq
      | _ => rfl
    rw [perform_of_not_settles hq, hshared]
    rfl
  | true =>
    have hstate : (v.perform c q).2.binding.state = some c.settle.1 := by
      rw [binding_perform hq, Connection.state_settle]
    rw [Connection.settle_of_state hstate, perform_of_settles hq, performIn_connection, hbound]
    -- a call takes a reply from the list of its own kind, and the rest make no call
    cases q with
    | resolve s => cases s with
      | sharedSecret => exact Table.receive_keyReplies _ (.key _ v.context)
      | serviceId | telemetryId => rfl
    | hash input => exact Table.receive_keyReplies _ (.hash input v.context)
    | signature path context => exact Table.receive_keyReplies _ (.signature path context)
    | load => rfl
    | available => rfl
    | official | fallback | context | describe | binding => cases hq

end

/-! ## Runs -/

theorem keyReplies_run (run : List (Service × Request)) : ∀ {c : Connection ι Table},
    c.settle.1 = .bound Table.exports.layer →
    (Service.run c run).2.settle.2.world.memory.keyReplies =
      c.settle.2.world.memory.keyReplies.drop (run.countP (·.2.isShared)) := by
  induction run with
  | nil => intro c _; rfl
  | cons e rest ih =>
    intro c hbound
    obtain ⟨v, q⟩ := e
    have hnext : (v.perform c q).2.settle.1 = .bound Table.exports.layer :=
      (outcome_perform v c q).trans hbound
    rw [run_cons, ih hnext, keyReplies_perform hbound, List.countP_cons]
    cases hshared : q.isShared with
    | false => simp
    | true => simp [List.drop_tail]

/-- **One reply for each resolution.** Over a library with a given list of replies to key calls, in
whatever run, with whatever services and requests before and after:

* a resolution of the shared secret is decided by the reply whose number it has among those resolutions,
  and after the last reply by null, as the table says and in no other way;
* the replies that are left after the run are those that are not taken. -/
theorem decided_by_reply {c : Connection ι Table} (hbound : c.settle.1 = .bound Table.exports.layer)
    (before after : List (Service × Request)) (v : Service) :
    let replies := c.settle.2.world.memory.keyReplies
    let run := before ++ (v, .resolve .sharedSecret) :: after
    let reply := replies[before.countP (·.2.isShared)]?.join
    (∃ r, ((Service.run c run).1[before.length]?).map Reply.answer = some (.secret r) ∧
      ∀ r', KeyVerdict v.fallback.sharedSecret reply r' ↔ r' = r) ∧
    (Service.run c run).2.settle.2.world.memory.keyReplies =
      replies.drop (run.countP (·.2.isShared)) := by
  intro replies run reply
  have hbefore : (Service.run c before).2.settle.1 = .bound Table.exports.layer :=
    (outcome_run before c).trans hbound
  have hverdict := verdict_resolve hbefore v
  rw [keyReplies_run before hbound, List.head?_drop] at hverdict
  refine ⟨⟨_, ?_, fun r' => ⟨fun h' => h'.unique hverdict, fun h' => h' ▸ hverdict⟩⟩,
    keyReplies_run run hbound⟩
  rw [getElem?_run_middle]
  rfl

/-- Two services, a hash and a signature come before a reply that is a surrogate and no text. -/
theorem decided_by_reply_surrogate :
    let surrogate : List UInt8 := [0xED, 0xA0, 0x80]
    let c : Connection Unit Table :=
      ⟨.ofLayer Table.exports.layer,
        ⟨{ environment := .empty, files := .empty },
          { keyReplies := [some (Text.toBytes "error" ++ [0, 0x61]), none, some surrogate] }⟩⟩
    let v : Service := { fallback := ⟨"app-1", "tel-1", "sec-1", false, .injected "explicit"⟩ }
    let other : Service := { v with context := ⟨7⟩ }
    let before :=
      [(v, .resolve .sharedSecret), (v, .hash "payload"), (other, .resolve .sharedSecret),
        (other, .signature "/data/app" ⟨8⟩), (v, .resolve .serviceId)]
    c.settle.1 = .bound Table.exports.layer ∧
      ((Service.run c (before ++ [(v, .resolve .sharedSecret)])).1[before.length]?).map Reply.answer =
        some (.secret ⟨"sec-1", .fallback (.nativeFailed (.notText "get_key"))⟩) := by
  intro surrogate c v other before
  have hbound : c.settle.1 = .bound Table.exports.layer := rfl
  have hsurrogate : NoText (beforeZero surrogate) := noText_iff.mpr (by decide)
  obtain ⟨⟨r, hr, honly⟩, -⟩ := decided_by_reply hbound before [] v
  refine ⟨hbound, hr.trans ?_⟩
  rw [← (honly _).mp (.notText hsurrogate)]

end Service

end Credentials
