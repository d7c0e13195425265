import Credentials.Proofs.Native.Calls
import Credentials.Service.Request

/-!
# The two phases of a request

A request first asks for the outcome of loading, if it is one that does (`Request.settles`), and then
acts on that outcome (`Service.performIn`). To act means at most one native call, which is known from the
request alone (`Service.call?`): `performIn_connection` says what becomes of the connection, and
`perform_of_settles` puts the two phases together again.
-/

namespace Credentials

open Native

variable {ι σ : Type}

/-- Whether a request asks for the outcome of loading. -/
def Request.settles : Request → Bool
  | .resolve _ => true
  | .hash _ => true
  | .signature _ _ => true
  | .load => true
  | .available => true
  | _ => false

namespace Service

/-- The native call of a request to a service. A key is asked for by the number of the shared secret
and hashes are made with the service's token, signatures are read with the token of the caller. -/
def call? (v : Service) : Request → Option Call
  | .resolve .sharedSecret => some (.key (0xC1000003 : UInt32).toInt32 v.context)
  | .hash input => some (.hash input v.context)
  | .signature path context => some (.signature path context)
  | _ => none

/-- Performs a request once the outcome of loading is known. -/
def performIn (v : Service) (state : LoadState σ) (c : Connection ι σ) :
    Request → Reply Response × Connection ι σ
  | .resolve s => respond .secret (v.resolveIn s state c)
  | .hash input => respond .hash (v.hashIn input state c)
  | .signature path context => respond .attributes (signatureIn path context state c)
  | .load => ({ answer := .state state.isAvailable state.failure? state.outline }, c)
  | .available => ({ answer := .flag state.isAvailable }, c)
  | q => v.perform c q

theorem perform_of_settles {q : Request} (h : q.settles = true) (v : Service)
    (c : Connection ι σ) : v.perform c q = v.performIn c.settle.1 c.settle.2 q := by
  cases q with
  | resolve s => rfl
  | hash input => rfl
  | signature path context => rfl
  | load => rfl
  | available => rfl
  | official | fallback | context | describe | binding => cases h

theorem perform_of_not_settles {q : Request} (h : q.settles = false) (v : Service)
    (c : Connection ι σ) : (v.perform c q).2 = c := by
  cases q with
  | resolve s => cases h
  | hash input => cases h
  | signature path context => cases h
  | load => cases h
  | available => cases h
  | official | fallback | context | describe | binding => rfl

theorem call?_of_not_settles {q : Request} (h : q.settles = false) (v : Service) :
    v.call? q = none := by
  cases q with
  | resolve s => cases h
  | hash input => cases h
  | signature path context => cases h
  | _ => rfl

/-- **What a request does to a connection** once the outcome of loading is known: its one call, if it
has one and there is a layer. -/
theorem performIn_connection (v : Service) (state : LoadState σ) (c : Connection ι σ) (q : Request) :
    (v.performIn state c q).2 =
      match state, v.call? q with
      | .bound l, some k => c.after l k
      | _, _ => c := by
  cases state with
  | failed f =>
    cases q with
    | resolve s => cases s <;> rfl
    | _ => rfl
  | bound l =>
    cases q with
    | resolve s => cases s <;> rfl
    | _ => rfl

theorem performIn_binding (v : Service) (state : LoadState σ) (c : Connection ι σ) (q : Request) :
    (v.performIn state c q).2.binding = c.binding := by
  rw [performIn_connection]
  split <;> rfl

theorem binding_perform {q : Request} (h : q.settles = true) (v : Service) (c : Connection ι σ) :
    (v.perform c q).2.binding = c.settle.2.binding := by
  rw [perform_of_settles h, performIn_binding]

theorem performIn_memory (v : Service) (s : LoadState σ) (c : Connection ι (Recorded σ))
    (q : Request) :
    (v.performIn s.recorded c q).2.world.memory.loads = c.world.memory.loads ∧
      (v.performIn s.recorded c q).2.world.memory.calls =
        c.world.memory.calls ++ if s.isAvailable then (v.call? q).toList else [] := by
  rw [performIn_connection]
  cases s with
  | failed f => exact ⟨rfl, (List.append_nil _).symm⟩
  | bound l =>
    cases hk : v.call? q with
    | none => exact ⟨rfl, (List.append_nil _).symm⟩
    | some k => exact c.after_recorded l k

/-! ## Runs -/

theorem outcome_perform (v : Service) (c : Connection ι σ) (q : Request) :
    (v.perform c q).2.settle.1 = c.settle.1 := by
  cases hq : q.settles with
  | true =>
    have hstate : (v.perform c q).2.binding.state = some c.settle.1 := by
      rw [binding_perform hq, Connection.state_settle]
    rw [Connection.settle_of_state hstate]
  | false => rw [perform_of_not_settles hq]

@[simp] theorem run_nil (c : Connection ι σ) : run c [] = ([], c) := rfl

theorem run_cons (c : Connection ι σ) (v : Service) (q : Request) (rest : List (Service × Request)) :
    run c ((v, q) :: rest) =
      ((v.perform c q).1 :: (run (v.perform c q).2 rest).1, (run (v.perform c q).2 rest).2) := rfl

theorem run_append (before after : List (Service × Request)) : ∀ c : Connection ι σ,
    (run c (before ++ after)).1 = (run c before).1 ++ (run (run c before).2 after).1 := by
  induction before with
  | nil => intro c; rfl
  | cons e rest ih =>
    intro c
    obtain ⟨v, q⟩ := e
    rw [List.cons_append, run_cons, run_cons, ih, List.cons_append]

theorem length_run (run : List (Service × Request)) : ∀ c : Connection ι σ,
    (Service.run c run).1.length = run.length := by
  induction run with
  | nil => intro c; rfl
  | cons e rest ih =>
    intro c
    obtain ⟨v, q⟩ := e
    rw [run_cons, List.length_cons, List.length_cons, ih]

theorem getElem?_run_middle (c : Connection ι σ) (before after : List (Service × Request)) (v : Service)
    (q : Request) :
    (run c (before ++ (v, q) :: after)).1[before.length]? = some (v.perform (run c before).2 q).1 := by
  rw [run_append, List.getElem?_append_right (Nat.le_of_eq (length_run before c)), length_run,
    Nat.sub_self, run_cons]
  rfl

theorem outcome_run (run : List (Service × Request)) : ∀ c : Connection ι σ,
    (Service.run c run).2.settle.1 = c.settle.1 := by
  induction run with
  | nil => intro c; rfl
  | cons e rest ih =>
    intro c
    obtain ⟨v, q⟩ := e
    rw [run_cons, ih, outcome_perform]

end Service

end Credentials
