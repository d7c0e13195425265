import Credentials.Native.Script
import Credentials.Proofs.Service.Phases

/-!
# What came before does not matter

A layer is `Stateless` if its answer to a call depends on the call alone, and a binding is `Steady` if it
comes to the same in every world and a layer that it comes to is stateless. Over a steady binding a request
gets the same reply wherever it stands in a run as it gets when it is the only one
(`reply_independent`). Requests that tell whether the library has been loaded are the exception.

Scripted layers and layers that panic are stateless, and stay so when their calls are recorded. A binding
that has none, has such a layer, or whose loader always comes to the same is steady.
-/

namespace Credentials

open Native

variable {ι σ : Type}

namespace Native

/-- The answer to a call depends on nothing but the call. -/
def Layer.Stateless (l : Layer σ) : Prop :=
  ∀ k m m', (l.receive k m).1 = (l.receive k m').1

/-- The binding comes to the same in every world, and to a stateless layer if to one. -/
structure Binding.Steady (b : Binding ι σ) : Prop where
  outcome : ∀ w w', (Connection.mk b w).settle.1 = (Connection.mk b w').settle.1
  stateless : ∀ w l, (Connection.mk b w).settle.1 = .bound l → l.Stateless

/-! ## Layers and bindings of this kind -/

theorem stateless_script (s : Script) : (s.layer : Layer σ).Stateless := by
  intro k m m'
  cases k <;> rfl

theorem stateless_panicking : (Layer.panicking : Layer σ).Stateless := by
  intro k m m'
  cases k <;> rfl

theorem stateless_recorded {l : Layer σ} (h : l.Stateless) : l.recorded.Stateless := by
  intro k m m'
  rw [receive_recorded, receive_recorded]
  exact h k m.inner m'.inner

theorem steady_of_state {b : Binding ι σ} {s : LoadState σ} (hstate : b.state = some s)
    (h : ∀ l, s = .bound l → l.Stateless) : b.Steady := by
  have hsettle : ∀ w, (Connection.mk b w).settle.1 = s := by
    intro w
    rw [Connection.settle_of_state (c := ⟨b, w⟩) hstate]
  constructor
  · intro w w'
    rw [hsettle, hsettle]
  · intro w l hl
    exact h l ((hsettle w).symm.trans hl)

theorem steady_unavailable : (Binding.unavailable : Binding ι σ).Steady := by
  apply steady_of_state rfl
  intro l hl
  cases hl

theorem steady_ofLayer {l : Layer σ} (h : l.Stateless) : (Binding.ofLayer l : Binding ι σ).Steady := by
  apply steady_of_state rfl
  intro l' hl
  cases hl
  exact h

theorem steady_always (library : String) {outcome : Loaded σ}
    (h : ∀ l, outcome = .layer l → l.Stateless) :
    (Binding.mk library (.always outcome) none : Binding ι σ).Steady := by
  have hsettle : ∀ w, (Connection.mk (Binding.mk library (.always outcome) none : Binding ι σ) w).settle.1 =
      .ofLoaded library outcome := fun _ => rfl
  constructor
  · intro w w'
    rw [hsettle, hsettle]
  · intro w l hl
    rw [hsettle] at hl
    cases outcome with
    | layer l' =>
      cases hl
      exact h _ rfl
    | refused f => cases hl
    | panicked => cases hl

theorem steady_recorded {b : Binding ι σ} (h : b.Steady) : b.recorded.Steady := by
  constructor
  · intro w w'
    rw [outcome_recorded, outcome_recorded]
    exact congrArg LoadState.recorded (h.outcome _ _)
  · intro w l hl
    rw [outcome_recorded] at hl
    cases houtcome : (Connection.mk b ⟨w.system, w.memory.inner⟩).settle.1 with
    | failed f =>
      rw [houtcome] at hl
      cases hl
    | bound l' =>
      rw [houtcome] at hl
      cases hl
      exact stateless_recorded (h.stateless _ l' houtcome)

end Native

namespace Service

/-- On an outcome whose layer is stateless, a reply depends on the outcome and not on the connection. -/
theorem reply_performIn {s : LoadState σ} (hs : ∀ l, s = .bound l → l.Stateless) (v : Service)
    {q : Request} (hq : q.settles = true) (c c' : Connection ι σ) :
    (v.performIn s c q).1 = (v.performIn s c' q).1 := by
  cases s with
  | failed f =>
    cases q with
    | resolve s => cases s <;> rfl
    | hash input => rfl
    | signature path context => rfl
    | load => rfl
    | available => rfl
    | official | fallback | context | describe | binding => cases hq
  | bound l =>
    have hl : ∀ k, (l.receive k c.world.memory).1 = (l.receive k c'.world.memory).1 :=
      fun k => hs l rfl k _ _
    cases q with
    | resolve s =>
      cases s with
      | serviceId => rfl
      | telemetryId => rfl
      | sharedSecret =>
        have hkey := hl (.key Secret.sharedSecret.keyId v.context)
        simp only [Layer.receive, Outcome.key.injEq] at hkey
        simp only [performIn, respond, resolveIn, Secret.policy, Connection.call, hkey]
    | hash input =>
      have hhash := hl (.hash input v.context)
      simp only [Layer.receive, Outcome.hash.injEq] at hhash
      simp only [performIn, respond, hashIn, Connection.call, hhash]
    | signature path context =>
      have hsignature := hl (.signature path context)
      simp only [Layer.receive, Outcome.signature.injEq] at hsignature
      simp only [performIn, respond, signatureIn, Connection.call, hsignature]
    | load => rfl
    | available => rfl
    | official | fallback | context | describe | binding => cases hq

theorem reply_of_not_settles {q : Request} (hq : q.settles = false) (hdescribe : q ≠ .describe)
    (hbinding : q ≠ .binding) (v : Service) (c c' : Connection ι σ) :
    (v.perform c q).1 = (v.perform c' q).1 := by
  cases q with
  | official => rfl
  | fallback => rfl
  | context => rfl
  | describe => exact absurd rfl hdescribe
  | binding => exact absurd rfl hbinding
  | resolve | hash | signature | load | available => cases hq

/-- **What came before does not matter.** Over a steady binding, whatever services ask of it before and
after, a request that does not tell whether the library has been loaded gets the answer and the lines that
it gets when it is the first request over the same binding, in whatever world. -/
theorem reply_independent {b : Binding ι σ} (h : b.Steady) (w w' : World ι σ)
    (before after : List (Service × Request)) (v : Service) (q : Request)
    (hdescribe : q ≠ .describe) (hbinding : q ≠ .binding) :
    (Service.run ⟨b, w⟩ (before ++ (v, q) :: after)).1[before.length]? =
      some (v.perform ⟨b, w'⟩ q).1 := by
  have hhead : (Service.run ⟨b, w⟩ (before ++ (v, q) :: after)).1[before.length]? =
      some (v.perform (Service.run ⟨b, w⟩ before).2 q).1 := by
    rw [run_append, List.getElem?_append_right (Nat.le_of_eq (length_run before _)), length_run, Nat.sub_self,
      run_cons]
    rfl
  rw [hhead]
  congr 1
  cases hq : q.settles with
  | true =>
    -- the outcome found along the run is that of the fresh binding
    have houtcome : (Service.run ⟨b, w⟩ before).2.settle.1 = (Connection.mk b w').settle.1 := by
      rw [outcome_run]
      exact h.outcome w w'
    rw [perform_of_settles hq, perform_of_settles hq, houtcome]
    exact reply_performIn (h.stateless w') v hq _ _
  | false => exact reply_of_not_settles hq hdescribe hbinding v _ _

/-- A hash that fails and another service's secret come before a secret that is the sentinel. -/
theorem reply_independent_sentinel :
    let script : Script :=
      { keys := [(Secret.sharedSecret.keyId, .ok (some "error"))], hash := .failing .unavailable }
    let b : Binding Unit (Recorded Unit) :=
      (Binding.mk "security" (.always (.layer script.layer)) none).recorded
    let w : World Unit (Recorded Unit) :=
      ⟨{ environment := .empty, files := .empty }, { inner := () }⟩
    let v : Service := { fallback := ⟨"app-1", "tel-1", "sec-1", false, .injected "explicit"⟩ }
    let other : Service := { v with context := ⟨7⟩ }
    let before := [(v, .hash "payload"), (other, .resolve .sharedSecret)]
    b.Steady ∧ Request.resolve .sharedSecret ≠ .describe ∧ Request.resolve .sharedSecret ≠ .binding ∧
      (Service.run ⟨b, w⟩ (before ++ [(v, .resolve .sharedSecret)])).1[before.length]? =
        some
          { answer := .secret ⟨"sec-1", .fallback (.nativeFailed (.sentinel "get_key"))⟩
            lines :=
              [⟨.warn, "shared_secret: native lookup failed, using fallback: " ++
                "Native call 'get_key' returned the failure sentinel"⟩] } := by
  intro script b w v other before
  have hb : b.Steady := by
    refine steady_recorded (steady_always "security" ?_)
    intro l hl
    cases hl
    exact stateless_script script
  have hdescribe : Request.resolve .sharedSecret ≠ .describe := by decide
  have hbinding : Request.resolve .sharedSecret ≠ .binding := by decide
  refine ⟨hb, hdescribe, hbinding, ?_⟩
  rw [reply_independent hb w w before [] v _ hdescribe hbinding]
  rfl

end Service

end Credentials
