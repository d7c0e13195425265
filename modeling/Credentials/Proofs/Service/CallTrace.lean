import Credentials.Proofs.Service.Phases

/-!
# The calls of a run

What a native layer receives over a run of requests by services on one binding is the projection of the
run to calls (`run_calls`): for each request its one call, in order, and nothing for a request that has
none. No answer of the layer, be it a failure or a panic, adds a call or takes one away. One request is
`perform_recorded`; that the outcome of loading is the same for the rest of the run carries the induction
(`settle_perform`).
-/

namespace Credentials

open Native

namespace Service

variable {ι σ : Type} {b : Binding ι σ} {c : Connection ι (Recorded σ)}

theorem perform_recorded (h : c.binding = b.recorded) (v : Service) (q : Request) :
    (v.perform c q).2.world.memory.calls =
      c.world.memory.calls ++ if c.settle.1.isAvailable then (v.call? q).toList else [] := by
  obtain ⟨binding, w⟩ := c
  obtain rfl : binding = b.recorded := h
  cases hq : q.settles with
  | true =>
    obtain ⟨s, hs, -, hcalls⟩ := settle_recorded b w
    rw [perform_of_settles hq, hs, (performIn_memory v s _ q).2, hcalls, isAvailable_recorded]
  | false =>
    rw [perform_of_not_settles hq, call?_of_not_settles hq, Option.toList_none, ite_self,
      List.append_nil]

theorem settle_perform (h : c.binding = b.recorded) (v : Service) (q : Request) :
    (∃ b' : Binding ι σ, (v.perform c q).2.binding = b'.recorded) ∧
      (v.perform c q).2.settle.1 = c.settle.1 := by
  refine ⟨?_, outcome_perform v c q⟩
  cases hq : q.settles with
  | true =>
    obtain ⟨binding, w⟩ := c
    obtain rfl : binding = b.recorded := h
    obtain ⟨s, -, hsettle, -⟩ := settle_recorded b w
    exact ⟨_, (binding_perform hq v _).trans hsettle⟩
  | false =>
    rw [perform_of_not_settles hq]
    exact ⟨b, h⟩

/-- **The calls of a run.** Whatever its binding has come to or will, and whatever the layer answers, a
run adds to the record of calls those of its requests in order, one for each request that has one, if the
binding comes to a layer, and none at all otherwise. -/
theorem run_calls (b : Binding ι σ) (w : World ι (Recorded σ)) (run : List (Service × Request)) :
    let c : Connection ι (Recorded σ) := ⟨b.recorded, w⟩
    (Service.run c run).2.world.memory.calls =
      w.memory.calls ++
        if c.settle.1.isAvailable then run.filterMap fun e => e.1.call? e.2 else [] := by
  suffices hrun : ∀ (b : Binding ι σ) (c : Connection ι (Recorded σ)), c.binding = b.recorded →
      (Service.run c run).2.world.memory.calls =
        c.world.memory.calls ++
          if c.settle.1.isAvailable then run.filterMap fun e => e.1.call? e.2 else [] from
    hrun b ⟨b.recorded, w⟩ rfl
  induction run with
  | nil =>
    intro b c _
    rw [run_nil, List.filterMap_nil, ite_self, List.append_nil]
  | cons e rest ih =>
    -- the rest of the run starts from another connection, which comes to the same outcome
    intro b c h
    obtain ⟨v, q⟩ := e
    obtain ⟨⟨b', hbinding⟩, hsettle⟩ := settle_perform h v q
    rw [run_cons, ih b' _ hbinding, hsettle, perform_recorded h, List.append_assoc]
    cases c.settle.1.isAvailable with
    | false => rfl
    | true =>
      rw [if_pos rfl, if_pos rfl, if_pos rfl, List.filterMap_cons]
      cases v.call? q <;> rfl

end Service

end Credentials
