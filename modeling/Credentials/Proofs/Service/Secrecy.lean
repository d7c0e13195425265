import Credentials.Native.Script
import Credentials.Proofs.Service.Phases
import Mathlib.Data.List.Forall2

/-!
# Secrets are not shown

Two runs of the same requests may differ in what must stay secret: static values, usable keys, the
inputs and the results of hashes, the entries of signing attributes. What an observer sees is the same in
both (`secrets_not_shown`): the lines that are logged, where each secret came from, the diagnostics texts,
and whatever has been written to the debug log of the host.

`Alike` relates the two sides: what native calls come to, what a library comes to, connections, and what
is asked. `settle_alike` is the step that loads, `performIn_alike` the one that acts.
-/

namespace Credentials

open Native

variable {ι σ τ : Type}

/-! ## What may differ -/

namespace Native

/-- What a native call comes to, but for a usable key, a hash or the entries of a map. -/
inductive Outcome.Alike : Outcome → Outcome → Prop where
  | same (o : Outcome) : Alike o o
  | key {s s' : String} (h : s ≠ "" ∧ s ≠ "error") (h' : s' ≠ "" ∧ s' ≠ "error") :
    Alike (.key (.value (some s))) (.key (.value (some s')))
  | hash (s s' : String) : Alike (.hash (.value s)) (.hash (.value s'))
  | entries (es es' : List (Value × Value)) :
    Alike (.signature (.value (some (.map es)))) (.signature (.value (some (.map es'))))

/-- Both loads come to a layer, or both fail in the same way. -/
inductive Loaded.Alike : Loaded σ → Loaded τ → Prop where
  | layer (l : Layer σ) (l' : Layer τ) : Alike (.layer l) (.layer l')
  | refused (f : Failure) : Alike (.refused f) (.refused f)
  | panicked : Alike .panicked .panicked

inductive LoadState.Alike : LoadState σ → LoadState τ → Prop where
  | bound (l : Layer σ) (l' : Layer τ) : Alike (.bound l) (.bound l')
  | failed (f : Failure) : Alike (.failed f) (.failed f)

/-- The same library in the same host. It has not been loaded on either side, and loading comes to the
same; or it has been, and has come to the same. -/
structure Connection.Alike (c : Connection ι σ) (c' : Connection ι τ) : Prop where
  library : c'.binding.library = c.binding.library
  system : c'.world.system = c.world.system
  state : Option.Rel LoadState.Alike c.binding.state c'.binding.state
  loading : c.binding.state = none →
    let r := c.binding.loader c.binding.library (c.world.report (Binding.startEvent c.binding.library))
    let r' :=
      c'.binding.loader c'.binding.library (c'.world.report (Binding.startEvent c'.binding.library))
    Loaded.Alike r.1 r'.1 ∧ r'.2.system = r.2.system

end Native

/-- The same is asked of services with the same token, but for the input of a hash. The static values of
the two services may be any, and so may the places where their lines go. -/
inductive AskedAlike : Service × Request → Service × Request → Prop where
  | same {v v' : Service} (h : v'.context = v.context) (q : Request) : AskedAlike (v, q) (v', q)
  | hash {v v' : Service} (h : v'.context = v.context) (input input' : String) :
    AskedAlike (v, .hash input) (v', .hash input')

namespace Service

/-- What the native call of a request comes to, if there is a layer and the request makes one. -/
def outcome? (v : Service) (s : LoadState σ) (c : Connection ι σ) (q : Request) : Option Outcome :=
  match s, v.call? q with
  | .bound l, some k => some (l.receive k c.world.memory).1
  | _, _ => none

/-- What the native calls of a run come to, request by request. -/
def outcomes (c : Connection ι σ) : List (Service × Request) → List (Option Outcome)
  | [] => []
  | (v, q) :: rest => v.outcome? c.settle.1 c.settle.2 q :: outcomes (v.perform c q).2 rest

end Service

/-! ## What is seen -/

/-- Where the secret of a response came from, if it is one. -/
def Response.provenance? : Response → Option Provenance
  | .secret r => some r.provenance
  | _ => none

/-- The diagnostics of a response, if it has any: of a service, its binding or the outcome of loading. -/
def Response.outline? : Response → Option Text.Outline
  | .state _ _ o => some o
  | .outline o => some o
  | .binding _ _ o => some o
  | _ => none

/-- What an observer sees of a reply. -/
structure Shown where
  lines : List Log.Line
  provenance? : Option Provenance
  text? : Option String
  prettyText? : Option String

def Reply.shown (r : Reply Response) : Shown where
  lines := r.lines
  provenance? := r.answer.provenance?
  text? := r.answer.outline?.map Text.Outline.flat
  prettyText? := r.answer.outline?.map Text.Outline.pretty

/-! ## Loading -/

namespace Native

theorem ofLoaded_alike {library library' : String} (hlibrary : library' = library) {r : Loaded σ}
    {r' : Loaded τ} (h : r.Alike r') :
    (LoadState.ofLoaded library r).Alike (LoadState.ofLoaded library' r') := by
  subst hlibrary
  cases h with
  | layer l l' => exact .bound l l'
  | refused f => exact .failed f
  | panicked => exact .failed _

theorem endEvent_alike (library : String) {s : LoadState σ} {s' : LoadState τ} (h : s.Alike s') :
    Binding.endEvent library s' = Binding.endEvent library s := by
  cases h <;> rfl

theorem outline_alike {s : LoadState σ} {s' : LoadState τ} (h : s.Alike s') :
    s'.outline = s.outline := by
  cases h <;> rfl

theorem binding_outline_alike {c : Connection ι σ} {c' : Connection ι τ} (h : c.Alike c') :
    c'.binding.outline = c.binding.outline := by
  have hstate := h.state
  unfold Binding.outline
  rw [h.library]
  revert hstate
  generalize c.binding.state = s, c'.binding.state = s'
  intro hstate
  cases hstate with
  | none => rfl
  | some hs => simp only [Option.map_some, outline_alike hs]

theorem alike_of_state {c : Connection ι σ} {c' : Connection ι τ} {s : LoadState σ} {s' : LoadState τ}
    (hlibrary : c'.binding.library = c.binding.library) (hsystem : c'.world.system = c.world.system)
    (hs : c.binding.state = some s) (hs' : c'.binding.state = some s') (h : s.Alike s') :
    c.Alike c' where
  library := hlibrary
  system := hsystem
  state := by
    rw [hs, hs']
    exact .some h
  loading hnone := by
    rw [hs] at hnone
    cases hnone

theorem load_alike {c : Connection ι σ} {c' : Connection ι τ} (h : c.Alike c')
    (hstate : c.binding.state = none) :
    c.load.1.Alike c'.load.1 ∧ c.load.2.Alike c'.load.2 := by
  obtain ⟨hloaded, hsystem⟩ := h.loading hstate
  have houtcome : c.load.1.Alike c'.load.1 := ofLoaded_alike h.library hloaded
  refine ⟨houtcome, alike_of_state h.library ?_ rfl rfl houtcome⟩
  -- the binding reports what came of it after the loader has reported what it has to
  have hevent : Binding.endEvent c'.binding.library c'.load.1 =
      Binding.endEvent c.binding.library c.load.1 := by
    rw [h.library]
    exact endEvent_alike _ houtcome
  show Host.System.report _ (Binding.endEvent c'.binding.library c'.load.1) =
    Host.System.report _ (Binding.endEvent c.binding.library c.load.1)
  rw [hevent, hsystem]

theorem settle_alike {c : Connection ι σ} {c' : Connection ι τ} (h : c.Alike c') :
    c.settle.1.Alike c'.settle.1 ∧ c.settle.2.Alike c'.settle.2 := by
  have hstate := h.state
  cases hs : c.binding.state with
  | none =>
    cases hs' : c'.binding.state with
    | none =>
      have hload := load_alike h hs
      simpa only [Connection.settle, hs, hs'] using hload
    | some s' =>
      rw [hs, hs'] at hstate
      cases hstate
  | some s =>
    cases hs' : c'.binding.state with
    | none =>
      rw [hs, hs'] at hstate
      cases hstate
    | some s' =>
      rw [hs, hs'] at hstate
      rw [Connection.settle_of_state hs, Connection.settle_of_state hs']
      cases hstate with
      | some halike => exact ⟨halike, h⟩

end Native

/-! ## Acting on what a library has come to -/

namespace Service

variable {v v' : Service} {q q' : Request} {s : LoadState σ} {s' : LoadState τ}
  {c : Connection ι σ} {c' : Connection ι τ}

/-- The answers to key calls decide what is logged and where the secret came from; the static values do
not. -/
theorem shown_key (v v' : Service) (s : Secret) {a a' : Answer (Option String)}
    (h : Outcome.Alike (.key a) (.key a')) :
    (respond .secret (v'.withAnswer s a', c')).1.shown =
      (respond .secret (v.withAnswer s a, c)).1.shown := by
  cases h with
  | same =>
    cases hvalue : (a.guarded keyCall).bind (interpretKey keyCall) with
    | ok value => simp only [respond, withAnswer, hvalue, Reply.shown]
    | error f =>
      simp only [respond, withAnswer, hvalue, Reply.shown]
      rfl
  | @key value value' h h' =>
    have hvalue : ((Answer.value (some value)).guarded keyCall).bind (interpretKey keyCall) =
        .ok value := interpretKey_of_usable keyCall h.1 h.2
    have hvalue' : ((Answer.value (some value')).guarded keyCall).bind (interpretKey keyCall) =
        .ok value' := interpretKey_of_usable keyCall h'.1 h'.2
    simp only [respond, withAnswer, hvalue, hvalue', Reply.shown]
    rfl

theorem shown_hash {a a' : Answer String} (h : Outcome.Alike (.hash a) (.hash a')) :
    (respond .hash (hashReply a', c')).1.shown = (respond .hash (hashReply a, c)).1.shown := by
  cases h with
  | same => rfl
  | hash value value' => rfl

theorem shown_signature (path : String) {a a' : Answer (Option Value)}
    (h : Outcome.Alike (.signature a) (.signature a')) :
    (respond .attributes (signatureReply path a', c')).1.shown =
      (respond .attributes (signatureReply path a, c)).1.shown := by
  cases h with
  | same => rfl
  | entries es es' => rfl

theorem shown_performIn (hask : AskedAlike (v, q) (v', q')) (hs : s.Alike s') (hq : q.settles = true)
    (ho : Option.Rel Outcome.Alike (v.outcome? s c q) (v'.outcome? s' c' q')) :
    (v'.performIn s' c' q').1.shown = (v.performIn s c q).1.shown := by
  cases hs with
  | failed f =>
    cases hask with
    | hash hcontext input input' => rfl
    | same hcontext =>
      cases q with
      | resolve secret => cases secret <;> rfl
      | hash input => rfl
      | signature path context => rfl
      | load => rfl
      | available => rfl
      | official | fallback | context | describe | binding => cases hq
  | bound l l' =>
    cases hask with
    | hash hcontext input input' =>
      cases ho with
      | some h => exact shown_hash h
    | same hcontext =>
      cases q with
      | resolve secret =>
        cases secret with
        | serviceId => rfl
        | telemetryId => rfl
        | sharedSecret =>
          cases ho with
          | some h => exact shown_key v v' .sharedSecret h
      | hash input =>
        cases ho with
        | some h => exact shown_hash h
      | signature path context =>
        cases ho with
        | some h => exact shown_signature path h
      | load => rfl
      | available => rfl
      | official | fallback | context | describe | binding => cases hq

theorem performIn_system (v : Service) (s : LoadState σ) (c : Connection ι σ) (q : Request) :
    (v.performIn s c q).2.world.system = c.world.system := by
  rw [performIn_connection]
  split <;> rfl

theorem shown_look (hask : AskedAlike (v, q) (v', q')) (hq : q.settles = false) (hc : c.Alike c') :
    (v'.perform c' q').1.shown = (v.perform c q).1.shown := by
  cases hask with
  | hash => cases hq
  | same hcontext =>
    have hbinding := binding_outline_alike hc
    cases q with
    | official => rfl
    | fallback => rfl
    | context => rfl
    | describe =>
      simp only [perform, Reply.shown, Response.outline?, outline, hbinding, hcontext]
    | binding =>
      simp only [perform, Reply.shown, Response.outline?, hbinding]
      rfl
    | resolve | hash | signature | load | available => cases hq

theorem settles_alike (hask : AskedAlike (v, q) (v', q')) : q'.settles = q.settles := by
  cases hask <;> rfl

/-- **One request.** What is seen of it is the same, and so is what will be seen of the connection. -/
theorem perform_alike (hask : AskedAlike (v, q) (v', q')) (hc : c.Alike c')
    (ho : Option.Rel Outcome.Alike (v.outcome? c.settle.1 c.settle.2 q)
      (v'.outcome? c'.settle.1 c'.settle.2 q')) :
    (v'.perform c' q').1.shown = (v.perform c q).1.shown ∧
      (v.perform c q).2.Alike (v'.perform c' q').2 := by
  cases hq : q.settles with
  | false =>
    refine ⟨shown_look hask hq hc, ?_⟩
    rw [perform_of_not_settles hq, perform_of_not_settles ((settles_alike hask).trans hq)]
    exact hc
  | true =>
    obtain ⟨hs, hsettled⟩ := settle_alike hc
    rw [perform_of_settles hq, perform_of_settles ((settles_alike hask).trans hq)]
    refine ⟨shown_performIn hask hs hq ho, ?_⟩
    -- a native call changes nothing but native memory
    refine alike_of_state ?_ ?_ ?_ ?_ hs
    · rw [performIn_binding, performIn_binding, hsettled.library]
    · rw [performIn_system, performIn_system, hsettled.system]
    · rw [performIn_binding, Connection.state_settle]
    · rw [performIn_binding, Connection.state_settle]

/-! ## Runs -/

/-- **Secrets are not shown.** Take two runs that ask the same of services with the same tokens, but for the
inputs of hashes and whatever the static values are, over bindings of the same library in the same host that
come to the same. If each native call comes to the same in both, but for usable keys, hashes and the entries
of maps, then what is seen of every reply is the same, and so is the host in the end with its debug log. -/
theorem secrets_not_shown {run run' : List (Service × Request)} :
    ∀ {c : Connection ι σ} {c' : Connection ι τ}, c.Alike c' → List.Forall₂ AskedAlike run run' →
      List.Forall₂ (Option.Rel Outcome.Alike) (outcomes c run) (outcomes c' run') →
      (Service.run c' run').1.map Reply.shown = (Service.run c run).1.map Reply.shown ∧
        (Service.run c' run').2.world.system = (Service.run c run).2.world.system := by
  induction run generalizing run' with
  | nil =>
    intro c c' hc hrun _
    cases hrun
    exact ⟨rfl, hc.system⟩
  | cons e rest ih =>
    intro c c' hc hrun ho
    obtain ⟨v, q⟩ := e
    cases hrun with
    | @cons _ e' _ rest' hask hrest =>
      obtain ⟨v', q'⟩ := e'
      cases ho with
      | cons ho horest =>
        obtain ⟨hshown, hconnection⟩ := perform_alike hask hc ho
        obtain ⟨hlater, hsystem⟩ := ih hconnection hrest horest
        rw [run_cons, run_cons, List.map_cons, List.map_cons, hshown, hlater]
        exact ⟨rfl, hsystem⟩

/-- Two installations with secrets of their own, whose library is loaded by the first request. -/
theorem secrets_not_shown_scripted :
    let script (key hash name : String) : Script :=
      { keys := [(Secret.sharedSecret.keyId, .ok (some key))]
        hash := .marked hash
        signature := .ok (some (.map [(.str name, .null)])) }
    let c (key hash name : String) : Connection Unit Unit :=
      ⟨⟨"security", .always (.layer (script key hash name).layer), none⟩,
        ⟨{ environment := .empty, files := .empty }, ()⟩⟩
    let v (value : String) : Service := { fallback := ⟨value, value, value, false, .injected "explicit"⟩ }
    let run (value input : String) : List (Service × Request) :=
      [(v value, .describe), (v value, .resolve .sharedSecret), (v value, .hash input),
        (v value, .signature "app.apk" .null), (v value, .load)]
    (c "k-1" "h-1" "sha").Alike (c "k-2" "h-2" "") ∧
      List.Forall₂ AskedAlike (run "a" "payload") (run "b" "") ∧
      List.Forall₂ (Option.Rel Outcome.Alike) (outcomes (c "k-1" "h-1" "sha") (run "a" "payload"))
        (outcomes (c "k-2" "h-2" "") (run "b" "")) ∧
      (Service.run (c "k-2" "h-2" "") (run "b" "")).1.map Reply.shown =
        (Service.run (c "k-1" "h-1" "sha") (run "a" "payload")).1.map Reply.shown := by
  intro script c v run
  have hc : (c "k-1" "h-1" "sha").Alike (c "k-2" "h-2" "") :=
    ⟨rfl, rfl, .none, fun _ => ⟨.layer _ _, rfl⟩⟩
  have hcontext : (v "b").context = (v "a").context := rfl
  have hrun : List.Forall₂ AskedAlike (run "a" "payload") (run "b" "") :=
    .cons (.same hcontext _) (.cons (.same hcontext _) (.cons (.hash hcontext _ _)
      (.cons (.same hcontext _) (.cons (.same hcontext _) .nil))))
  have ho : List.Forall₂ (Option.Rel Outcome.Alike) (outcomes (c "k-1" "h-1" "sha") (run "a" "payload"))
      (outcomes (c "k-2" "h-2" "") (run "b" "")) := by
    have hkey : Outcome.Alike (.key (.value (some "k-1"))) (.key (.value (some "k-2"))) :=
      .key (by decide) (by decide)
    exact .cons .none (.cons (.some hkey) (.cons (.some (.hash _ _)) (.cons (.some (.entries _ _))
      (.cons .none .nil))))
  exact ⟨hc, hrun, ho, (secrets_not_shown hc hrun ho).1⟩

end Service

end Credentials
