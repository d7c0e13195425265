import Credentials.Native.Script
import Credentials.Proofs.Service.Phases
import Mathlib.Logic.Function.Basic

/-!
# What a service reports

A service logs how it came by the shared secret, in one line each time, and logs nothing for the secrets
that are never read from native code. `Reports` is the table of these lines: a failed native call is a
warning, the native value and the lack of a library are not.

Over a run of services, each over a binding of its own or a shared one (`runOver`), the warnings of
resolutions are therefore short of the fallbacks by those that were taken because there was no library
(`warnings_add_unavailable`). `runOver_reports` is the law of a whole run.
-/

namespace Credentials

open Native
open Log (Line)

variable {κ ι σ : Type}

/-! ## One resolution -/

/-- The lines that are logged when a secret is given out, by where it came from. -/
inductive Reports : Secret → Provenance → List Line → Prop where
  | static {s : Secret} (h : s ≠ .sharedSecret) : Reports s (.fallback .staticPolicy) []
  | native :
    Reports .sharedSecret .native [⟨.debug, "shared_secret: resolved from native library"⟩]
  | unavailable :
    Reports .sharedSecret (.fallback .nativeUnavailable)
      [⟨.debug, "shared_secret: native library unavailable, using fallback"⟩]
  | failed (f : Failure) :
    Reports .sharedSecret (.fallback (.nativeFailed f))
      [⟨.warn, "shared_secret: native lookup failed, using fallback: " ++ f.message⟩]

/-- Whether a static value was given out. -/
def Provenance.isFallback : Provenance → Bool
  | .native => false
  | .fallback _ => true

theorem Reports.lines_eq_nil {s : Secret} {p : Provenance} {lines : List Line} (h : Reports s p lines)
    (hs : s ≠ .sharedSecret) : lines = [] := by
  cases h with
  | static => rfl
  | native | unavailable | failed => exact absurd rfl hs

theorem Reports.warnings {p : Provenance} {lines : List Line} (h : Reports .sharedSecret p lines) :
    lines.countP (·.level = .warn) + [p].count (.fallback .nativeUnavailable) =
      [p].countP Provenance.isFallback := by
  cases h with
  | static hs => exact absurd rfl hs
  | native | unavailable | failed => rfl

namespace Service

theorem reports_withAnswer (v : Service) (a : Answer (Option String)) :
    Reports .sharedSecret (v.withAnswer .sharedSecret a).answer.provenance
      (v.withAnswer .sharedSecret a).lines := by
  unfold withAnswer
  cases (a.guarded keyCall).bind (interpretKey keyCall) with
  | ok value => exact .native
  | error f => exact .failed f

theorem reports_resolveIn (v : Service) (s : Secret) (state : LoadState σ) (c : Connection ι σ) :
    Reports s (v.resolveIn s state c).1.answer.provenance (v.resolveIn s state c).1.lines := by
  cases s with
  | serviceId => exact .static (by decide)
  | telemetryId => exact .static (by decide)
  | sharedSecret =>
    cases state with
    | failed f => exact .unavailable
    | bound l => exact reports_withAnswer v _

end Service

/-! ## Runs over several bindings -/

/-- A request to a service over the binding with a name. -/
structure Turn (κ : Type) where
  binding : κ
  service : Service
  request : Request

namespace Service

/-- Performs requests one after the other, each over the binding it names, in one world. Every request
comes back with its reply. -/
def runOver [DecidableEq κ] (bindings : κ → Binding ι σ) (w : World ι σ) :
    List (Turn κ) → List (Turn κ × Reply Response)
  | [] => []
  | t :: rest =>
    let (r, c) := t.service.perform ⟨bindings t.binding, w⟩ t.request
    (t, r) :: runOver (Function.update bindings t.binding c.binding) c.world rest

theorem runOver_single (run : List (Turn Unit)) : ∀ (b : Binding ι σ) (w : World ι σ),
    (runOver (fun _ => b) w run).map Prod.snd =
      (Service.run ⟨b, w⟩ (run.map fun t => (t.service, t.request))).1 := by
  induction run with
  | nil => intro b w; rfl
  | cons t rest ih =>
    intro b w
    have hupdate : ∀ b' : Binding ι σ,
        Function.update (fun _ : Unit => b) t.binding b' = fun _ => b' := fun b' =>
      funext fun _ => Function.update_self ..
    rw [runOver, List.map_cons, List.map_cons, run_cons, hupdate, ih]

theorem map_fst_runOver [DecidableEq κ] (run : List (Turn κ)) :
    ∀ (bindings : κ → Binding ι σ) (w : World ι σ), (runOver bindings w run).map Prod.fst = run := by
  induction run with
  | nil => intro bindings w; rfl
  | cons t rest ih => intro bindings w; rw [runOver, List.map_cons, ih]

theorem exists_perform_of_mem_runOver [DecidableEq κ] {e : Turn κ × Reply Response}
    (run : List (Turn κ)) : ∀ (bindings : κ → Binding ι σ) (w : World ι σ), e ∈ runOver bindings w run →
      ∃ c : Connection ι σ, e.2 = (e.1.service.perform c e.1.request).1 := by
  induction run with
  | nil => intro bindings w he; cases he
  | cons t rest ih =>
    intro bindings w he
    rcases List.mem_cons.mp he with rfl | he
    · exact ⟨⟨bindings t.binding, w⟩, rfl⟩
    · exact ih _ _ he

/-! ## The warnings of a run -/

/-- What a request and its reply say is as `Reports` has it, if the request is a resolution. -/
def Accounted (e : Turn κ × Reply Response) : Prop :=
  ∀ s, e.1.request = .resolve s →
    ∃ r, e.2.answer = .secret r ∧ Reports s r.provenance e.2.lines

theorem accounted_perform (t : Turn κ) (c : Connection ι σ) :
    Accounted (t, (t.service.perform c t.request).1) := by
  intro s hs
  simp only at hs ⊢
  rw [hs]
  exact ⟨(t.service.resolve s c).1.answer, rfl, t.service.reports_resolveIn s c.settle.1 c.settle.2⟩

/-- Where the shared secret came from, if that is what was asked for. -/
def sharedOrigin? (e : Turn κ × Reply Response) : Option Provenance :=
  match e.1.request, e.2.answer with
  | .resolve .sharedSecret, .secret r => some r.provenance
  | _, _ => none

/-- Where the shared secret came from, each time that a run resolved it. -/
def sharedOrigins (served : List (Turn κ × Reply Response)) : List Provenance :=
  served.filterMap sharedOrigin?

def resolutionLines (e : Turn κ × Reply Response) : List Line :=
  match e.1.request with
  | .resolve _ => e.2.lines
  | _ => []

/-- How many warnings the resolutions of a run logged. -/
def warnings (served : List (Turn κ × Reply Response)) : Nat :=
  (served.flatMap resolutionLines).countP (·.level = .warn)

/-- A resolution warns of a fallback, unless it is one that was taken because there was no library. -/
theorem warnings_of_accounted {e : Turn κ × Reply Response} (h : Accounted e) :
    (resolutionLines e).countP (·.level = .warn) +
        (sharedOrigin? e).toList.count (.fallback .nativeUnavailable) =
      (sharedOrigin? e).toList.countP Provenance.isFallback := by
  obtain ⟨⟨binding, v, q⟩, answer, lines⟩ := e
  cases q with
  | resolve s =>
    obtain ⟨r, hr, hreports⟩ := h s rfl
    obtain rfl : answer = .secret r := hr
    cases s with
    | sharedSecret => exact hreports.warnings
    | serviceId | telemetryId =>
      obtain rfl : lines = [] := hreports.lines_eq_nil (by decide)
      rfl
  | _ => rfl

theorem warnings_add_unavailable {served : List (Turn κ × Reply Response)}
    (h : ∀ e ∈ served, Accounted e) :
    warnings served + (sharedOrigins served).count (.fallback .nativeUnavailable) =
      (sharedOrigins served).countP Provenance.isFallback := by
  induction served with
  | nil => rfl
  | cons e rest ih =>
    have hhead := warnings_of_accounted (h e List.mem_cons_self)
    have hrest := ih fun e' he' => h e' (List.mem_cons_of_mem e he')
    have horigins : sharedOrigins (e :: rest) = (sharedOrigin? e).toList ++ sharedOrigins rest := by
      unfold sharedOrigins
      rw [List.filterMap_cons]
      cases sharedOrigin? e <;> rfl
    have hwarnings : warnings (e :: rest) =
        (resolutionLines e).countP (·.level = .warn) + warnings rest := by
      rw [warnings, List.flatMap_cons, List.countP_append]
      rfl
    rw [horigins, List.count_append, List.countP_append, hwarnings]
    omega

/-- **What a run reports.** Whatever services ask for over whatever bindings, and whatever these come to:

* every resolution logs what the table says for where its value came from: for the shared secret one
  line, which is a warning after a failed native call and no warning otherwise, and nothing for the rest;
* the warnings of resolutions and the fallbacks for want of a library are together as many as the
  fallbacks of the shared secret;
* so the warnings are as many as the fallbacks if and only if there was a library each time. -/
theorem runOver_reports [DecidableEq κ] (bindings : κ → Binding ι σ) (w : World ι σ)
    (run : List (Turn κ)) :
    let served := runOver bindings w run
    served.map Prod.fst = run ∧
      (∀ e ∈ served, ∀ s, e.1.request = .resolve s →
        ∃ r, e.2.answer = .secret r ∧ Reports s r.provenance e.2.lines) ∧
      warnings served + (sharedOrigins served).count (.fallback .nativeUnavailable) =
        (sharedOrigins served).countP Provenance.isFallback ∧
      (warnings served = (sharedOrigins served).countP Provenance.isFallback ↔
        .fallback .nativeUnavailable ∉ sharedOrigins served) := by
  intro served
  have haccounted : ∀ e ∈ served, Accounted e := by
    intro e he
    obtain ⟨c, hc⟩ := exists_perform_of_mem_runOver run bindings w he
    have := accounted_perform e.1 c
    rwa [← hc] at this
  have hsum := warnings_add_unavailable haccounted
  refine ⟨map_fst_runOver run bindings w, haccounted, hsum, ?_⟩
  rw [← List.count_eq_zero]
  omega

/-- One library fails, the other one is missing: two fallbacks and one warning. -/
theorem runOver_reports_mixed :
    let script : Script := { keys := [(Secret.sharedSecret.keyId, .ok (some "error"))] }
    let bindings : Bool → Binding Unit Unit := fun b => if b then .ofLayer script.layer else .unavailable
    let w : World Unit Unit := ⟨{ environment := .empty, files := .empty }, ()⟩
    let v : Service := { fallback := ⟨"app-1", "tel-1", "sec-1", false, .injected "explicit"⟩ }
    let run : List (Turn Bool) :=
      [⟨true, v, .resolve .sharedSecret⟩, ⟨false, v, .resolve .serviceId⟩,
        ⟨false, v, .resolve .sharedSecret⟩]
    let e : Turn Bool × Reply Response :=
      (⟨true, v, .resolve .sharedSecret⟩, (v.perform ⟨bindings true, w⟩ (.resolve .sharedSecret)).1)
    e ∈ runOver bindings w run ∧ e.1.request = .resolve .sharedSecret ∧
      (∃ r, e.2.answer = .secret r ∧ Reports .sharedSecret r.provenance e.2.lines) ∧
      (sharedOrigins (runOver bindings w run)).countP Provenance.isFallback = 2 ∧
      warnings (runOver bindings w run) = 1 := by
  intro script bindings w v run e
  obtain ⟨-, hreports, hsum, -⟩ := runOver_reports bindings w run
  have he : e ∈ runOver bindings w run := List.mem_cons_self
  have horigins : sharedOrigins (runOver bindings w run) =
      [.fallback (.nativeFailed (.sentinel "get_key")), .fallback .nativeUnavailable] := by decide
  have hfallbacks : (sharedOrigins (runOver bindings w run)).countP Provenance.isFallback = 2 := by
    rw [horigins]
    rfl
  have hunavailable :
      (sharedOrigins (runOver bindings w run)).count (.fallback .nativeUnavailable) = 1 := by
    rw [horigins]
    rfl
  refine ⟨he, rfl, hreports e he .sharedSecret rfl, hfallbacks, ?_⟩
  omega

/-- A fallback that is taken because there is no library is no warning. -/
theorem unavailable_without_warning :
    let w : World Unit Unit := ⟨{ environment := .empty, files := .empty }, ()⟩
    let v : Service := { fallback := ⟨"app-1", "tel-1", "sec-1", false, .injected "explicit"⟩ }
    let served := runOver (fun _ : Unit => .unavailable) w [⟨(), v, .resolve .sharedSecret⟩]
    sharedOrigins served = [.fallback .nativeUnavailable] ∧
      served.flatMap resolutionLines =
        [⟨.debug, "shared_secret: native library unavailable, using fallback"⟩] ∧
      warnings served ≠ (sharedOrigins served).countP Provenance.isFallback := by
  decide

end Service

end Credentials
