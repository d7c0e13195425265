import Credentials.Proofs.Fallback.Assembly
import Credentials.Service.Client

/-!
# What a service is made with

A client and a service that was given no static values look for them in the same places: among what was
given, in the environment and in the user's file. `Layering` says what that comes to, from the variables and
from what is at the path of the user's file, without a loader or a list of sources, and `Client.new_layering`
that both follow it. The library plays no part and is not loaded.
-/

namespace Credentials

namespace Fallback

open Host (Environment Files System)

variable {ι : Type}

/-! ## The rule -/

/-- The first of the values in some places that is neither empty nor the placeholder. -/
def firstUsable? (placeholder : String) (places : List (Option String)) : Option String :=
  (places.filterMap id).find? fun v => v ≠ "" ∧ v ≠ placeholder

/-- The first usable value for a secret: the one given, that of the secret's variable or that of the file. -/
def usableValue? (given : Record) (e : Environment) (file : Record) : Secret → Option String
  | .serviceId => firstUsable? "DEFAULT_SERVICE_APP_ID"
    [given.serviceId, e.textIn? "NATIVEKEYS_SERVICE_APP_ID", file.serviceId]
  | .telemetryId => firstUsable? "DEFAULT_TELEMETRY_APP_ID"
    [given.telemetryId, e.textIn? "NATIVEKEYS_TELEMETRY_APP_ID", file.telemetryId]
  | .sharedSecret => firstUsable? "DEFAULT_SHARED_SECRET"
    [given.sharedSecret, e.textIn? "NATIVEKEYS_SHARED_SECRET", file.sharedSecret]

/-- Whether debug mode is on: as it is forced, else as the environment says if it says it in text, else as
the file says. -/
def debugFlag (forced : Option Bool) (e : Environment) (file : Record) : Bool :=
  match forced, e.textIn? "NATIVEKEYS_DEBUG_BUILD", file.debug with
  | some debug, _, _ => debug
  | none, some text, _ => text = "1" ∨ text.toLower = "true"
  | none, none, some debug => debug
  | none, none, none => false

/-- The secret has no usable value, and it is not the telemetry identifier in debug mode. -/
def Lacks (given : Record) (forced : Option Bool) (e : Environment) (file : Record) (k : Secret) : Prop :=
  usableValue? given e file k = none ∧ ¬ (k = .telemetryId ∧ debugFlag forced e file = true)

/-- What static values come to in a process, if `given` are the values given and debug mode is forced or
not. -/
structure Layering (given : Record) (forced : Option Bool) (s : System ι) (r : Except Failure Config) :
    Prop where
  /-- There are none if the user's file is there and cannot be read, whatever is given, or if a secret
  lacks a value. -/
  fails_iff : (∃ f, r = .error f) ↔
    Unreadable s.files (userFile s.environment) ∨
      ∃ file, Holds s.files (userFile s.environment) file ∧ ∃ k, Lacks given forced s.environment file k
  /-- Those there are were each found first. -/
  values : ∀ c, r = .ok c → ∃ file, Holds s.files (userFile s.environment) file ∧
    c.debug = debugFlag forced s.environment file ∧
    ∀ k, usableValue? given s.environment file k = some (c.value k) ∨
      k = .telemetryId ∧ usableValue? given s.environment file k = none ∧ c.debug = true ∧
        c.value k = "test_debug_id"

/-! ## Three sources -/

theorem usable?_ofRecord (k : Secret) (name : String) (r : Record) :
    Config.usable? k (.ofRecord name r) = (r.value? k).filter fun v => !k.isUnset v := rfl

/-- The environment's own test for empty variables is part of the test for usable values. -/
theorem usable?_ofEnvironment (k : Secret) (e : Environment) :
    Config.usable? k (.ofEnvironment e) = (e.text? k.variableName).filter fun v => !k.isUnset v := by
  show ((e.text? k.variableName).filter (· ≠ "")).filter (fun v => !k.isUnset v) = _
  rw [Option.filter_filter]
  congr 1
  funext v
  by_cases hv : v = "" <;> simp [hv, Secret.isUnset]

/-- The sources of a service: what is given, the environment and the user's file. -/
def layered (given : Record) (e : Environment) (file : Record) : List Source :=
  [.ofRecord "memory" { given with debug := none }, .ofEnvironment e, .ofRecord "file" file]

theorem first?_map_fst (k : Secret) (sources : List Source) :
    (Config.first? k sources).map Prod.fst = sources.findSome? (Config.usable? k) := by
  rw [Config.first?, List.map_findSome?]
  have hfst : ∀ source : Source, ((Config.usable? k source).map (·, source.name)).map Prod.fst =
      Config.usable? k source := by
    intro source
    cases Config.usable? k source <;> rfl
  exact congrArg (fun f => sources.findSome? f) (funext hfst)

theorem find?_filterMap_id (test : String → Bool) (places : List (Option String)) :
    (places.filterMap id).find? test = places.findSome? (·.filter test) := by
  induction places with
  | nil => rfl
  | cons place rest ih =>
    cases place with
    | none => simpa using ih
    | some v =>
      have hfirst : (some v :: rest).filterMap id = v :: rest.filterMap id := rfl
      rw [hfirst, List.find?_cons, List.findSome?_cons, ih]
      cases htest : test v <;> simp [Option.filter, htest]

theorem usableValue?_eq (given : Record) (e : Environment) (file : Record) (k : Secret) :
    usableValue? given e file k =
      firstUsable? k.placeholder [given.value? k, e.text? k.variableName, file.value? k] := by
  cases k <;> rfl

theorem first?_layered (given : Record) (e : Environment) (file : Record) (k : Secret) :
    (Config.first? k (layered given e file)).map Prod.fst = usableValue? given e file k := by
  have hgiven : ({ given with debug := none } : Record).value? k = given.value? k := by cases k <;> rfl
  have htest : (fun v : String => !k.isUnset v) = fun v => decide (v ≠ "" ∧ v ≠ k.placeholder) := by
    funext v
    rw [Bool.eq_iff_iff]
    simp [Secret.isUnset]
  rw [first?_map_fst, usableValue?_eq, firstUsable?, find?_filterMap_id]
  simp only [layered, List.findSome?_cons, List.findSome?_nil, usable?_ofRecord, usable?_ofEnvironment,
    hgiven, htest]

theorem debugOf_layered (given : Record) (forced : Option Bool) (e : Environment) (file : Record) :
    Config.debugOf forced (layered given e file) = debugFlag forced e file := by
  have hswitch : ∀ text, Host.isOn text = decide (text = "1" ∨ text.toLower = "true") := by
    intro text
    rw [Bool.eq_iff_iff]
    simp [Host.isOn]
  have hsay : (layered given e file).findSome? (·.debug?) =
      ((e.text? "NATIVEKEYS_DEBUG_BUILD").map Host.isOn).or file.debug := by
    simp only [layered, List.findSome?_cons, List.findSome?_nil, Source.ofRecord, Source.ofEnvironment,
      Source.debugVariable]
    cases e.text? "NATIVEKEYS_DEBUG_BUILD" <;> cases file.debug <;> rfl
  unfold Config.debugOf debugFlag
  rw [hsay, e.textIn?_eq]
  -- the three that may have a say, in the order in which they are asked
  cases forced with
  | some debug => rfl
  | none =>
    cases e.text? "NATIVEKEYS_DEBUG_BUILD" with
    | some text => exact hswitch text
    | none => cases file.debug <;> rfl

theorem ofSources_layered_empty (forced : Option Bool) (e : Environment) (file : Record) :
    Config.ofSources forced (layered {} e file) =
      Config.ofSources forced [.ofEnvironment e, .ofRecord "file" file] := rfl

theorem offered_layered_iff {given : Record} {e : Environment} {file : Record} {k : Secret} :
    Offered (layered given e file) k ↔ usableValue? given e file k ≠ none := by
  rw [← first?_layered, Ne, Option.map_eq_none_iff, Config.first?_eq_none_iff, Classical.not_not]

theorem usableValue?_of_firstOffer {given : Record} {e : Environment} {file : Record} {k : Secret}
    {value name : String} (h : FirstOffer (layered given e file) k value name) :
    usableValue? given e file k = some value := by
  rw [← first?_layered, Config.first?_eq_some_iff.mpr h]
  rfl

theorem exists_ofSources_layered_iff {given : Record} {forced : Option Bool} {e : Environment}
    {file : Record} :
    (∃ c, Config.ofSources forced (layered given e file) = .ok c) ↔
      ∀ k, ¬ Lacks given forced e file k := by
  simp only [Config.ofSources_eq_ok_iff, Config.exists_merged_iff, offered_layered_iff, debugOf_layered,
    Lacks]
  constructor
  · rintro ⟨hservice, hshared, htelemetry⟩ k ⟨hnone, hdebug⟩
    cases k with
    | serviceId => exact hservice hnone
    | sharedSecret => exact hshared hnone
    | telemetryId =>
      rcases htelemetry with hsome | hon
      · exact hsome hnone
      · exact hdebug ⟨rfl, hon⟩
  · intro h
    refine ⟨fun hnone => h .serviceId ⟨hnone, by simp⟩, fun hnone => h .sharedSecret ⟨hnone, by simp⟩, ?_⟩
    by_cases hon : debugFlag forced e file = true
    · exact .inr hon
    · exact .inl fun hnone => h .telemetryId ⟨hnone, fun hboth => hon hboth.2⟩

theorem values_of_ofSources_layered {given : Record} {forced : Option Bool} {e : Environment}
    {file : Record} {c : Config} (h : Config.ofSources forced (layered given e file) = .ok c) :
    c.debug = debugFlag forced e file ∧
      ∀ k, usableValue? given e file k = some (c.value k) ∨
        k = .telemetryId ∧ usableValue? given e file k = none ∧ c.debug = true ∧
          c.value k = "test_debug_id" := by
  have hmerged := Config.ofSources_eq_ok_iff.mp h
  have hdebug : c.debug = debugFlag forced e file := hmerged.debug_eq.trans (debugOf_layered ..)
  refine ⟨hdebug, fun k => ?_⟩
  cases k with
  | serviceId => exact .inl (usableValue?_of_firstOffer hmerged.serviceId.choose_spec)
  | sharedSecret => exact .inl (usableValue?_of_firstOffer hmerged.sharedSecret.choose_spec)
  | telemetryId =>
    rcases hmerged.telemetryId with ⟨name, hfirst, -⟩ | ⟨hon, hoffered, hid, -⟩
    · exact .inl (usableValue?_of_firstOffer hfirst)
    · refine .inr ⟨rfl, Classical.not_not.mp (mt offered_layered_iff.mpr hoffered), ?_, hid⟩
      exact hmerged.debug_eq.trans hon

/-- Reading the user's file and merging the three sources comes to what the rule says. -/
theorem layering_bind (given : Record) (forced : Option Bool) (s : System ι) :
    Layering given forced s ((Record.ofFile s.files (userPath s.environment)).bind fun file =>
      Config.ofSources forced (layered given s.environment file)) := by
  rw [userPath_eq]
  constructor
  · simp only [unreadable_iff, holds_iff]
    cases hfile : Record.ofFile s.files (userFile s.environment) with
    | error f => simp [Except.bind]
    | ok file =>
      have hok : (∃ c, Config.ofSources forced (layered given s.environment file) = .ok c) ↔
          ∀ k, ¬ Lacks given forced s.environment file k := exists_ofSources_layered_iff
      cases hmerge : Config.ofSources forced (layered given s.environment file) with
      | ok c =>
        have hnone := hok.mp ⟨c, hmerge⟩
        simp [Except.bind, hmerge, hnone]
      | error f =>
        have hsome : ∃ k, Lacks given forced s.environment file k := by
          refine Classical.byContradiction fun hnone => ?_
          obtain ⟨c, hc⟩ := hok.mpr (not_exists.mp hnone)
          cases hmerge.symm.trans hc
        simp [Except.bind, hmerge, hsome]
  · intro c hc
    cases hfile : Record.ofFile s.files (userFile s.environment) with
    | error f =>
      rw [hfile] at hc
      cases hc
    | ok file =>
      rw [hfile] at hc
      exact ⟨file, holds_iff.mpr hfile, values_of_ofSources_layered hc⟩

theorem map_eq_ok_iff {α β : Type} {r : Except Failure α} {f : α → β} {b : β} :
    r.map f = .ok b ↔ ∃ a, r = .ok a ∧ f a = b := by
  cases r <;> simp [Except.map]

/-! ## What is left behind -/

/-- Nothing is left behind by a failure, and by a success nothing but a report that static values were
loaded. -/
def Unobtrusive {α : Type} (s : System ι) (made : Except Failure α × System ι) : Prop :=
  match made.1 with
  | .ok _ => ∃ text, made.2 = s.report ⟨.debug, "FallbackConfigLoader", text⟩
  | .error _ => made.2 = s

theorem Unobtrusive.map {α β : Type} {s : System ι} {made : Except Failure α × System ι}
    (h : Unobtrusive s made) (f : α → β) : Unobtrusive s (made.1.map f, made.2) := by
  unfold Unobtrusive at h ⊢
  cases hmade : made.1 <;> rw [hmade] at h <;> exact h

theorem unobtrusive_load (l : Loader) (s : System ι) : Unobtrusive s (l.load s) := by
  unfold Loader.load
  cases l.config s.environment with
  | ok c => exact ⟨_, rfl⟩
  | error f => rfl

theorem unobtrusive_match (r : Except Failure Loader) (s : System ι) :
    Unobtrusive s (match r with
      | .ok l => l.load s
      | .error f => (.error f, s)) := by
  cases r with
  | ok l => exact unobtrusive_load l s
  | error f => rfl

end Fallback

/-! ## Making services -/

open Fallback (Config Layering Record Unobtrusive layered userPath)
open Native (Binding Image)

variable {σ : Type}

def Client.config (o : ClientOptions) (s : Host.System (Image σ)) :
    Except Fallback.Failure Config × Host.System (Image σ) :=
  match Client.loader o s with
  | .ok l => l.load s
  | .error f => (.error f, s)

theorem Client.config_fst (o : ClientOptions) (s : Host.System (Image σ)) :
    (Client.config o s).1 = (Record.ofFile s.files (userPath s.environment)).bind fun file =>
      Config.ofSources o.debug (layered o.values s.environment file) := by
  unfold Client.config Client.loader Fallback.Loader.addDefaults
  cases Record.ofFile s.files (userPath s.environment) with
  | error f => rfl
  | ok file => exact Fallback.Loader.load_fst _ s

theorem Client.new_eq (o : ClientOptions) (s : Host.System (Image σ)) :
    Client.new o s =
      ((Client.config o s).1.map fun c =>
        (⟨c, .null, .silent⟩, (Client.setup o c).bind (Client.config o s).2.environment),
        (Client.config o s).2) := by
  unfold Client.new Client.config
  cases Client.loader o s with
  | error f => rfl
  | ok l =>
    dsimp only
    rcases l.load s with ⟨_ | _, _⟩ <;> rfl

theorem Setup.config_fst {u : Setup σ} (h : u.fallback = none) (s : Host.System (Image σ)) :
    (u.config s).1 = (Record.ofFile s.files (userPath s.environment)).bind fun file =>
      Config.ofSources none (layered {} s.environment file) := by
  simp only [Setup.config, h, Fallback.loadDefaults, Fallback.Loader.addDefaults]
  cases Record.ofFile s.files (userPath s.environment) with
  | error f => rfl
  | ok file =>
    rw [Fallback.Loader.load_fst]
    exact (Fallback.ofSources_layered_empty none s.environment file).symm

theorem Setup.build_eq (u : Setup σ) (s : Host.System (Image σ)) :
    u.build s =
      ((u.config s).1.map fun c => (⟨c, u.context, u.sink⟩, u.bind (u.config s).2.environment),
        (u.config s).2) := by
  unfold Setup.build
  rcases u.config s with ⟨_ | _, _⟩ <;> rfl

/-- **What a service is made with.** In every process, with its variables and files as they are:

* a client is made with what the layering of its values, the environment and the user's file comes to, with
  debug mode forced as it was asked for. Its library is the one asked for and has not been loaded;
* a service set up without static values is made with what the layering of the environment and the user's
  file comes to. One set up with static values is made, with these, whatever the environment and the files
  are, and the process stays as it was;
* a binding to share is shared as it is, and a new one has not loaded its library. -/
theorem Client.new_layering (o : ClientOptions) (u : Setup σ) (s : Host.System (Image σ)) :
    (Layering o.values o.debug s ((Client.new o s).1.map fun made => made.1.fallback) ∧
      Unobtrusive s (Client.new o s) ∧
      ∀ v b, (Client.new o s).1 = .ok (v, b) →
        b.library = o.library.getD "security" ∧ b.state = none) ∧
    (u.fallback = none →
      Layering {} none s ((u.build s).1.map fun made => made.1.fallback) ∧ Unobtrusive s (u.build s)) ∧
    (∀ c, u.fallback = some c → ∃ b, u.build s = (.ok (⟨c, u.context, u.sink⟩, b), s)) ∧
    ∀ v b, (u.build s).1 = .ok (v, b) →
      u.binding = some b ∨ u.binding = none ∧ b.library = u.library ∧ b.state = none := by
  have hfallback : ∀ (r : Except Fallback.Failure Config) (f : Config → Service × Binding (Image σ) σ),
      (∀ c, (f c).1.fallback = c) → (r.map f).map (fun made => made.1.fallback) = r := by
    intro r f hf
    cases r with
    | error e => rfl
    | ok c => exact congrArg Except.ok (hf c)
  refine ⟨⟨?_, ?_, ?_⟩, fun hnone => ⟨?_, ?_⟩, ?_, ?_⟩
  · rw [Client.new_eq, hfallback _ _ fun _ => rfl, Client.config_fst]
    exact Fallback.layering_bind o.values o.debug s
  · rw [Client.new_eq]
    exact (Fallback.unobtrusive_match (Client.loader o s) s).map _
  · intro v b hmade
    rw [Client.new_eq] at hmade
    obtain ⟨c, -, hc⟩ := Fallback.map_eq_ok_iff.mp hmade
    cases hc
    exact ⟨rfl, rfl⟩
  · rw [Setup.build_eq, hfallback _ _ fun _ => rfl, Setup.config_fst hnone]
    exact Fallback.layering_bind {} none s
  · have hconfig : Unobtrusive s (u.config s) := by
      simp only [Setup.config, hnone, Fallback.loadDefaults]
      exact Fallback.unobtrusive_match _ s
    rw [Setup.build_eq]
    exact hconfig.map _
  · intro c hsome
    have hconfig : u.config s = (.ok c, s) := by simp only [Setup.config, hsome]
    rw [Setup.build_eq, hconfig]
    exact ⟨_, rfl⟩
  · intro v b hmade
    rw [Setup.build_eq] at hmade
    obtain ⟨c, -, hc⟩ := Fallback.map_eq_ok_iff.mp hmade
    cases hc
    unfold Setup.bind
    cases u.binding with
    | some b => exact .inl rfl
    | none => exact .inr ⟨rfl, rfl, rfl⟩

end Credentials
