import Credentials.Proofs.Fallback.Valid

/-!
# What layers merge to

A source offers a value for a secret if it has one that is neither empty nor the secret's placeholder. A
load takes, secret by secret, the first value that is offered (`FirstOffer`), and debug mode from the first
source that has a say in it, unless it is forced (`DebugMode`). `Merged` says what set of values a load
comes to and `FirstMissing` of which secret it complains; `load_correct` says that it does so exactly. The
check at the end of a load is never what stops it (`Config.check_eq_ok_of_merged`).
-/

namespace Credentials.Fallback

/-- The source has a value for the secret that can be used. -/
def Source.Offers (source : Source) (s : Secret) (value : String) : Prop :=
  source.value? s = some value ∧ value ≠ "" ∧ value ≠ s.placeholder

/-- Some source offers a value for the secret. -/
def Offered (sources : List Source) (s : Secret) : Prop :=
  ∃ source ∈ sources, ∃ value, source.Offers s value

/-- The first source that offers a value for the secret has this name and offers this value. -/
def FirstOffer (sources : List Source) (s : Secret) (value name : String) : Prop :=
  ∃ before source after, sources = before ++ source :: after ∧ ¬ Offered before s ∧
    source.Offers s value ∧ source.name = name

/-- Debug mode is as it is forced, or as the first source says that has a say, or else off. -/
inductive DebugMode (forced : Option Bool) (sources : List Source) : Bool → Prop where
  | forced {debug : Bool} (h : forced = some debug) : DebugMode forced sources debug
  | said {debug : Bool} (h : forced = none) (before : List Source) (source : Source)
    (after : List Source) (hsources : sources = before ++ source :: after)
    (hbefore : ∀ earlier ∈ before, earlier.debug? = none) (hsource : source.debug? = some debug) :
    DebugMode forced sources debug
  | unsaid (h : forced = none) (hsources : ∀ source ∈ sources, source.debug? = none) :
    DebugMode forced sources false

/-- The set of values that sources merge to. -/
structure Merged (sources : List Source) (debug : Bool) (c : Config) : Prop where
  debug_eq : c.debug = debug
  serviceId : ∃ name, FirstOffer sources .serviceId c.serviceId name
  sharedSecret : ∃ name, FirstOffer sources .sharedSecret c.sharedSecret name
  telemetryId :
    (∃ name, FirstOffer sources .telemetryId c.telemetryId name ∧ c.origin = .injected name) ∨
      debug = true ∧ ¬ Offered sources .telemetryId ∧ c.telemetryId = "test_debug_id" ∧
        c.origin = .debugMode

/-- The first secret that is missing, in the order of complaint. In debug mode the telemetry identifier
cannot be. -/
inductive FirstMissing (sources : List Source) (debug : Bool) : Secret → Prop where
  | telemetryId (h : ¬ Offered sources .telemetryId) (hdebug : debug = false) :
    FirstMissing sources debug .telemetryId
  | serviceId (ht : Offered sources .telemetryId ∨ debug = true) (h : ¬ Offered sources .serviceId) :
    FirstMissing sources debug .serviceId
  | sharedSecret (ht : Offered sources .telemetryId ∨ debug = true)
    (hs : Offered sources .serviceId) (h : ¬ Offered sources .sharedSecret) :
    FirstMissing sources debug .sharedSecret

namespace Config

/-! ## The searches -/

theorem usable?_eq_some_iff {s : Secret} {source : Source} {value : String} :
    usable? s source = some value ↔ source.Offers s value := by
  simp [usable?, Option.filter_eq_some_iff, Source.Offers, Secret.isUnset_eq_false]

theorem usable?_eq_none_iff {s : Secret} {source : Source} :
    usable? s source = none ↔ ∀ value, ¬ source.Offers s value := by
  constructor
  · intro h value hoffers
    rw [← usable?_eq_some_iff, h] at hoffers
    cases hoffers
  · intro h
    cases husable : usable? s source with
    | none => rfl
    | some value => exact absurd (usable?_eq_some_iff.mp husable) (h value)

theorem first?_eq_none_iff {s : Secret} {sources : List Source} :
    first? s sources = none ↔ ¬ Offered sources s := by
  simp [first?, List.findSome?_eq_none_iff, usable?_eq_none_iff, Offered]

theorem first?_eq_some_iff {s : Secret} {sources : List Source} {value name : String} :
    first? s sources = some (value, name) ↔ FirstOffer sources s value name := by
  have hbefore : ∀ before : List Source,
      (∀ earlier ∈ before, (usable? s earlier).map (·, earlier.name) = none) ↔ ¬ Offered before s := by
    intro before
    simp [usable?_eq_none_iff, Offered]
  have hsource : ∀ source : Source,
      (usable? s source).map (·, source.name) = some (value, name) ↔
        source.Offers s value ∧ source.name = name := by
    intro source
    rw [← usable?_eq_some_iff]
    cases usable? s source <;> simp
  simp only [first?, List.findSome?_eq_some_iff, FirstOffer, hbefore, hsource]
  constructor
  · rintro ⟨before, source, after, hsources, hoffers, hfirst⟩
    exact ⟨before, source, after, hsources, hfirst, hoffers⟩
  · rintro ⟨before, source, after, hsources, hfirst, hoffers⟩
    exact ⟨before, source, after, hsources, hoffers, hfirst⟩

theorem offered_iff {s : Secret} {sources : List Source} :
    Offered sources s ↔ ∃ value name, FirstOffer sources s value name := by
  constructor
  · intro h
    cases hfirst : first? s sources with
    | none => exact absurd h (first?_eq_none_iff.mp hfirst)
    | some p => exact ⟨p.1, p.2, first?_eq_some_iff.mp hfirst⟩
  · rintro ⟨value, name, before, source, after, rfl, -, hoffers, -⟩
    exact ⟨source, by simp, value, hoffers⟩

theorem debugMode_iff {forced : Option Bool} {sources : List Source} {debug : Bool} :
    DebugMode forced sources debug ↔ debug = debugOf forced sources := by
  unfold debugOf
  constructor
  · intro h
    cases h with
    | forced h => simp [h]
    | said h before source after hsources hbefore hsource =>
      have hfirst : sources.findSome? (·.debug?) = some debug :=
        List.findSome?_eq_some_iff.mpr ⟨before, source, after, hsources, hsource, hbefore⟩
      simp [h, hfirst]
    | unsaid h hsources =>
      have hfirst : sources.findSome? (·.debug?) = none := List.findSome?_eq_none_iff.mpr hsources
      simp [h, hfirst]
  · rintro rfl
    cases forced with
    | some debug => exact .forced rfl
    | none =>
      cases hfirst : sources.findSome? (·.debug?) with
      | none => exact .unsaid rfl (List.findSome?_eq_none_iff.mp hfirst)
      | some debug =>
        obtain ⟨before, source, after, hsources, hsource, hbefore⟩ :=
          List.findSome?_eq_some_iff.mp hfirst
        exact .said rfl before source after hsources hbefore hsource

/-! ## The merge -/

variable {forced : Option Bool} {sources : List Source} {debug : Bool} {c : Config}

theorem telemetry?_eq_some_iff {id : String} {origin : Origin} :
    telemetry? debug sources = some (id, origin) ↔
      (∃ name, FirstOffer sources .telemetryId id name ∧ origin = .injected name) ∨
        debug = true ∧ ¬ Offered sources .telemetryId ∧ id = "test_debug_id" ∧
          origin = .debugMode := by
  unfold telemetry?
  cases hfirst : first? .telemetryId sources with
  | some p =>
    obtain ⟨value, name⟩ := p
    have hoffered : Offered sources .telemetryId :=
      offered_iff.mpr ⟨value, name, first?_eq_some_iff.mp hfirst⟩
    simp only [← first?_eq_some_iff, hfirst, Option.some.injEq, Prod.mk.injEq, hoffered]
    grind
  | none =>
    have hoffered : ¬ Offered sources .telemetryId := first?_eq_none_iff.mp hfirst
    simp only [← first?_eq_some_iff, hfirst, hoffered, debugTelemetryId]
    cases debug <;> simp [eq_comm]

theorem telemetry?_eq_none_iff :
    telemetry? debug sources = none ↔ ¬ Offered sources .telemetryId ∧ debug = false := by
  rw [← first?_eq_none_iff]
  unfold telemetry?
  cases first? .telemetryId sources <;> cases debug <;> simp

/-- What is merged passes the check: the searches skip what the check would refuse, and the identifier of
debug builds is neither empty nor a placeholder. -/
theorem check_eq_ok_of_merged (h : Merged sources debug c) : c.check = .ok c := by
  have hoffer : ∀ {s : Secret} {value name : String}, FirstOffer sources s value name →
      s.isUnset value = false := by
    rintro s value name ⟨before, source, after, -, -, hoffers, -⟩
    exact Secret.isUnset_eq_false.mpr hoffers.2
  refine check_eq_ok_iff.mpr ⟨rfl, ?_⟩
  intro s
  cases s with
  | serviceId => exact hoffer h.serviceId.choose_spec
  | sharedSecret => exact hoffer h.sharedSecret.choose_spec
  | telemetryId =>
    rcases h.telemetryId with ⟨name, hfirst, -⟩ | ⟨-, -, hid, -⟩
    · exact hoffer hfirst
    · have hvalue : c.value .telemetryId = "test_debug_id" := hid
      rw [hvalue]
      decide

theorem ofSources_of_merged (h : Merged sources (debugOf forced sources) c) :
    ofSources forced sources = .ok c := by
  obtain ⟨serviceName, hservice⟩ := h.serviceId
  obtain ⟨sharedName, hshared⟩ := h.sharedSecret
  have htelemetry : telemetry? c.debug sources = some (c.telemetryId, c.origin) := by
    rw [h.debug_eq]
    exact telemetry?_eq_some_iff.mpr h.telemetryId
  simp only [ofSources, ← h.debug_eq, htelemetry, first?_eq_some_iff.mpr hservice,
    first?_eq_some_iff.mpr hshared]
  exact check_eq_ok_of_merged h

theorem ofSources_of_missing {s : Secret} (h : FirstMissing sources (debugOf forced sources) s) :
    ofSources forced sources = .error (.missing s) := by
  have htelemetry : Offered sources .telemetryId ∨ debugOf forced sources = true →
      ∃ p, telemetry? (debugOf forced sources) sources = some p := by
    intro h
    cases ht : telemetry? (debugOf forced sources) sources with
    | some p => exact ⟨p, rfl⟩
    | none =>
      obtain ⟨hoffered, hdebug⟩ := telemetry?_eq_none_iff.mp ht
      rcases h with h | h
      · exact absurd h hoffered
      · exact absurd (h.symm.trans hdebug) (by decide)
  cases h with
  | telemetryId h hdebug => simp only [ofSources, telemetry?_eq_none_iff.mpr ⟨h, hdebug⟩]
  | serviceId ht h =>
    obtain ⟨p, hp⟩ := htelemetry ht
    simp only [ofSources, hp, first?_eq_none_iff.mpr h]
  | sharedSecret ht hs h =>
    obtain ⟨p, hp⟩ := htelemetry ht
    obtain ⟨value, name, hservice⟩ := offered_iff.mp hs
    simp only [ofSources, hp, first?_eq_some_iff.mpr hservice, first?_eq_none_iff.mpr h]

theorem merged_or_missing (sources : List Source) (debug : Bool) :
    (∃ c, Merged sources debug c) ∨ ∃ s, FirstMissing sources debug s := by
  cases htelemetry : telemetry? debug sources with
  | none =>
    obtain ⟨h, hdebug⟩ := telemetry?_eq_none_iff.mp htelemetry
    exact .inr ⟨_, .telemetryId h hdebug⟩
  | some p =>
    obtain ⟨telemetryId, origin⟩ := p
    have ht := telemetry?_eq_some_iff.mp htelemetry
    have hhas : Offered sources .telemetryId ∨ debug = true := by
      rcases ht with ⟨name, hfirst, -⟩ | ⟨hdebug, -⟩
      · exact .inl (offered_iff.mpr ⟨_, name, hfirst⟩)
      · exact .inr hdebug
    by_cases hservice : Offered sources .serviceId
    · by_cases hshared : Offered sources .sharedSecret
      · obtain ⟨serviceId, serviceName, hservice⟩ := offered_iff.mp hservice
        obtain ⟨sharedSecret, sharedName, hshared⟩ := offered_iff.mp hshared
        exact .inl ⟨⟨serviceId, telemetryId, sharedSecret, debug, origin⟩, rfl,
          ⟨serviceName, hservice⟩, ⟨sharedName, hshared⟩, ht⟩
      · exact .inr ⟨_, .sharedSecret hhas hservice hshared⟩
    · exact .inr ⟨_, .serviceId hhas hservice⟩

theorem ofSources_eq_ok_iff :
    ofSources forced sources = .ok c ↔ Merged sources (debugOf forced sources) c := by
  refine ⟨fun h => ?_, ofSources_of_merged⟩
  rcases merged_or_missing sources (debugOf forced sources) with ⟨d, hd⟩ | ⟨s, hs⟩
  · rw [ofSources_of_merged hd] at h
    cases h
    exact hd
  · rw [ofSources_of_missing hs] at h
    cases h

theorem ofSources_eq_error_iff {f : Failure} :
    ofSources forced sources = .error f ↔
      ∃ s, f = .missing s ∧ FirstMissing sources (debugOf forced sources) s := by
  constructor
  · intro h
    rcases merged_or_missing sources (debugOf forced sources) with ⟨d, hd⟩ | ⟨s, hs⟩
    · rw [ofSources_of_merged hd] at h
      cases h
    · rw [ofSources_of_missing hs] at h
      cases h
      exact ⟨s, rfl, hs⟩
  · rintro ⟨s, rfl, hs⟩
    exact ofSources_of_missing hs

theorem exists_merged_iff :
    (∃ c, Merged sources debug c) ↔ Offered sources .serviceId ∧ Offered sources .sharedSecret ∧
      (Offered sources .telemetryId ∨ debug = true) := by
  constructor
  · rintro ⟨c, h⟩
    refine ⟨offered_iff.mpr ⟨_, h.serviceId⟩, offered_iff.mpr ⟨_, h.sharedSecret⟩, ?_⟩
    rcases h.telemetryId with ⟨name, hfirst, -⟩ | ⟨hdebug, -⟩
    · exact .inl (offered_iff.mpr ⟨_, name, hfirst⟩)
    · exact .inr hdebug
  · rintro ⟨hservice, hshared, htelemetry⟩
    rcases merged_or_missing sources debug with h | ⟨s, hs⟩
    · exact h
    · cases hs with
      | telemetryId h hdebug =>
        rcases htelemetry with ht | ht
        · exact absurd ht h
        · exact absurd (ht.symm.trans hdebug) (by decide)
      | serviceId ht h => exact absurd hservice h
      | sharedSecret ht hs h => exact absurd hshared h

end Config

namespace Loader

variable {ι : Type}

theorem load_fst (l : Loader) (s : Host.System ι) :
    (l.load s).1 = Config.ofSources l.forced (l.sources s.environment) := by
  unfold load config
  cases Config.ofSources l.forced (l.sources s.environment) <;> rfl

theorem sources_custom (given : List Source) (forced : Option Bool) (e : Host.Environment) :
    (Loader.mk (given.map .custom) forced).sources e = given := by
  have hsource : (fun layer : Layer => layer.source e) ∘ Layer.custom = id := rfl
  rw [sources, List.map_map, hsource, List.map_id]

/-- **What a load comes to.** Layers of the host's own are the sources they are given as, in every environment,
so the layers can be any sources. Whatever they are and whether debug mode is forced or not, they say one
thing about debug mode, and with it

* a load succeeds exactly with the set of values that the layers merge to, and fails exactly with the first
  secret that is missing;
* so it succeeds if and only if a service identifier and a shared secret are offered, and a telemetry
  identifier is or debug mode is on;
* no value of what is loaded is empty or the placeholder of its secret. -/
theorem load_correct (l : Loader) (s : Host.System ι) :
    let sources := l.sources s.environment
    (∀ given forced e, (Loader.mk (given.map .custom) forced).sources e = given) ∧
    ∃ debug, (∀ d, DebugMode l.forced sources d ↔ d = debug) ∧
      (∀ c, (l.load s).1 = .ok c ↔ Merged sources debug c) ∧
      (∀ f, (l.load s).1 = .error f ↔ ∃ k, f = .missing k ∧ FirstMissing sources debug k) ∧
      ((∃ c, (l.load s).1 = .ok c) ↔ Offered sources .serviceId ∧ Offered sources .sharedSecret ∧
        (Offered sources .telemetryId ∨ debug = true)) ∧
      ∀ c, (l.load s).1 = .ok c → ∀ k : Secret, c.value k ≠ "" ∧ c.value k ≠ k.placeholder := by
  intro sources
  have hok : ∀ c, (l.load s).1 = .ok c ↔ Merged sources (Config.debugOf l.forced sources) c := by
    intro c
    rw [load_fst]
    exact Config.ofSources_eq_ok_iff
  refine ⟨sources_custom, Config.debugOf l.forced sources, fun d => Config.debugMode_iff, hok, ?_, ?_, ?_⟩
  · intro f
    rw [load_fst]
    exact Config.ofSources_eq_error_iff
  · rw [← Config.exists_merged_iff]
    exact exists_congr hok
  · intro c hc k
    exact Secret.isUnset_eq_false.mp (Config.Obtainable.isUnset_value (.loaded l s hc) k)

end Loader

end Credentials.Fallback
