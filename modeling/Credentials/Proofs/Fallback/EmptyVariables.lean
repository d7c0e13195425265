import Credentials.Proofs.Fallback.Merge

/-!
# Empty variables

An empty variable for a secret says as much as one that is not set. The switch of debug mode is different:
while it is empty the environment says that debug mode is off, and no layer below is asked (`Masked`).
`Loader.load_of_cleared` says exactly when it matters to a load that empty variables are set.
-/

namespace Credentials.Fallback

open Host (Environment)

/-- The variables that the environment is asked for. -/
def readVariables : List String := Source.debugVariable :: Secret.all.map Secret.variableName

/-- Some of these variables were empty and are not set any more; no other variable has changed. -/
def Cleared (before after : Environment) : Prop :=
  ∀ name, after.bytes? name = before.bytes? name ∨
    name ∈ readVariables ∧ before.bytes? name = some [] ∧ after.bytes? name = none

theorem cleared_set {e : Environment} {name : String} (hname : name ∈ readVariables)
    (hempty : e.bytes? name = some []) : Cleared e (e.set name none) := by
  intro other
  rw [Host.Environment.bytes?_set]
  split
  · rename_i hother
    subst hother
    exact .inr ⟨hname, hempty, rfl⟩
  · exact .inl rfl

/-- While its switch is empty, the environment is the first to have a say in debug mode. Without it, the
layers below say that debug mode is on. -/
def Masked (l : Loader) (before after : Environment) : Prop :=
  before.text? Source.debugVariable = some "" ∧ after.text? Source.debugVariable = none ∧
    l.forced = none ∧ ∃ above below, l.layers = above ++ .environment :: below ∧
      (∀ layer ∈ above, (layer.source before).debug? = none) ∧
      DebugMode none (below.map (·.source after)) true

/-! ## What a layer says -/

variable {before after : Environment}

theorem Cleared.text? (h : Cleared before after) (name : String) :
    after.text? name = before.text? name ∨ before.text? name = some "" ∧ after.text? name = none := by
  unfold Host.Environment.text?
  rcases h name with hsame | ⟨-, hempty, hnone⟩
  · rw [hsame]
    exact .inl rfl
  · rw [hempty, hnone]
    exact .inr ⟨Text.ofBytes?_toBytes "", rfl⟩

theorem Cleared.value? (h : Cleared before after) (layer : Layer) (k : Secret) :
    (layer.source after).value? k = (layer.source before).value? k := by
  cases layer with
  | environment =>
    show (after.text? k.variableName).filter (· ≠ "") = (before.text? k.variableName).filter (· ≠ "")
    rcases h.text? k.variableName with hsame | ⟨hempty, hnone⟩
    · rw [hsame]
    · rw [hempty, hnone]
      rfl
  | _ => rfl

theorem Cleared.first? (h : Cleared before after) (l : Loader) (k : Secret) :
    Config.first? k (l.sources after) = Config.first? k (l.sources before) := by
  unfold Config.first? Loader.sources
  rw [List.findSome?_map, List.findSome?_map]
  refine congrArg (fun search => l.layers.findSome? search) (funext fun layer => ?_)
  simp only [Function.comp, Config.usable?, h.value? layer k, Layer.name_source]

theorem Cleared.offered_iff (h : Cleared before after) (l : Loader) (k : Secret) :
    Offered (l.sources after) k ↔ Offered (l.sources before) k := by
  simp only [Config.offered_iff, ← Config.first?_eq_some_iff, h.first? l k]

theorem debug?_of_empty (h : before.text? Source.debugVariable = some "") :
    (Layer.environment.source before).debug? = some false := by
  show (before.text? Source.debugVariable).map Host.isOn = some false
  rw [h]
  decide +kernel

theorem debug?_of_unset (h : after.text? Source.debugVariable = none) :
    (Layer.environment.source after).debug? = none := by
  show (after.text? Source.debugVariable).map Host.isOn = none
  rw [h]
  rfl

theorem Cleared.debug? (h : Cleared before after) (layer : Layer) :
    (layer.source after).debug? = (layer.source before).debug? ∨
      layer = .environment ∧ before.text? Source.debugVariable = some "" ∧
        after.text? Source.debugVariable = none := by
  cases layer with
  | environment =>
    rcases h.text? Source.debugVariable with hsame | hswitch
    · refine .inl ?_
      show (after.text? Source.debugVariable).map Host.isOn = (before.text? Source.debugVariable).map Host.isOn
      rw [hsame]
    · exact .inr ⟨rfl, hswitch⟩
  | _ => exact .inl rfl

/-! ## Debug mode -/

/-- What the layers of a list say about debug mode. -/
def said (e : Environment) (layers : List Layer) : Option Bool :=
  layers.findSome? fun layer => (layer.source e).debug?

theorem debugOf_sources (l : Loader) (e : Environment) :
    Config.debugOf l.forced (l.sources e) = (l.forced.or (said e l.layers)).getD false := by
  unfold Config.debugOf Loader.sources
  rw [List.findSome?_map]
  rfl

theorem said_split (e : Environment) (above below : List Layer) (layer : Layer) :
    said e (above ++ layer :: below) = (said e above).or ((layer.source e).debug?.or (said e below)) := by
  unfold said
  rw [List.findSome?_append, List.findSome?_cons]
  cases (layer.source e).debug? <;> rfl

theorem said_congr {layers : List Layer}
    (h : ∀ layer ∈ layers, (layer.source after).debug? = (layer.source before).debug?) :
    said after layers = said before layers := by
  unfold said
  induction layers with
  | nil => rfl
  | cons layer rest ih =>
    rw [List.findSome?_cons, List.findSome?_cons, h layer List.mem_cons_self,
      ih fun other hother => h other (List.mem_cons_of_mem _ hother)]

theorem debugMode_none_iff {layers : List Layer} {debug : Bool} :
    DebugMode none (layers.map (·.source after)) debug ↔ debug = (said after layers).getD false := by
  rw [Config.debugMode_iff]
  exact Iff.of_eq (congrArg (debug = ·) (debugOf_sources ⟨layers, none⟩ after))

theorem Masked.debugOf {l : Loader} (h : Cleared before after) (hmasked : Masked l before after) :
    Config.debugOf l.forced (l.sources before) = false ∧ Config.debugOf l.forced (l.sources after) = true := by
  obtain ⟨hempty, hnone, hforced, above, below, hlayers, habove, hbelow⟩ := hmasked
  have hsilent : said before above = none := List.findSome?_eq_none_iff.mpr habove
  have hsilentAfter : said after above = none := by
    refine List.findSome?_eq_none_iff.mpr fun layer hlayer => ?_
    rcases h.debug? layer with hsame | ⟨rfl, -⟩
    · exact hsame.trans (habove layer hlayer)
    · exact debug?_of_unset hnone
  have hon := debugMode_none_iff.mp hbelow
  rw [debugOf_sources, debugOf_sources, hforced, hlayers, said_split, said_split, hsilent, hsilentAfter,
    debug?_of_empty hempty, debug?_of_unset hnone]
  exact ⟨rfl, hon.symm⟩

theorem Cleared.debugOf (h : Cleared before after) (l : Loader) :
    Config.debugOf l.forced (l.sources after) = Config.debugOf l.forced (l.sources before) ∨
      Masked l before after := by
  rw [debugOf_sources, debugOf_sources]
  cases hforced : l.forced with
  | some debug => exact .inl rfl
  | none =>
    by_cases hchanged : ∀ layer ∈ l.layers, (layer.source after).debug? = (layer.source before).debug?
    · rw [said_congr hchanged]
      exact .inl rfl
    · -- the environment is among the layers, and what it says depends on its switch
      obtain ⟨layer, hmem, hne⟩ : ∃ layer ∈ l.layers,
          (layer.source after).debug? ≠ (layer.source before).debug? := by
        simpa using hchanged
      obtain ⟨rfl, hempty, hnone⟩ := (h.debug? layer).resolve_left hne
      obtain ⟨above, below, hlayers, hfirst⟩ := List.eq_append_cons_of_mem hmem
      have habove : said after above = said before above := by
        refine said_congr fun other hother => ?_
        rcases h.debug? other with hsame | ⟨rfl, -⟩
        · exact hsame
        · exact absurd hother hfirst
      rw [hlayers, said_split, said_split, habove, debug?_of_empty hempty, debug?_of_unset hnone]
      cases hsaid : said before above with
      | some debug => exact .inl rfl
      | none =>
        cases hbelow : (said after below).getD false with
        | true =>
          exact .inr ⟨hempty, hnone, hforced, above, below, hlayers,
            List.findSome?_eq_none_iff.mp hsaid, debugMode_none_iff.mpr hbelow.symm⟩
        | false => exact .inl hbelow

/-! ## Loads -/

namespace Config

variable {forced : Option Bool} {above below : List Source}

theorem ofSources_congr (hfirst : ∀ k, first? k below = first? k above)
    (hdebug : debugOf forced below = debugOf forced above) :
    ofSources forced below = ofSources forced above := by
  simp only [ofSources, telemetry?, hfirst, hdebug]

/-- When debug mode makes a difference to a merge. -/
theorem ofSources_ne_iff (hoffered : ∀ k, Offered below k ↔ Offered above k)
    (hoff : debugOf forced above = false) (hon : debugOf forced below = true) :
    ofSources forced below ≠ ofSources forced above ↔
      ¬ Offered above .telemetryId ∨ Offered above .serviceId ∧ Offered above .sharedSecret := by
  constructor
  · intro hne
    by_cases ht : Offered above .telemetryId
    · refine .inr ?_
      -- with a telemetry identifier, both complain of the same secret or none does
      by_cases hs : Offered above .serviceId
      · refine ⟨hs, Classical.byContradiction fun hshared => hne ?_⟩
        rw [ofSources_of_missing (.sharedSecret (.inl ht) hs hshared),
          ofSources_of_missing (.sharedSecret (.inr hon) ((hoffered _).mpr hs) (mt (hoffered _).mp hshared))]
      · refine absurd ?_ hne
        rw [ofSources_of_missing (.serviceId (.inl ht) hs),
          ofSources_of_missing (.serviceId (.inr hon) (mt (hoffered _).mp hs))]
    · exact .inl ht
  · rintro (ht | ⟨hs, hshared⟩) heq
    · rw [ofSources_of_missing (.telemetryId ht hoff)] at heq
      obtain ⟨k, hk, hmissing⟩ := ofSources_eq_error_iff.mp heq
      cases hk
      cases hmissing with
      | telemetryId _ hdebug => exact absurd (hon.symm.trans hdebug) (by decide)
    · obtain ⟨c, hc⟩ := exists_merged_iff.mpr ⟨(hoffered _).mpr hs, (hoffered _).mpr hshared, .inr hon⟩
      have hboth : ofSources forced above = .ok c := heq ▸ ofSources_of_merged hc
      have hdebug : c.debug = false := (ofSources_eq_ok_iff.mp hboth).debug_eq.trans hoff
      exact absurd (hc.debug_eq.symm.trans hdebug) (by rw [hon]; decide)

end Config

namespace Loader

variable {ι : Type}

/-- **When empty variables matter.** Some variables that were empty are not set any more, and a loader is
loaded before and after. The outcome is another one if and only if the switch of debug mode is among them and
hides, while it is empty, that a layer below puts debug mode on, and debug mode matters: there is no telemetry
identifier, or no secret is missing. -/
theorem load_of_cleared (l : Loader) (s t : Host.System ι) (h : Cleared s.environment t.environment) :
    let sources := l.sources s.environment
    (l.load t).1 ≠ (l.load s).1 ↔ Masked l s.environment t.environment ∧
      (¬ Offered sources .telemetryId ∨ Offered sources .serviceId ∧ Offered sources .sharedSecret) := by
  intro sources
  rw [load_fst, load_fst]
  by_cases hmasked : Masked l s.environment t.environment
  · obtain ⟨hoff, hon⟩ := hmasked.debugOf h
    rw [Config.ofSources_ne_iff (h.offered_iff l) hoff hon]
    exact (and_iff_right hmasked).symm
  · have hsame := Config.ofSources_congr (h.first? l) ((h.debugOf l).resolve_right hmasked)
    exact iff_of_false (fun hne => hne hsame) fun hdiffers => hmasked hdiffers.1

/-- Two empty variables are unset. The one for a secret does not matter, the switch does. -/
theorem load_of_cleared_above_file :
    let file : Record := ⟨some "app-1", some "tel-1", some "sec-1", some true⟩
    let l : Loader := { layers := [.memory { serviceId := some "app-0" }, .environment, .file file] }
    let before := (Environment.empty.set "NATIVEKEYS_SHARED_SECRET" (some [])).set
      "NATIVEKEYS_DEBUG_BUILD" (some [])
    let s : Host.System Unit := { environment := before, files := .empty }
    let t : Host.System Unit := { environment := .empty, files := .empty }
    Cleared before .empty ∧ Masked l before .empty ∧ (l.load t).1 ≠ (l.load s).1 := by
  intro file l before s t
  have hcleared : Cleared before .empty := by
    intro name
    simp only [before, Host.Environment.bytes?_set]
    split
    · rename_i hname
      exact .inr ⟨hname ▸ by decide, rfl, rfl⟩
    · split
      · rename_i hname
        exact .inr ⟨hname ▸ by decide, rfl, rfl⟩
      · exact .inl rfl
  have hmasked : Masked l before .empty := by
    refine ⟨Text.ofBytes?_toBytes "", rfl, rfl, [.memory { serviceId := some "app-0" }], [.file file], rfl, ?_,
      .said rfl [] _ [] rfl (by simp) rfl⟩
    intro layer hlayer
    cases List.mem_singleton.mp hlayer
    rfl
  have hoffered : ∀ k, Offered (l.sources before) k := by
    intro k
    refine ⟨.ofRecord "file" file, by simp [l, Loader.sources, Layer.source], ?_⟩
    cases k with
    | serviceId => exact ⟨"app-1", rfl, by decide, by decide⟩
    | telemetryId => exact ⟨"tel-1", rfl, by decide, by decide⟩
    | sharedSecret => exact ⟨"sec-1", rfl, by decide, by decide⟩
  exact ⟨hcleared, hmasked,
    (load_of_cleared l s t hcleared).mpr ⟨hmasked, .inr ⟨hoffered _, hoffered _⟩⟩⟩

/-- While its switch is empty, a load complains of a missing identifier; without the switch it succeeds. -/
theorem empty_switch_hides_debug :
    let r : Record := { serviceId := some "app-1", sharedSecret := some "sec-1", debug := some true }
    let l : Loader := { layers := [.environment, .memory r] }
    let before := Environment.empty.set "NATIVEKEYS_DEBUG_BUILD" (some [])
    let after := before.set "NATIVEKEYS_DEBUG_BUILD" none
    let s : Host.System Unit := { environment := before, files := .empty }
    Cleared before after ∧ (l.load s).1 = .error (.missing .telemetryId) ∧
      (l.load { s with environment := after }).1 =
        .ok ⟨"app-1", "test_debug_id", "sec-1", true, .debugMode⟩ := by
  intro r l before after s
  refine ⟨cleared_set (by decide) rfl, ?_, ?_⟩
  · have hsilent : Config.debugOf none (l.sources before) = false := by decide +kernel
    have hnone : Config.first? .telemetryId (l.sources before) = none := by decide +kernel
    rw [load_fst]
    show Config.ofSources none (l.sources before) = _
    simp only [Config.ofSources, Config.telemetry?, hsilent, hnone]
    rfl
  · have hdebug : Config.debugOf none (l.sources after) = true := by decide +kernel
    rw [load_fst]
    show Config.ofSources none (l.sources after) = _
    simp only [Config.ofSources, hdebug]
    rfl

end Loader

end Credentials.Fallback
