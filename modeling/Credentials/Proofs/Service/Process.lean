import Credentials.Native.Search
import Credentials.Proofs.Host.DebugLog
import Credentials.Service.Registry
import Credentials.Service.Setup

/-!
# The debug log of a process

Static values are loaded, libraries are opened and bound and services are installed in one process, which has
one debug log for all of it. Whatever a process does, to its host it is a list of events and of changes to the
environment (`Process.system_run`). So the first event of whichever origin decides what becomes of the log
file (`Process.debugLog_settled_once`).
-/

namespace Credentials

open Fallback (loadDefaults)
open Host (Environment Event Files Happening Moment levelNamed? moments recordsFrom)
open Native (Binding Connection Image Loaded LoadState World)

/-- A process: its host and the memory of its native side, and its registry. -/
structure Process (σ : Type) where
  world : World (Image σ) σ
  registry : Registry Service := {}

/-- What a process does of which its debug log may hear, and what happens to it meanwhile. -/
inductive Deed (σ : Type) where
  | report (e : Event)
  | setVariable (name : String) (value : Option (List UInt8))
  | tick (clock : String)
  /-- Static values are loaded from the layers of a loader. -/
  | load (l : Fallback.Loader)
  | loadDefaults
  /-- A library is looked for in directories and opened. -/
  | openLibrary (directories : List String) (library : String)
  /-- A new binding is asked for its state, over the loader that looks in directories. -/
  | bind (directories : List String) (library : String)
  /-- A new binding is asked for its state, over a loader of the host's own. -/
  | bindTo (library : String) (outcome : Loaded σ)
  | install (v : Service)

namespace Process

variable {σ : Type}

def system (p : Process σ) : Host.System (Image σ) := p.world.system

def onSystem (p : Process σ) (system : Host.System (Image σ)) : Process σ :=
  { p with world := { p.world with system } }

def act (p : Process σ) : Deed σ → Process σ
  | .report e => p.onSystem (p.system.report e)
  | .setVariable name value => p.onSystem (p.system.meet (.setVariable name value))
  | .tick clock => p.onSystem (p.system.meet (.tick clock))
  | .load l => p.onSystem (l.load p.system).2
  | .loadDefaults => p.onSystem (Fallback.loadDefaults p.system).2
  | .openLibrary directories library =>
    { p with world := (Native.Loader.searching directories library p.world).2 }
  | .bind directories library =>
    { p with world := (Connection.mk ⟨library, .searching directories, none⟩ p.world).settle.2.world }
  | .bindTo library outcome =>
    { p with world := (Connection.mk ⟨library, .always outcome, none⟩ p.world).settle.2.world }
  | .install v =>
    let (_, registry, system) := p.registry.install v p.system
    { p.onSystem system with registry }

def run (p : Process σ) (deeds : List (Deed σ)) : Process σ := deeds.foldl act p

def happenings (p : Process σ) : Deed σ → List Happening
  | .report e => [.event e]
  | .setVariable name value => [.setVariable name value]
  | .tick clock => [.tick clock]
  | .load l => loadEvents l p.system
  | .loadDefaults =>
    match ({} : Fallback.Loader).addDefaults p.system.environment p.system.files with
    | .ok l => loadEvents l p.system
    | .error _ => []
  | .openLibrary directories library =>
    [.event (Native.openEvent (Native.locate p.system.files directories library))]
  | .bind directories library =>
    -- the library is looked for after the first event, which may have made the log file
    let world := p.world.report (Binding.startEvent library)
    let outcome := (Native.Loader.searching directories library world).1
    [.event (Binding.startEvent library),
      .event (Native.openEvent (Native.locate world.system.files directories library)),
      .event (Binding.endEvent library (LoadState.ofLoaded library outcome))]
  | .bindTo library outcome =>
    [.event (Binding.startEvent library),
      .event (Binding.endEvent library (LoadState.ofLoaded library outcome))]
  | .install _ => if p.registry.installed.isSome then [.event Registry.rejectedEvent] else []
where
  /-- A load is an event if it succeeds. -/
  loadEvents (l : Fallback.Loader) (s : Host.System (Image σ)) : List Happening :=
    match l.config s.environment with
    | .ok c => [.event (l.loadedEvent c)]
    | .error _ => []

def history (p : Process σ) : List (Deed σ) → List Happening
  | [] => []
  | d :: rest => p.happenings d ++ (p.act d).history rest

theorem system_load (l : Fallback.Loader) (s : Host.System (Image σ)) :
    (l.load s).2 = s.follow (happenings.loadEvents l s) := by
  unfold Fallback.Loader.load happenings.loadEvents
  cases l.config s.environment <;> rfl

theorem world_searching (directories : List String) (library : String) (w : World (Image σ) σ) :
    (Native.Loader.searching directories library w).2 =
      w.report (Native.openEvent (Native.locate w.system.files directories library)) := by
  unfold Native.Loader.searching Native.Loader.searchingOn
  dsimp only
  split <;> rfl

/-- A deed does to the host what it is to the host, and nothing else. -/
theorem system_act (p : Process σ) (d : Deed σ) : (p.act d).system = p.system.follow (p.happenings d) := by
  cases d with
  | report e => rfl
  | setVariable name value => rfl
  | tick clock => rfl
  | load l => exact system_load l p.system
  | loadDefaults =>
    show (Fallback.loadDefaults p.system).2 = _
    simp only [Fallback.loadDefaults, happenings]
    cases ({} : Fallback.Loader).addDefaults p.system.environment p.system.files with
    | ok l => exact system_load l p.system
    | error f => rfl
  | openLibrary directories library =>
    show (Native.Loader.searching directories library p.world).2.system = _
    rw [world_searching]
    rfl
  | bind directories library =>
    have hworld := world_searching directories library (p.world.report (Binding.startEvent library))
    show ((Native.Loader.searching directories library
      (p.world.report (Binding.startEvent library))).2.report _).system = _
    rw [hworld]
    rfl
  | bindTo library outcome => rfl
  | install v =>
    simp only [act, happenings, Registry.install]
    cases p.registry.installed <;> rfl

theorem system_run (deeds : List (Deed σ)) :
    ∀ p : Process σ, (p.run deeds).system = p.system.follow (p.history deeds) := by
  induction deeds with
  | nil => intro p; rfl
  | cons d rest ih =>
    intro p
    rw [history, Host.System.follow_append, ← system_act]
    exact ih (p.act d)

/-- **The debug log is settled once.** A process starts with a debug log that no event has reached, and does
whatever it does while its environment changes.

* As long as there is no event, no file changes.
* The first event decides, whatever its level and its origin. If the environment of that moment does not
  turn the log on, or the log file in its directory for temporary files cannot be opened, no file changes for
  the rest of the run.
* Otherwise the log file holds in the end what it held before, and after it one line for each event of the
  run whose level weighs as much as the threshold of the first moment, in order; and no other file changes. -/
theorem debugLog_settled_once (environment : Environment) (files : Files (Image σ)) (clock : String)
    (memory : σ) (registry : Registry Service) (deeds : List (Deed σ)) :
    let p : Process σ := ⟨⟨{ environment, files, clock }, memory⟩, registry⟩
    let events := moments environment clock (p.history deeds)
    let final := (p.run deeds).system.files
    (events = [] → final = files) ∧
      ∀ first rest, events = first :: rest →
        let wanted := ∃ text, first.environment.textIn? "NATIVEKEYS_DEBUG" = some text ∧
          (text = "1" ∨ text.toLower = "true")
        let threshold := ((first.environment.textIn? "NATIVEKEYS_LOG_LEVEL").bind levelNamed?).getD .debug
        let path := Host.Path.join ((first.environment.pathIn? "TMPDIR").getD "/tmp") "nativekeys-debug.log"
        let opens (place : Host.Location) : Prop := Files.Takes place (files.lookup path)
        (¬ wanted ∨ (∀ place, ¬ opens place) → final = files) ∧
          ∀ place, wanted → opens place →
            final.at? place =
                some (((files.at? place).getD (.file [])).extended (recordsFrom threshold events)) ∧
              ∀ other, other ≠ place → final.at? other = files.at? other := by
  intro p events final
  have hfinal : final = (p.system.follow (p.history deeds)).files := by rw [← system_run]
  refine ⟨fun hnone => ?_, fun first rest hevents => ?_⟩
  · rw [hfinal]
    exact Host.System.follow_of_no_moments _ hnone
  · intro wanted threshold path opens
    have hpath : path = Host.DebugLog.path first.environment := by
      simp only [path, Environment.pathIn?_eq]
      rfl
    refine ⟨fun hoff => ?_, fun place hon hopens => ?_⟩
    · rw [hfinal]
      refine Host.System.files_of_not_opening rfl hevents (Host.opening?_eq_none_iff.mpr ?_)
      rwa [Host.isWanted_iff, Files.openAppend?_eq_none_iff, ← hpath]
    · have hthreshold : threshold = Host.DebugLog.threshold first.environment := by
        simp only [threshold, Host.DebugLog.threshold, funext Host.levelNamed?_eq, Environment.textIn?_eq]
      obtain ⟨opened, hopened⟩ := Files.exists_openAppend?_iff.mpr hopens
      rw [hpath] at hopened
      have hopening := Host.opening?_eq_some_iff.mpr ⟨Host.isWanted_iff.mpr hon, hopened⟩
      have hat := fun q => Host.System.files_of_opening q (s := p.system) rfl hevents hopening
      rw [hfinal]
      constructor
      · rw [hat place, if_pos rfl, ← hevents, hthreshold]
        rfl
      · intro other hother
        rw [hat other, if_neg hother]
        rfl

end Process

end Credentials
