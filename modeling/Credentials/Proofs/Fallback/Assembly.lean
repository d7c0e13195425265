import Credentials.Proofs.Fallback.Contents
import Credentials.Proofs.Fallback.Merge
import Credentials.Proofs.Host.DebugLog
import Mathlib.Data.List.Forall2

/-!
# When layers are read

A loader is put together step by step while variables are set and files are written around it, and it may be
loaded at any time. What a load comes to is told from the steps before it (`Assembly.load_of_timeline`), each
of which adds sources by a rule of its own (`Step.Adds`): the environment counts as it is at the load, wherever
it was added, a file as it was when it was added, and what the program gave as it was given. A file that cannot
be read is an addition that did not happen.
-/

namespace Credentials.Fallback

open Host (Environment Files System)

variable {ι : Type}

/-! ## Steps -/

/-- What is done to a loader, and what happens around it. -/
inductive Step (ι : Type) where
  | addEnvironment
  | addUserFile
  /-- The environment and the user's file are added together. -/
  | addDefaults
  | addFile (path : String)
  | addMemory (r : Record)
  | force (debug : Bool)
  | setVariable (name : String) (value : Option (List UInt8))
  /-- Files are written, removed or replaced in any way. -/
  | writeFiles (change : Files ι → Files ι)
  | load

inductive StepOutcome where
  | done
  /-- The addition is refused. -/
  | refused (f : Failure)
  | loaded (r : Except Failure Config)

/-- A loader and the process it is put together in. -/
structure Assembly (ι : Type) where
  loader : Loader
  system : System ι

namespace Assembly

/-- Goes on with an extended loader, or with the same one if the extension failed. -/
def extend (a : Assembly ι) : Except Failure Loader → StepOutcome × Assembly ι
  | .ok l => (.done, { a with loader := l })
  | .error f => (.refused f, a)

def step (a : Assembly ι) : Step ι → StepOutcome × Assembly ι
  | .addEnvironment => a.extend (.ok (a.loader.add .environment))
  | .addUserFile => a.extend (a.loader.addFile a.system.files (userPath a.system.environment))
  | .addDefaults => a.extend (a.loader.addDefaults a.system.environment a.system.files)
  | .addFile path => a.extend (a.loader.addFile a.system.files path)
  | .addMemory r => a.extend (.ok (a.loader.add (.memory r)))
  | .force debug => a.extend (.ok (a.loader.force debug))
  | .setVariable name value =>
    (.done, { a with system := { a.system with environment := a.system.environment.set name value } })
  | .writeFiles change => (.done, { a with system := { a.system with files := change a.system.files } })
  | .load =>
    let (r, system) := a.loader.load a.system
    (.loaded r, { a with system })

def run (a : Assembly ι) : List (Step ι) → List StepOutcome × Assembly ι
  | [] => ([], a)
  | q :: rest =>
    let (o, a) := a.step q
    let (os, a) := a.run rest
    (o :: os, a)

/-- The steps of a run, each with the process as it was when the step was taken. -/
def timeline (a : Assembly ι) : List (Step ι) → List (Step ι × System ι)
  | [] => []
  | q :: rest => (q, a.system) :: (a.step q).2.timeline rest

end Assembly

/-! ## The rule -/

namespace Step

/-- The file that a step reads, in an environment. -/
def path? (e : Environment) : Step ι → Option String
  | .addUserFile => some (userFile e)
  | .addDefaults => some (userFile e)
  | .addFile path => some path
  | _ => none

/-- The sources that a step adds, from the process in which it was taken and from the environment now. -/
inductive Adds (taken : System ι) (now : Environment) : Step ι → List Source → Prop where
  | environment : Adds taken now .addEnvironment [environmentSource now]
  | user {r : Record} (h : Holds taken.files (userFile taken.environment) r) :
    Adds taken now .addUserFile [recordSource "file" r]
  | defaults {r : Record} (h : Holds taken.files (userFile taken.environment) r) :
    Adds taken now .addDefaults [environmentSource now, recordSource "file" r]
  | file {path : String} {r : Record} (h : Holds taken.files path r) :
    Adds taken now (.addFile path) [recordSource "file" r]
  | memory (r : Record) : Adds taken now (.addMemory r) [recordSource "memory" r]
  /-- Not even the environment is added with a file that cannot be read. -/
  | refused {q : Step ι} {path : String} (hpath : q.path? taken.environment = some path)
    (h : Unreadable taken.files path) : Adds taken now q []
  | force (debug : Bool) : Adds taken now (.force debug) []
  | setVariable (name : String) (value : Option (List UInt8)) : Adds taken now (.setVariable name value) []
  | writeFiles (change : Files ι → Files ι) : Adds taken now (.writeFiles change) []
  | load : Adds taken now .load []

def forced? : Step ι → Option Bool
  | .force debug => some debug
  | _ => none

def environment (e : Environment) : Step ι → Environment
  | .setVariable name value => ⟨fun n => if n = name then value else e.bytes? n⟩
  | _ => e

/-- A step adds what it adds and nothing else. -/
theorem Adds.unique {taken : System ι} {now : Environment} {q : Step ι} {added added' : List Source}
    (h : q.Adds taken now added) (h' : q.Adds taken now added') : added = added' := by
  have hread : ∀ {path r}, q.path? taken.environment = some path → Holds taken.files path r →
      ∀ {path'}, q.path? taken.environment = some path' → ¬ Unreadable taken.files path' := by
    intro path r hpath hr path' hpath'
    cases hpath.symm.trans hpath'
    exact hr.not_unreadable
  cases h with
  | user hr =>
    cases h' with
    | user hr' => rw [hr.unique hr']
    | refused hpath hbad => exact absurd hbad (hread rfl hr hpath)
  | defaults hr =>
    cases h' with
    | defaults hr' => rw [hr.unique hr']
    | refused hpath hbad => exact absurd hbad (hread rfl hr hpath)
  | file hr =>
    cases h' with
    | file hr' => rw [hr.unique hr']
    | refused hpath hbad => exact absurd hbad (hread rfl hr hpath)
  | refused hpath hbad =>
    cases h' with
    | user hr | defaults hr | file hr => exact absurd hbad (hread rfl hr hpath)
    | environment | memory => cases hpath
    | _ => rfl
  | environment | memory =>
    cases h' with
    | refused hpath => cases hpath
    | _ => rfl
  | _ =>
    cases h' with
    | _ => rfl

end Step

namespace Assembly

theorem run_cons (a : Assembly ι) (q : Step ι) (rest : List (Step ι)) :
    a.run (q :: rest) = ((a.step q).1 :: ((a.step q).2.run rest).1, ((a.step q).2.run rest).2) := rfl

theorem run_append (before after : List (Step ι)) : ∀ a : Assembly ι,
    a.run (before ++ after) =
      ((a.run before).1 ++ ((a.run before).2.run after).1, ((a.run before).2.run after).2) := by
  induction before with
  | nil => intro a; rfl
  | cons q rest ih =>
    intro a
    rw [List.cons_append, run_cons, run_cons, ih]
    rfl

theorem length_run (steps : List (Step ι)) : ∀ a : Assembly ι, (a.run steps).1.length = steps.length := by
  induction steps with
  | nil => intro a; rfl
  | cons q rest ih =>
    intro a
    rw [run_cons, List.length_cons, List.length_cons, ih]

/-! ## One step -/

theorem extend_system (a : Assembly ι) (r : Except Failure Loader) :
    (a.extend r).2.system = a.system := by
  cases r <;> rfl

theorem environment_load (l : Loader) (s : System ι) : (l.load s).2.environment = s.environment := by
  unfold Loader.load
  split
  · exact (s.report_frame _).1
  · rfl

theorem at?_load (l : Loader) (s : System ι) {p : Host.Location}
    (h : ∀ threshold, (l.load s).2.debugLog ≠ .on p threshold) :
    (l.load s).2.files.at? p = s.files.at? p := by
  unfold Loader.load at h ⊢
  split at h
  · exact s.at?_report _ h
  · rfl

theorem load_of_unheard {l : Loader} {s : System ι}
    (h : s.debugLog = .off ∨ ∃ f, (l.load s).1 = .error f) : (l.load s).2 = s := by
  unfold Loader.load at h ⊢
  split at h
  · rcases h with hoff | ⟨f, hf⟩
    · exact System.report_off hoff _
    · cases hf
  · rfl

theorem environment_step (a : Assembly ι) (q : Step ι) :
    (a.step q).2.system.environment = q.environment a.system.environment := by
  cases q with
  | setVariable name value => rfl
  | writeFiles change => rfl
  | load => exact environment_load a.loader a.system
  | _ => rw [step, extend_system]; rfl

theorem forced_step (a : Assembly ι) (q : Step ι) :
    (a.step q).2.loader.forced = q.forced?.or a.loader.forced := by
  have hfile : ∀ path, (a.extend (a.loader.addFile a.system.files path)).2.loader.forced =
      a.loader.forced := by
    intro path
    unfold Loader.addFile
    cases Record.ofFile a.system.files path <;> rfl
  cases q with
  | addUserFile => exact hfile _
  | addFile path => exact hfile _
  | addDefaults =>
    simp only [step, Loader.addDefaults]
    cases Record.ofFile a.system.files (userPath a.system.environment) <;> rfl
  | _ => rfl

theorem sources_add (l : Loader) (layer : Layer) (now : Environment) :
    (l.add layer).sources now = l.sources now ++ [layer.source now] := by
  simp [Loader.sources, Loader.add]

/-- What a step adds to the layers is what the rule says, at every later time. -/
theorem sources_step (a : Assembly ι) (q : Step ι) (now : Environment) :
    ∃ added, q.Adds a.system now added ∧
      (a.step q).2.loader.sources now = a.loader.sources now ++ added := by
  have hmemory : ∀ r, (a.loader.add (.memory r)).sources now =
      a.loader.sources now ++ [recordSource "memory" r] := by
    intro r
    rw [sources_add, ← ofRecord_eq]
    rfl
  have hfile : ∀ (l : Loader) r, (l.add (.file r)).sources now =
      l.sources now ++ [recordSource "file" r] := by
    intro l r
    rw [sources_add, ← ofRecord_eq]
    rfl
  have henvironment : (a.loader.add .environment).sources now =
      a.loader.sources now ++ [environmentSource now] := by
    rw [sources_add, ← ofEnvironment_eq]
    rfl
  have hnothing : a.loader.sources now = a.loader.sources now ++ [] := (List.append_nil _).symm
  cases q with
  | addEnvironment => exact ⟨_, .environment, henvironment⟩
  | addMemory r => exact ⟨_, .memory r, hmemory r⟩
  | addUserFile =>
    simp only [step, Loader.addFile, userPath_eq]
    cases hread : Record.ofFile a.system.files (userFile a.system.environment) with
    | ok r => exact ⟨_, .user (holds_iff.mpr hread), hfile _ r⟩
    | error f => exact ⟨[], .refused rfl (unreadable_iff.mpr ⟨f, hread⟩), hnothing⟩
  | addFile path =>
    simp only [step, Loader.addFile]
    cases hread : Record.ofFile a.system.files path with
    | ok r => exact ⟨_, .file (holds_iff.mpr hread), hfile _ r⟩
    | error f => exact ⟨[], .refused rfl (unreadable_iff.mpr ⟨f, hread⟩), hnothing⟩
  | addDefaults =>
    simp only [step, Loader.addDefaults, userPath_eq]
    cases hread : Record.ofFile a.system.files (userFile a.system.environment) with
    | ok r =>
      refine ⟨_, .defaults (holds_iff.mpr hread), ?_⟩
      show ((a.loader.add .environment).add (.file r)).sources now = _
      rw [hfile, henvironment, List.append_assoc]
      rfl
    | error f => exact ⟨[], .refused rfl (unreadable_iff.mpr ⟨f, hread⟩), hnothing⟩
  | force debug => exact ⟨[], .force debug, hnothing⟩
  | setVariable name value => exact ⟨[], .setVariable name value, hnothing⟩
  | writeFiles change => exact ⟨[], .writeFiles change, hnothing⟩
  | load => exact ⟨[], .load, hnothing⟩

theorem refused_extend_iff (a : Assembly ι) {r : Except Failure Loader} {f : Failure} :
    (a.extend r).1 = .refused f ↔ r = .error f := by
  cases r <;> simp [extend]

theorem refused_iff (a : Assembly ι) (q : Step ι) :
    (∃ f, (a.step q).1 = .refused f) ↔
      ∃ path, q.path? a.system.environment = some path ∧ Unreadable a.system.files path := by
  have hfile : ∀ path, (∃ f, a.loader.addFile a.system.files path = .error f) ↔
      Unreadable a.system.files path := by
    intro path
    rw [unreadable_iff]
    unfold Loader.addFile
    cases Record.ofFile a.system.files path <;> simp
  have hdefaults : (∃ f, a.loader.addDefaults a.system.environment a.system.files = .error f) ↔
      Unreadable a.system.files (userFile a.system.environment) := by
    rw [unreadable_iff, ← userPath_eq]
    unfold Loader.addDefaults
    cases Record.ofFile a.system.files (userPath a.system.environment) <;> simp
  cases q with
  | addUserFile => simp [step, refused_extend_iff, hfile, Step.path?, userPath_eq]
  | addFile path => simp [step, refused_extend_iff, hfile, Step.path?]
  | addDefaults => simp [step, refused_extend_iff, hdefaults, Step.path?]
  | _ => simp [step, extend, Step.path?]

theorem step_of_refused {a : Assembly ι} {q : Step ι} {f : Failure} (h : (a.step q).1 = .refused f) :
    (a.step q).2 = a := by
  have hextend : ∀ {r}, (a.extend r).1 = .refused f → (a.extend r).2 = a := by
    intro r hr
    rw [(a.refused_extend_iff).mp hr]
    rfl
  cases q with
  | setVariable name value => cases h
  | writeFiles change => cases h
  | load => cases h
  | _ => exact hextend h

/-! ## Runs -/

theorem environment_run (steps : List (Step ι)) : ∀ a : Assembly ι,
    (a.run steps).2.system.environment = steps.foldl Step.environment a.system.environment := by
  induction steps with
  | nil => intro a; rfl
  | cons q rest ih =>
    intro a
    rw [run_cons, ih, environment_step]
    rfl

theorem forced_run (steps : List (Step ι)) : ∀ a : Assembly ι,
    (a.run steps).2.loader.forced = ((steps.filterMap Step.forced?).getLast?).or a.loader.forced := by
  induction steps with
  | nil => intro a; rfl
  | cons q rest ih =>
    intro a
    rw [run_cons, ih, forced_step, List.filterMap_cons]
    cases q.forced? with
    | none => rfl
    | some debug => cases hlast : (rest.filterMap Step.forced?).getLast? <;> simp [List.getLast?_cons, hlast]

theorem sources_run (now : Environment) (steps : List (Step ι)) : ∀ a : Assembly ι,
    ∃ parts, List.Forall₂ (fun m added => m.1.Adds m.2 now added) (a.timeline steps) parts ∧
      (a.run steps).2.loader.sources now = a.loader.sources now ++ parts.flatten := by
  induction steps with
  | nil => intro a; exact ⟨[], .nil, (List.append_nil _).symm⟩
  | cons q rest ih =>
    intro a
    obtain ⟨added, hadded, hstep⟩ := a.sources_step q now
    obtain ⟨parts, hparts, hrest⟩ := ih (a.step q).2
    refine ⟨added :: parts, .cons hadded hparts, ?_⟩
    rw [run_cons, hrest, hstep, List.append_assoc]
    rfl

/-- **When layers are read.** A loader starts empty, and `steps` are taken whatever they come to; `a` is
what they lead to, and `rest` are the steps after.

* The steps added sources in one way, which depends on the process as it was at each step and on the
  environment as it has become by now. A load that comes next is the merge of these, in order, with debug mode
  as it was forced last.
* The load leaves the loader and the environment as they are, and of the files it may change that of the
  debug log. If the debug log is off, or the load fails, it changes nothing.
* An addition that comes next is refused if and only if there is a file that cannot be read. Then the loader
  and the process are as they were, and all steps after it come to what they come to without it. -/
theorem load_of_timeline (system : System ι) (steps rest : List (Step ι)) :
    let start : Assembly ι := ⟨{}, system⟩
    let a := (start.run steps).2
    let now := steps.foldl Step.environment system.environment
    let forced := (steps.filterMap Step.forced?).getLast?
    (∃ parts debug r,
        (∀ ps, List.Forall₂ (fun m added => m.1.Adds m.2 now added) (start.timeline steps) ps ↔ ps = parts) ∧
        (∀ d, DebugMode forced parts.flatten d ↔ d = debug) ∧
        (start.run (steps ++ .load :: rest)).1[steps.length]? = some (.loaded r) ∧
        (∀ c, r = .ok c ↔ Merged parts.flatten debug c) ∧
        ∀ f, r = .error f ↔ ∃ k, f = .missing k ∧ FirstMissing parts.flatten debug k) ∧
      ((a.step .load).2.loader = a.loader ∧ (a.step .load).2.system.environment = now ∧
        (∀ place, (∀ threshold, (a.step .load).2.system.debugLog ≠ .on place threshold) →
          (a.step .load).2.system.files.at? place = a.system.files.at? place) ∧
        (a.system.debugLog = .off ∨ (∃ f, (a.step .load).1 = .loaded (.error f)) → (a.step .load).2 = a)) ∧
      ∀ q,
        ((∃ f, (a.step q).1 = .refused f) ↔
          ∃ path, q.path? now = some path ∧ Unreadable a.system.files path) ∧
        ∀ f, (a.step q).1 = .refused f → (a.step q).2 = a ∧
          (start.run (steps ++ q :: rest)).1 = (start.run steps).1 ++ .refused f :: (a.run rest).1 ∧
          (start.run (steps ++ rest)).1 = (start.run steps).1 ++ (a.run rest).1 := by
  intro start a now forced
  have hnow : a.system.environment = now := environment_run steps start
  obtain ⟨parts, hparts, hsources⟩ := sources_run now steps start
  have hforced : a.loader.forced = forced := by
    rw [forced_run]
    exact Option.or_none
  refine ⟨?_, ?_, ?_⟩
  · have hload : (a.loader.load a.system).1 = Config.ofSources forced parts.flatten := by
      rw [Loader.load_fst, hnow, hforced, hsources]
      rfl
    have hunique : Relator.RightUnique fun (m : Step ι × System ι) added => m.1.Adds m.2 now added :=
      fun _ _ _ => Step.Adds.unique
    refine ⟨parts, Config.debugOf forced parts.flatten, _, fun ps => ?_,
      fun d => Config.debugMode_iff, ?_, fun c => Config.ofSources_eq_ok_iff,
      fun f => Config.ofSources_eq_error_iff⟩
    · constructor
      · intro hps
        exact hunique.forall₂ hps hparts
      · rintro rfl
        exact hparts
    · rw [run_append, List.getElem?_append_right (Nat.le_of_eq (length_run steps start)), length_run,
        Nat.sub_self, run_cons, ← hload]
      rfl
  · refine ⟨rfl, (environment_load a.loader a.system).trans hnow, fun place => at?_load a.loader a.system, ?_⟩
    intro hunheard
    have hload : (a.loader.load a.system).2 = a.system := by
      refine load_of_unheard (hunheard.imp_right fun ⟨f, hf⟩ => ⟨f, ?_⟩)
      exact StepOutcome.loaded.inj hf
    show Assembly.mk a.loader (a.loader.load a.system).2 = a
    rw [hload]
  · intro q
    rw [← hnow]
    refine ⟨refused_iff a q, fun f hf => ⟨step_of_refused hf, ?_, ?_⟩⟩
    · rw [run_append, run_cons, step_of_refused hf, hf]
    · rw [run_append]

end Assembly

end Credentials.Fallback
