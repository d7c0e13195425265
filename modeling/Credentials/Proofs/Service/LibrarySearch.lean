import Credentials.Proofs.Native.Search
import Credentials.Proofs.Service.Construction

/-!
# Where a service finds its library

A service that is set up without a loader takes its search directories from the environment of that moment
(`Setup.build_searching`). Whenever its library is loaded, in whatever environment, it is searched for in
these (`Setup.first_file_decides`).
-/

namespace Credentials

open Host (Files)
open Native

variable {σ : Type}

theorem Fallback.Unobtrusive.environment {ι α : Type} {s : Host.System ι}
    {made : Except Fallback.Failure α × Host.System ι} (h : Fallback.Unobtrusive s made) :
    made.2.environment = s.environment := by
  unfold Fallback.Unobtrusive at h
  split at h
  · obtain ⟨text, hmade⟩ := h
    rw [hmade, (s.report_frame _).1]
  · rw [h]

namespace Setup

theorem environment_config (u : Setup σ) (s : Host.System (Image σ)) :
    (u.config s).2.environment = s.environment := by
  unfold config
  cases u.fallback with
  | some c => rfl
  | none => exact (Fallback.unobtrusive_match _ s).environment

theorem build_searching {u : Setup σ} (hloader : u.loader = none) (hbinding : u.binding = none)
    {s : Host.System (Image σ)} {v : Service} {b : Binding (Image σ) σ} (h : (u.build s).1 = .ok (v, b)) :
    b = ⟨u.library, .searching (searchDirectories s.environment), none⟩ := by
  rw [build_eq] at h
  obtain ⟨c, -, hc⟩ := Fallback.map_eq_ok_iff.mp h
  cases hc
  simp only [bind, hloader, hbinding, environment_config, Option.getD_none]

/-- **The first file decides.** Whatever a system finds to load under a path:

* a search opens one path, that of the first directory in which there is a file of the library's name, or
  the bare name if there is none. What is found under the path decides: there is no library, or the first
  function that is missing is named, or there is a layer with all four functions. If the path leads to a file
  and the system opens that file, the file as it is when the search begins decides, and nothing else;
* the system that services run on opens every file that is found in a directory with a name;
* a service that is set up without a loader searches the directories that the environment lists at that
  moment, whenever its library is loaded and whatever the environment is by then. -/
theorem first_file_decides :
    (∀ (opener : Opener σ) (directories : List String) (name : String) (w : World (Image σ) σ),
      ∃ path, Searched opener directories name w path (Loader.searchingOn opener directories name w)) ∧
    (∀ d name : String, d ≠ "" →
      Opener.OpensFile (@Library.image? σ) (Host.Path.join d (Library.fileName name))) ∧
    ∀ (u : Setup σ) (s : Host.System (Image σ)) (v : Service) (b : Binding (Image σ) σ),
      u.loader = none → u.binding = none → (u.build s).1 = .ok (v, b) →
      b.library = u.library ∧ b.isInitialized = false ∧
      Listed (s.environment.path? "NATIVEKEYS_LIBRARY_PATH") (searchDirectories s.environment) ∧
      ∀ w : World (Image σ) σ, ∃ path r,
        Searched Library.image? (searchDirectories s.environment) u.library
          (w.report (Binding.startEvent u.library)) path r ∧
        (Connection.mk b w).settle.1 = LoadState.ofLoaded u.library r.1 ∧
        (Connection.mk b w).settle.2.world =
          r.2.report (Binding.endEvent u.library (LoadState.ofLoaded u.library r.1)) := by
  refine ⟨fun opener directories name w => ⟨_, searched_searchingOn opener directories name w⟩,
    fun d name hd => opensFile_image? (Host.Path.separator_mem_join hd _), ?_⟩
  intro u s v b hloader hbinding hbuilt
  obtain rfl := build_searching hloader hbinding hbuilt
  exact ⟨rfl, rfl, listed_searchDirectories s.environment, fun w =>
    ⟨_, _, searched_searchingOn Library.image? _ u.library _, rfl, rfl⟩⟩

/-- In the first directory there is another one of the library's name, in the second a link that leads
nowhere, and in the third a link to a library that lacks two functions. The variable is gone by the time the
library is loaded. -/
theorem first_file_decides_lacking :
    let image : Image Table :=
      { Image.bare with key? := some Table.exports.key, release? := some Table.exports.release }
    let files : Files (Image Table) :=
      { entry? := ([(["a"], .directory), (["a", "libs.so"], .directory),
          (["b"], .directory), (["b", "libs.so"], .link "/none"),
          (["c"], .directory), (["c", "libs.so"], .link "../x"), (["x"], .image image)].lookup ·) }
    let paths := Text.toBytes "/a:/b:/c:/d"
    let s : Host.System (Image Table) :=
      { environment := Host.Environment.empty.set "NATIVEKEYS_LIBRARY_PATH" (some paths), files }
    let u : Setup Table :=
      { library := "s", fallback := some ⟨"app-1", "tel-1", "sec-1", false, .injected "memory"⟩ }
    let w : World (Image Table) Table := ⟨{ environment := .empty, files }, {}⟩
    "/c" ≠ "" ∧ files.isFile "/c/libs.so" = true ∧ u.loader = none ∧ u.binding = none ∧
      ∃ v b, (u.build s).1 = .ok (v, b) ∧
        (Connection.mk b w).settle.1 = .failed (.missingSymbol "s" "nk_build_hash") := by
  intro image files paths s u w
  have hdirectory : files.lookup "/a/libs.so" = .found ["a", "libs.so"] .directory := by
    have hnames : Host.Path.names "/a/libs.so" = ["", "a", "libs.so"] := by decide
    simp +decide [files, Files.lookup, Files.lookupNames, Files.walk, Files.at?, Files.linkLimit, hnames,
      List.lookup_cons]
  have hnowhere : files.lookup "/b/libs.so" = .free ["none"] := by
    have hnames : Host.Path.names "/b/libs.so" = ["", "b", "libs.so"] := by decide
    have htarget : Host.Path.names "/none" = ["", "none"] := by decide
    have habsolute : Host.Path.isAbsolute "/none" = true := by decide +kernel
    simp +decide [files, Files.lookup, Files.lookupNames, Files.walk, Files.at?, Files.linkLimit, hnames,
      htarget, habsolute, List.lookup_cons]
  have hlibrary : files.lookup "/c/libs.so" = .found ["x"] (.image image) := by
    have hnames : Host.Path.names "/c/libs.so" = ["", "c", "libs.so"] := by decide
    have htarget : Host.Path.names "../x" = ["..", "x"] := by decide
    have hrelative : Host.Path.isAbsolute "../x" = false := by decide +kernel
    simp +decide [files, Files.lookup, Files.lookupNames, Files.walk, Files.at?, Files.linkLimit, hnames,
      htarget, hrelative, List.lookup_cons]
  have hjoin : ∀ d ∈ ["/a", "/b", "/c"], Host.Path.join d "libs.so" = d ++ "/libs.so" := by decide +kernel
  have hfile : files.isFile (Host.Path.join "/c" "libs.so") = true := by
    rw [hjoin _ (by simp)]
    simp [Files.isFile, hlibrary]
  have hthird : Located files (searchDirectories s.environment) "libs.so" (Host.Path.join "/c" "libs.so") := by
    refine .inDirectory ["/a", "/b"] "/c" ["/d"] (by decide +kernel) ?_ hfile
    simp [hjoin, Files.isFile, hdirectory, hnowhere]
  obtain ⟨-, hopens, hsetup⟩ := first_file_decides (σ := Table)
  obtain ⟨-, -, -, hload⟩ := hsetup u s _ _ rfl rfl rfl
  obtain ⟨path, r, hsearched, hstate, -⟩ := hload w
  obtain rfl : path = Host.Path.join "/c" "libs.so" := hsearched.located.unique hthird
  have himage : loadable? files (Host.Path.join "/c" "libs.so") = some image := by
    rw [hjoin _ (by simp)]
    simp [loadable?, hlibrary]
  have hopened : Opened "s" (loadable? files (Host.Path.join "/c" "libs.so")) r.1 :=
    hsearched.decided hfile (hopens "/c" "s" (by decide))
  rw [himage] at hopened
  have hlacks : r.1 = .refused (.missingSymbol "s" "nk_build_hash") := by
    generalize r.1 = outcome at hopened ⊢
    cases hopened with
    | lacking before symbol after hsplit hbefore =>
      -- the first function is there and the second is not
      rcases before with _ | ⟨first, _ | ⟨second, before⟩⟩
      · cases hsplit
      · cases hsplit
        rfl
      · have hsecond : some ("nk_build_hash", false) = some second := congrArg (·[1]?) hsplit
        cases hsecond
        cases hbefore ("nk_build_hash", false) (by simp)
    | complete hkey hhash => cases hhash
  refine ⟨by decide, ?_, rfl, rfl, _, _, rfl, ?_⟩
  · simp [Files.isFile, hlibrary]
  · rw [hstate, hlacks]
    rfl

end Setup

end Credentials
