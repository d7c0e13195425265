import Credentials.Native.Search
import Credentials.Proofs.Host.Growth
import Credentials.Proofs.Host.Path

/-!
# The first file decides

A search opens one path: that of the first directory with a file of the library's name, or the bare name
(`Located`). What the system finds there is all that the outcome depends on (`Opened`), and the event before
it is opened cannot come between: what was a loadable file is still one (`searched_searchingOn`). A system is
assumed to open a path as the file it leads to (`Opener.OpensFile`). The one here does so for every path with
a separator (`opensFile_image?`); a name alone, as the empty directory gives it, it looks for elsewhere.
-/

namespace Credentials.Native

open Host (Files)

/-! ## The path -/

/-- The path under which a file is opened that is looked for in directories. -/
inductive Located {ι : Type} (files : Files ι) (directories : List String) (file : String) :
    String → Prop where
  /-- In the first directory that has such a file. -/
  | inDirectory (before : List String) (d : String) (after : List String)
    (hsplit : directories = before ++ d :: after)
    (hbefore : ∀ d' ∈ before, files.isFile (Host.Path.join d' file) = false)
    (hfile : files.isFile (Host.Path.join d file) = true) :
    Located files directories file (Host.Path.join d file)
  /-- By its name alone, if no directory has one. -/
  | bare (hnone : ∀ d ∈ directories, files.isFile (Host.Path.join d file) = false) :
    Located files directories file file

theorem find?_join_eq_none_iff {ι : Type} {files : Files ι} {directories : List String} {file : String} :
    (directories.map (Host.Path.join · file)).find? files.isFile = none ↔
      ∀ d ∈ directories, files.isFile (Host.Path.join d file) = false := by
  simp [List.find?_eq_none]

/-- Which path it is does not depend on how the directories are split. -/
theorem Located.eq_find {ι : Type} {files : Files ι} {directories : List String} {file path : String}
    (h : Located files directories file path) :
    path = ((directories.map (Host.Path.join · file)).find? files.isFile).getD file := by
  cases h with
  | inDirectory before d after hsplit hbefore hfile =>
    rw [hsplit, List.map_append, List.find?_append, find?_join_eq_none_iff.mpr hbefore, List.map_cons,
      List.find?_cons, hfile]
    rfl
  | bare hnone =>
    rw [find?_join_eq_none_iff.mpr hnone]
    rfl

theorem Located.unique {ι : Type} {files : Files ι} {directories : List String} {file path path' : String}
    (h : Located files directories file path) (h' : Located files directories file path') : path = path' :=
  h.eq_find.trans h'.eq_find.symm

theorem located_locate {ι : Type} (files : Files ι) (directories : List String) (name : String) :
    Located files directories (Library.fileName name) (locate files directories name) := by
  unfold locate
  extract_lets file
  cases hfirst : (directories.map (Host.Path.join · file)).find? files.isFile with
  | none => exact .bare (find?_join_eq_none_iff.mp hfirst)
  | some path =>
    rw [List.find?_map, Option.map_eq_some_iff] at hfirst
    obtain ⟨d, hd, rfl⟩ := hfirst
    obtain ⟨hfile, before, after, hsplit, hbefore⟩ := List.find?_eq_some_iff_append.mp hd
    exact .inDirectory before d after hsplit (fun d' hd' => by simpa using hbefore d' hd') hfile

/-- The directories that a variable lists: none if it is not set, else what stands between its colons. -/
inductive Listed : Option String → List String → Prop where
  | unset : Listed none []
  | between (directories : List String) (hne : directories ≠ [])
    (hcolon : ∀ d ∈ directories, ':' ∉ d.toList) : Listed (some (":".intercalate directories)) directories

theorem listed_searchDirectories (e : Host.Environment) :
    Listed (e.path? searchVariable) (searchDirectories e) := by
  unfold searchDirectories
  cases e.path? searchVariable with
  | none => exact .unset
  | some text =>
    have htext : ":".intercalate (Host.Path.searchList text) = text := by
      have hchars : (Host.Path.searchList text).map String.toList = Host.Path.pieces ':' text.toList := by
        simp [Host.Path.searchList, Function.comp_def]
      apply String.toList_inj.mp
      rw [String.toList_intercalate, hchars]
      exact Host.Path.intercalate_pieces ':' text.toList
    have hlisted : Listed (some (":".intercalate (Host.Path.searchList text))) (Host.Path.searchList text) := by
      refine .between _ (by simp [Host.Path.searchList, Host.Path.pieces_ne_nil]) fun d hd => ?_
      obtain ⟨p, hp, rfl⟩ := List.mem_map.mp hd
      rw [String.toList_ofList]
      exact Host.Path.notMem_pieces ':' text.toList p hp
    rwa [htext] at hlisted

/-! ## The outcome -/

variable {σ : Type}

/-- The functions of a native library by name, in the order in which they are looked for, and whether an
image exports them. -/
def Image.symbols (i : Image σ) : List (String × Bool) :=
  [("nk_get_key", i.key?.isSome), ("nk_build_hash", i.hash?.isSome),
    ("nk_get_signature", i.signature?.isSome), ("nk_free_string", i.release?.isSome)]

/-- What opening a library comes to, by what is found to load. -/
inductive Opened (name : String) : Option (Image σ) → Loaded σ → Prop where
  | notLoadable (reason : String) : Opened name none (.refused (.notLoaded name reason))
  /-- The first function that is missing is named. -/
  | lacking {i : Image σ} (before : List (String × Bool)) (symbol : String) (after : List (String × Bool))
    (hsplit : i.symbols = before ++ (symbol, false) :: after) (hbefore : ∀ s ∈ before, s.2 = true) :
    Opened name (some i) (.refused (.missingSymbol name symbol))
  /-- All functions are there, and they are those of the layer. -/
  | complete {i : Image σ} {e : Exports σ} (hkey : i.key? = some e.key) (hhash : i.hash? = some e.hash)
    (hsignature : i.signature? = some e.signature) (hrelease : i.release? = some e.release) :
    Opened name (some i) (.layer e.layer)

/-- The outcome of a loader that opens a library. -/
def Loaded.ofOpened : Except Failure (Library σ) → Loaded σ
  | .ok library => .layer library.exports.layer
  | .error f => .refused f

theorem opened_openBy (opener : Opener σ) (files : Files (Image σ)) (name path : String) :
    Opened name (opener files path) (Loaded.ofOpened (Library.openBy opener files name path)) := by
  unfold Library.openBy
  cases opener files path with
  | none => exact .notLoadable _
  | some i =>
    obtain ⟨key?, hash?, signature?, release?⟩ := i
    -- along the functions in their order, up to the first that is missing
    cases key? with
    | none => exact .lacking [] _ _ rfl (by simp)
    | some key =>
      cases hash? with
      | none => exact .lacking [_] _ _ rfl (by simp)
      | some hash =>
        cases signature? with
        | none => exact .lacking [_, _] _ _ rfl (by simp)
        | some signature =>
          cases release? with
          | none => exact .lacking [_, _, _] _ _ rfl (by simp)
          | some release => exact .complete (e := ⟨key, hash, signature, release⟩) rfl rfl rfl rfl

/-! ## Files that are opened -/

/-- The image that the file under a path is, if it is one. -/
def loadable? (files : Files (Image σ)) (path : String) : Option (Image σ) :=
  match files.lookup path with
  | .found _ (.image i) => some i
  | _ => none

/-- A file under the path is opened as what it is. -/
def Opener.OpensFile (opener : Opener σ) (path : String) : Prop :=
  ∀ files : Files (Image σ), files.isFile path = true → opener files path = loadable? files path

theorem opensFile_image? {path : String} (h : '/' ∈ path.toList) :
    Opener.OpensFile (@Library.image? σ) path := by
  intro files _
  have hne : path ≠ "" := by
    rintro rfl
    cases h
  have hseparator : path.toList.contains '/' = true := by simpa using h
  rw [Library.image?, if_neg hne, if_pos hseparator]
  rfl

theorem loadable?_of_grown {files grown : Files (Image σ)} (h : files.Grown grown) (path : String) :
    loadable? grown path = loadable? files path := by
  have hlookup := Host.Files.grown_lookup h path
  unfold loadable?
  generalize files.lookup path = was at hlookup ⊢
  generalize grown.lookup path = now at hlookup ⊢
  cases hlookup <;> rfl

/-! ## The search -/

/-- What a search comes to that opens a path. -/
structure Searched (opener : Opener σ) (directories : List String) (name : String) (w : World (Image σ) σ)
    (path : String) (r : Loaded σ × World (Image σ) σ) : Prop where
  located : Located w.system.files directories (Library.fileName name) path
  /-- One path is opened, and that is all that happens. -/
  reported : r.2 = w.report (openEvent path)
  /-- What the system finds under the path decides. -/
  opened : Opened name (opener r.2.system.files path) r.1
  /-- Where there is a file, and the system opens it, the file decides. -/
  decided : w.system.files.isFile path = true → opener.OpensFile path →
    Opened name (loadable? w.system.files path) r.1

theorem searchingOn_eq (opener : Opener σ) (directories : List String) (name : String)
    (w : World (Image σ) σ) :
    let path := locate w.system.files directories name
    let now := w.report (openEvent path)
    Loader.searchingOn opener directories name w =
      (.ofOpened (Library.openBy opener now.system.files name path), now) := by
  intro path now
  unfold Loader.searchingOn
  dsimp only
  cases Library.openBy opener now.system.files name path <;> rfl

theorem searched_searchingOn (opener : Opener σ) (directories : List String) (name : String)
    (w : World (Image σ) σ) :
    Searched opener directories name w (locate w.system.files directories name)
      (Loader.searchingOn opener directories name w) := by
  rw [searchingOn_eq]
  generalize hpath : locate w.system.files directories name = path
  have hopened := opened_openBy opener (w.report (openEvent path)).system.files name path
  have hgrown := Host.System.grown_report w.system (openEvent path)
  refine ⟨hpath ▸ located_locate w.system.files directories name, rfl, hopened, fun hfile hopens => ?_⟩
  -- the file is still there after the event, and it is the same if it can be loaded
  rw [← loadable?_of_grown hgrown, ← hopens _ (Host.Files.isFile_of_grown hgrown hfile)]
  exact hopened

end Credentials.Native
