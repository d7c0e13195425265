import Credentials.Native.Binding
import Credentials.Native.Exports

/-!
# Finding a library

A library is looked for under its file name in a list of directories. The first file there decides,
whether it can be loaded or not; without one, the system's own search takes over. How a system opens
what stands under a path is its own affair (`Opener`); the one here knows of no library but those
in files (`Library.image?`).
-/

namespace Credentials.Native

open Host (Files Path.join)

/-- A loadable file: what it exports of the functions of a native library. -/
structure Image (σ : Type) where
  key? : Option (Int32 → Context → σ → Option Handed × σ)
  hash? : Option (String → Context → σ → Option Handed × σ)
  signature? : Option (String → Context → σ → Option Handed × σ)
  release? : Option (Nat → σ → σ)

namespace Image

variable {σ : Type}

/-- The functions of an image, or the name of the first one that is missing. -/
def exports (i : Image σ) : Except String (Exports σ) :=
  match i.key?, i.hash?, i.signature?, i.release? with
  | none, _, _, _ => .error "nk_get_key"
  | _, none, _, _ => .error "nk_build_hash"
  | _, _, none, _ => .error "nk_get_signature"
  | _, _, _, none => .error "nk_free_string"
  | some key, some hash, some signature, some release => .ok ⟨key, hash, signature, release⟩

/-- The image without any of the functions. -/
def bare : Image σ := ⟨none, none, none, none⟩

end Image

/-- What a system finds to load under a path, among its files and elsewhere. -/
abbrev Opener (σ : Type) := Files (Image σ) → String → Option (Image σ)

/-- An opened library. A library that is part of the program has no path. -/
structure Library (σ : Type) where
  name : String
  path : Option String
  exports : Exports σ

namespace Library

variable {σ : Type}

def fileName (name : String) : String := "lib" ++ name ++ ".so"

/-- The image that the system's loader finds under a path. The empty path is the running program, and a
path with one name is searched for among the system's libraries. -/
def image? (files : Files (Image σ)) (path : String) : Option (Image σ) :=
  if path = "" then some .bare
  else if path.toList.contains '/' then
    match files.lookup path with
    | .found _ (.image i) => some i
    | _ => none
  else none

/-- Opens the library that a system finds under a path. -/
def openBy (opener : Opener σ) (files : Files (Image σ)) (name path : String) :
    Except Failure (Library σ) :=
  match opener files path with
  | none => .error (.notLoaded name "not a loadable library")
  | some i =>
    match i.exports with
    | .ok exports => .ok ⟨name, some path, exports⟩
    | .error symbol => .error (.missingSymbol name symbol)

def openAt (files : Files (Image σ)) (name path : String) : Except Failure (Library σ) :=
  openBy image? files name path

end Library

/-! ## Search directories -/

/-- The variable that lists search directories. -/
def searchVariable : String := "NATIVEKEYS_LIBRARY_PATH"

/-- The search directories of an environment. -/
def searchDirectories (e : Host.Environment) : List String :=
  match e.path? searchVariable with
  | some s => Host.Path.searchList s
  | none => []

/-- The path under which a library is opened. -/
def locate {ι : Type} (files : Files ι) (directories : List String) (name : String) : String :=
  let file := Library.fileName name
  ((directories.map (Path.join · file)).find? files.isFile).getD file

/-- The event before a library is opened. -/
def openEvent (path : String) : Host.Event := ⟨.debug, "DynamicLibraryLoader", "Opening " ++ path⟩

/-- The loader that looks in directories, on a system. -/
def Loader.searchingOn {σ : Type} (opener : Opener σ) (directories : List String) :
    Loader (Image σ) σ := fun name w =>
  let path := locate w.system.files directories name
  let w := w.report (openEvent path)
  match Library.openBy opener w.system.files name path with
  | .ok library => (.layer library.exports.layer, w)
  | .error f => (.refused f, w)

/-- The loader that looks in directories. -/
def Loader.searching {σ : Type} (directories : List String) : Loader (Image σ) σ :=
  .searchingOn Library.image? directories

end Credentials.Native
