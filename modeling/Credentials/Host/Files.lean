import Credentials.Host.Path
import Credentials.Text.Bytes

/-!
# Files

A tree of directories, files and symbolic links. A path is resolved name by name; links are followed,
at most `linkLimit` of them; a name after a file, a name that is too long and a path with U+0000 lead
nowhere. Reading, writing and making directories are defined through `lookup`.
-/

namespace Credentials.Host

/-- The place of an entry: the names that lead to it from the root. -/
abbrev Location := List String

/-- What stands at a place. The parameter is the type of loadable images, which have no bytes of
interest. -/
inductive Entry (ι : Type) where
  | directory
  | file (bytes : List UInt8)
  | image (content : ι)
  | link (target : String)

/-- A file system: what stands at each place, and where relative paths start. The root is always a
directory. -/
structure Files (ι : Type) where
  entry? : Location → Option (Entry ι)
  workingDirectory : Location := []

inductive Lookup (ι : Type) where
  /-- To an entry, which is no link. -/
  | found (place : Location) (entry : Entry ι)
  /-- To a free place in an existing directory. -/
  | free (place : Location)
  /-- To nothing that could be read or made. -/
  | nowhere

namespace Files

variable {ι : Type}

def empty : Files ι := { entry? := fun _ => none }

/-- The entry at a place; the root is a directory whatever else the tree says. -/
def at? (t : Files ι) (place : Location) : Option (Entry ι) :=
  if place = [] then some .directory else t.entry? place

def put (t : Files ι) (place : Location) (e : Entry ι) : Files ι :=
  { t with entry? := fun p => if p = place then some e else t.entry? p }

theorem at?_put {t : Files ι} {place p : Location} {e : Entry ι} (h : p ≠ []) :
    (t.put place e).at? p = if p = place then some e else t.at? p := by
  simp [at?, put, h]

/-- How many links one path may go through. -/
def linkLimit : Nat := 40

/-- The longest name, in bytes. -/
def nameLimit : Nat := 255

/-- The longest path, in bytes. -/
def pathLimit : Nat := 4095

def walk (t : Files ι) (links : Nat) (place : Location) : List String → Lookup ι
  | [] => .found place .directory
  | name :: rest =>
    if name = "" ∨ name = "." then walk t links place rest
    else if name = ".." then walk t links place.dropLast rest
    else if name.toList.contains '\x00' ∨ nameLimit < name.utf8ByteSize then .nowhere
    else
      match t.at? (place ++ [name]) with
      | none => if rest = [] then .free (place ++ [name]) else .nowhere
      | some .directory => walk t links (place ++ [name]) rest
      | some (.link target) =>
        match links with
        | 0 => .nowhere
        | left + 1 =>
          if target = "" then .nowhere
          else
            walk t left (if Path.isAbsolute target then [] else place) (Path.names target ++ rest)
      | some e => if rest = [] then .found (place ++ [name]) e else .nowhere
termination_by names => (links, names.length)

/-- Where the names of a path lead, from the root or from the working directory. -/
def lookupNames (t : Files ι) (absolute : Bool) (names : List String) : Lookup ι :=
  t.walk linkLimit (if absolute then [] else t.workingDirectory) names

def lookup (t : Files ι) (path : String) : Lookup ι :=
  if path = "" ∨ pathLimit < path.utf8ByteSize then .nowhere
  else t.lookupNames (Path.isAbsolute path) (Path.names path)

def exists? (t : Files ι) (path : String) : Bool :=
  match t.lookup path with
  | .found _ _ => true
  | _ => false

def isFile (t : Files ι) (path : String) : Bool :=
  match t.lookup path with
  | .found _ (.file _) => true
  | .found _ (.image _) => true
  | _ => false

/-- The text of a file. Directories, loadable images and bytes that are no text cannot be read. -/
def readText? (t : Files ι) (path : String) : Option String :=
  match t.lookup path with
  | .found _ (.file bytes) => Text.ofBytes? bytes
  | _ => none

/-- Replaces the contents of the file a path leads to, or makes it. -/
def write? (t : Files ι) (path : String) (bytes : List UInt8) : Option (Files ι) :=
  match t.lookup path with
  | .found place (.file _) => some (t.put place (.file bytes))
  | .found place (.image _) => some (t.put place (.file bytes))
  | .free place => some (t.put place (.file bytes))
  | _ => none

/-- The place a path's file has when it is opened to append to it, made if it is free. -/
def openAppend? (t : Files ι) (path : String) : Option (Location × Files ι) :=
  match t.lookup path with
  | .found place (.file _) => some (place, t)
  | .found place (.image _) => some (place, t)
  | .free place => some (place, t.put place (.file []))
  | _ => none

def append (t : Files ι) (place : Location) (bytes : List UInt8) : Files ι :=
  match t.at? place with
  | some (.file old) => t.put place (.file (old ++ bytes))
  | _ => t

/-- Makes a directory. The name must be free; a link that leads nowhere takes it up. -/
def makeDirectory? (t : Files ι) (absolute : Bool) (parents : List String) (name : String) :
    Option (Files ι) :=
  match t.lookupNames absolute parents, t.lookupNames absolute (parents ++ [name]) with
  | .found parent .directory, .free place =>
    if place = parent ++ [name] then some (t.put place .directory) else none
  | _, _ => none

/-- Makes the directories that the names lead through, one after the other, until one cannot be
made. The first component says whether all of them stand. -/
def makeDirectories (t : Files ι) (absolute : Bool) (done : List String) :
    List String → Bool × Files ι
  | [] => (true, t)
  | name :: rest =>
    match t.lookupNames absolute (done ++ [name]) with
    | .found _ .directory => makeDirectories t absolute (done ++ [name]) rest
    | _ =>
      match t.makeDirectory? absolute done name with
      | some t => makeDirectories t absolute (done ++ [name]) rest
      | none => (false, t)

/-- Writes a file after making the directories that lead to it. Directories that were made stay even
if the file cannot be written. -/
def save (t : Files ι) (path : String) (bytes : List UInt8) : Bool × Files ι :=
  let made :=
    match Path.parentNames? path with
    | none => (true, t)
    | some names =>
      if names.any (·.toList.contains '\x00') then (false, t)
      else t.makeDirectories (Path.isAbsolute path) [] names
  if made.1 then
    match made.2.write? path bytes with
    | some t => (true, t)
    | none => (false, made.2)
  else made

end Files

end Credentials.Host
