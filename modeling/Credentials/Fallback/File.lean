import Credentials.Fallback.Failure
import Credentials.Fallback.Record
import Credentials.Host.Environment
import Credentials.Host.Files
import Credentials.Text.Blank

/-!
# Fallback files

Where the user's file is, and reading and writing records in files. A file that does not exist, or has
nothing in it but white space, is an empty record.
-/

namespace Credentials.Fallback

open Host (Environment Files Path.join)

/-- The user's home directory. Without one in the environment it is that of the account. -/
def homeDirectory (e : Environment) : String :=
  match e.path? "HOME" with
  | some h => if h = "" then "/root" else h
  | none => "/root"

/-- The directory of the user's configuration. -/
def configDirectory (e : Environment) : String :=
  match (e.path? "XDG_CONFIG_HOME").filter Host.Path.isAbsolute with
  | some d => d
  | none => Path.join (homeDirectory e) ".config"

/-- The path of the user's fallback file. -/
def userPath (e : Environment) : String :=
  Path.join (Path.join (configDirectory e) "nativekeys") "fallback.yaml"

namespace Record

/-- The record of a text that may be blank. -/
def ofFileText? (text : String) : Option Record :=
  if Text.allBlank text then some {} else ofText? text

def ofFile {ι : Type} (files : Files ι) (path : String) : Except Failure Record :=
  if files.exists? path then
    match files.readText? path with
    | none => .error .io
    | some text =>
      match ofFileText? text with
      | some r => .ok r
      | none => .error .malformed
  else .ok {}

/-- Writes a record to a file and makes the directories that lead to it. -/
def save {ι : Type} (r : Record) (files : Files ι) (path : String) :
    Except Failure Unit × Files ι :=
  match files.save path (Text.toBytes r.toText) with
  | (true, files) => (.ok (), files)
  | (false, files) => (.error .io, files)

end Record

end Credentials.Fallback
