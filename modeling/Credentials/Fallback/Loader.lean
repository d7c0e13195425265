import Credentials.Fallback.Config
import Credentials.Fallback.File
import Credentials.Host.DebugLog

/-!
# Loading static values

A loader holds layers in order and perhaps a forced debug mode. Adding a file reads it; loading reads
the environment, merges the layers and reports the event.
-/

namespace Credentials.Fallback

open Host (System Environment Files)

/-- A list of layers, the first one counting most. -/
structure Loader where
  layers : List Layer := []
  forced : Option Bool := none

namespace Loader

def add (l : Loader) (layer : Layer) : Loader :=
  { l with layers := l.layers ++ [layer] }

def force (l : Loader) (debug : Bool) : Loader :=
  { l with forced := some debug }

def addFile {ι : Type} (l : Loader) (files : Files ι) (path : String) : Except Failure Loader :=
  match Record.ofFile files path with
  | .ok r => .ok (l.add (.file r))
  | .error e => .error e

/-- Appends the environment and the user's file, or nothing if the file cannot be read. -/
def addDefaults {ι : Type} (l : Loader) (e : Environment) (files : Files ι) :
    Except Failure Loader :=
  match Record.ofFile files (userPath e) with
  | .ok r => .ok ((l.add .environment).add (.file r))
  | .error e => .error e

def names (l : Loader) : List String := l.layers.map (·.name)

/-- The sources that the layers are in an environment. -/
def sources (l : Loader) (e : Environment) : List Source := l.layers.map (·.source e)

/-- The merge of the layers in an environment. -/
def config (l : Loader) (e : Environment) : Except Failure Config :=
  Config.ofSources l.forced (l.sources e)

def loadedEvent (l : Loader) (c : Config) : Host.Event where
  level := .debug
  module := "FallbackConfigLoader"
  text :=
    "Loaded fallback config from " ++
      (Text.Outline.list (l.names.map fun n => .atom (Text.quoted n))).flat ++
      " (debug_mode=" ++ (if c.debug then "true" else "false") ++ ")"

/-- Merges the layers and reports success to the debug log. -/
def load {ι : Type} (l : Loader) (s : System ι) : Except Failure Config × System ι :=
  match l.config s.environment with
  | .ok c => (.ok c, s.report (l.loadedEvent c))
  | .error e => (.error e, s)

end Loader

/-- The configuration of the default layers: the environment and the user's file. -/
def loadDefaults {ι : Type} (s : System ι) : Except Failure Config × System ι :=
  match ({} : Loader).addDefaults s.environment s.files with
  | .ok l => l.load s
  | .error e => (.error e, s)

end Credentials.Fallback
