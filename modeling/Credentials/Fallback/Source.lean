import Credentials.Fallback.Record
import Credentials.Host.Environment

/-!
# Sources of static values

A source has a name, a value for some secrets and perhaps an opinion on debug mode. A `Layer` says how
to come by a source when values are loaded: what was read from a file or given by the program stays as
it was, while the environment is read anew.
-/

namespace Credentials.Fallback

/-- What one source says at one moment. -/
structure Source where
  name : String
  value? : Secret → Option String
  debug? : Option Bool

namespace Source

def ofRecord (name : String) (r : Record) : Source := ⟨name, r.value?, r.debug⟩

def debugVariable : String := "NATIVEKEYS_DEBUG_BUILD"

/-- What the environment says. An empty variable is no value. -/
def ofEnvironment (e : Host.Environment) : Source where
  name := "env"
  value? s := (e.text? s.variableName).filter (· ≠ "")
  debug? := (e.text? debugVariable).map Host.isOn

end Source

inductive Layer where
  /-- The environment, at the time values are loaded. -/
  | environment
  /-- The contents of a file, at the time the layer was added. -/
  | file (r : Record)
  /-- Values given by the program. -/
  | memory (r : Record)
  /-- A source of the host's own. -/
  | custom (s : Source)

namespace Layer

/-- The source that a layer is in an environment. -/
def source (e : Host.Environment) : Layer → Source
  | environment => .ofEnvironment e
  | file r => .ofRecord "file" r
  | memory r => .ofRecord "memory" r
  | custom s => s

/-- The name of a layer's source, which no environment changes. -/
def name : Layer → String
  | environment => "env"
  | file _ => "file"
  | memory _ => "memory"
  | custom s => s.name

theorem name_source (e : Host.Environment) (l : Layer) : (l.source e).name = l.name := by
  cases l <;> rfl

end Layer

namespace Record

/-- A record of the given values, all of them present. -/
def ofValues (values : Secret → String) : Record :=
  { serviceId := values .serviceId, telemetryId := values .telemetryId,
    sharedSecret := values .sharedSecret }

def size (r : Record) : Nat :=
  Secret.all.countP fun s => (r.value? s).isSome

end Record

end Credentials.Fallback
