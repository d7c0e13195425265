import Credentials.Fallback.Failure
import Credentials.Fallback.Source
import Credentials.Text.Outline
import Credentials.Text.Quoted

/-!
# Static values

A complete set of static values, none of which is empty or a placeholder. `ofSources` merges sources:
for each secret the first usable value counts, and the first opinion on debug mode does. In debug mode
the telemetry identifier may be missing and is then a fixed one.
-/

namespace Credentials.Fallback

/-- Where the telemetry identifier came from. -/
inductive Origin where
  /-- From the source with a name. -/
  | injected (source : String)
  /-- It is the identifier of debug builds. -/
  | debugMode
  deriving DecidableEq, Repr

def Origin.outline : Origin → Text.Outline
  | .injected s => .tuple "Injected" [.atom (Text.quoted s)]
  | .debugMode => .atom "DebugMode"

structure Config where
  serviceId : String
  telemetryId : String
  sharedSecret : String
  debug : Bool
  origin : Origin
  deriving DecidableEq, Repr

/-- What there is to say about telemetry. -/
structure TelemetryStatus where
  initialized : Bool
  id : String
  debug : Bool
  origin : Origin
  deriving DecidableEq, Repr

/-- The telemetry identifier of debug builds that have no other. -/
def debugTelemetryId : String := "test_debug_id"

namespace Config

def value (c : Config) : Secret → String
  | .serviceId => c.serviceId
  | .telemetryId => c.telemetryId
  | .sharedSecret => c.sharedSecret

/-- Whether there is a telemetry identifier other than that of debug builds. -/
def isConfigured (c : Config) : Bool :=
  c.telemetryId ≠ "" && c.telemetryId ≠ debugTelemetryId

/-- What there is to say about telemetry. -/
def status (c : Config) : TelemetryStatus :=
  ⟨c.telemetryId ≠ "", c.telemetryId, c.debug, c.origin⟩

/-- A configuration if all its values are usable; otherwise the first secret whose value is not. -/
def check (c : Config) : Except Failure Config :=
  match Secret.all.find? fun s => s.isUnset (c.value s) with
  | some s => .error (.missing s)
  | none => .ok c

theorem check_eq_ok_iff {c d : Config} :
    c.check = .ok d ↔ d = c ∧ ∀ s : Secret, s.isUnset (c.value s) = false := by
  have h : (Secret.all.find? fun s => s.isUnset (c.value s)) = none ↔
      ∀ s : Secret, s.isUnset (c.value s) = false := by
    simp only [List.find?_eq_none]
    exact ⟨fun h s => by simpa using h s s.mem_all, fun h s _ => by simp [h s]⟩
  unfold check
  split
  · rename_i s hs
    constructor
    · intro h; cases h
    · rintro ⟨-, hu⟩
      rw [h.2 hu] at hs
      cases hs
  · rename_i hs
    constructor
    · intro e; cases e; exact ⟨rfl, h.1 hs⟩
    · rintro ⟨rfl, -⟩; rfl

/-- The configuration of three given values. -/
def ofValues (values : Secret → String) : Except Failure Config :=
  check
    { serviceId := values .serviceId, telemetryId := values .telemetryId,
      sharedSecret := values .sharedSecret, debug := false, origin := .injected "explicit" }

/-! ## Merging sources -/

/-- The value of one source for a secret, if it is usable. -/
def usable? (s : Secret) (source : Source) : Option String :=
  (source.value? s).filter fun v => !s.isUnset v

/-- The first usable value for a secret, with the name of its source. -/
def first? (s : Secret) (sources : List Source) : Option (String × String) :=
  sources.findSome? fun source => (usable? s source).map (·, source.name)

/-- Whether debug mode is on: as it is forced, else as the first source with an opinion says. -/
def debugOf (forced : Option Bool) (sources : List Source) : Bool :=
  (forced.or (sources.findSome? (·.debug?))).getD false

/-- The telemetry identifier and its origin. -/
def telemetry? (debug : Bool) (sources : List Source) : Option (String × Origin) :=
  match first? .telemetryId sources with
  | some (value, name) => some (value, .injected name)
  | none => if debug then some (debugTelemetryId, .debugMode) else none

/-- The merge of sources. Of several missing values the telemetry identifier is reported first, then
the service identifier, then the shared secret. -/
def ofSources (forced : Option Bool) (sources : List Source) : Except Failure Config :=
  let debug := debugOf forced sources
  match telemetry? debug sources, first? .serviceId sources, first? .sharedSecret sources with
  | none, _, _ => .error (.missing .telemetryId)
  | _, none, _ => .error (.missing .serviceId)
  | _, _, none => .error (.missing .sharedSecret)
  | some (telemetryId, origin), some (serviceId, _), some (sharedSecret, _) =>
    check { serviceId, telemetryId, sharedSecret, debug, origin }

end Config

end Credentials.Fallback
