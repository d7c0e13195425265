/-!
# Secrets

The secrets an application can ask for, the names they have in configuration, environment and on the
native side, and where each may be read from.
-/

namespace Credentials

/-- A secret the application can ask for. -/
inductive Secret where
  /-- The identifier of the service the application talks to. -/
  | serviceId
  /-- The identifier of the crash and telemetry reporter. -/
  | telemetryId
  /-- The signing secret shared with the backend. -/
  | sharedSecret
  deriving DecidableEq, Repr

/-- Where a secret may be read from. -/
inductive Policy where
  /-- Static configuration decides; native code is never asked. -/
  | staticOnly
  /-- Native code is asked first, static configuration stands in for it. -/
  | nativeFirst
  deriving DecidableEq, Repr

namespace Secret

/-- Every secret, in the order of configuration. -/
def all : List Secret := [.serviceId, .telemetryId, .sharedSecret]

theorem mem_all (s : Secret) : s ∈ all := by cases s <;> decide

def name : Secret → String
  | .serviceId => "service_app_id"
  | .telemetryId => "telemetry_app_id"
  | .sharedSecret => "shared_secret"

def ofName? (s : String) : Option Secret :=
  all.find? (·.name == s)

def keyId : Secret → Int32
  | .serviceId => (0xC1000001 : UInt32).toInt32
  | .telemetryId => (0xC1000002 : UInt32).toInt32
  | .sharedSecret => (0xC1000003 : UInt32).toInt32

/-- Only the shared secret is kept on the native side. -/
def policy : Secret → Policy
  | .serviceId => .staticOnly
  | .telemetryId => .staticOnly
  | .sharedSecret => .nativeFirst

/-- The environment variable that holds a static value. -/
def variableName : Secret → String
  | .serviceId => "NATIVEKEYS_SERVICE_APP_ID"
  | .telemetryId => "NATIVEKEYS_TELEMETRY_APP_ID"
  | .sharedSecret => "NATIVEKEYS_SHARED_SECRET"

/-- The value of builds that were never given a real one. -/
def placeholder : Secret → String
  | .serviceId => "DEFAULT_SERVICE_APP_ID"
  | .telemetryId => "DEFAULT_TELEMETRY_APP_ID"
  | .sharedSecret => "DEFAULT_SHARED_SECRET"

/-- Whether a value counts as not configured: it is empty or the secret's own placeholder. -/
def isUnset (s : Secret) (value : String) : Bool :=
  value == "" || value == s.placeholder

theorem isUnset_eq_false {s : Secret} {value : String} :
    s.isUnset value = false ↔ value ≠ "" ∧ value ≠ s.placeholder := by
  simp [isUnset]

/-- The constructor's word in diagnostics. -/
def label : Secret → String
  | .serviceId => "ServiceAppId"
  | .telemetryId => "TelemetryAppId"
  | .sharedSecret => "SharedSecret"

end Secret

def Policy.label : Policy → String
  | .staticOnly => "StaticOnly"
  | .nativeFirst => "NativeFirst"

end Credentials
