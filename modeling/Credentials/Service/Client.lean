import Credentials.Service.Request
import Credentials.Service.Setup

/-!
# The client

The service as a scripting host sees it: secrets are asked for by name, native code gets no token, and
nothing is logged. Given values go before the environment and the user's file.
-/

namespace Credentials

open Fallback (Record)
open Native (Attributes Binding Connection Image)

/-- What a client is made with. -/
structure ClientOptions where
  /-- The values given. -/
  values : Record := {}
  library : Option String := none
  searchDirectory : Option String := none
  /-- Debug mode, if it is to be forced. -/
  debug : Option Bool := none

/-- What can be asked of a client. -/
inductive ClientRequest where
  | available
  | telemetryId
  | serviceId
  | sharedSecret
  | resolve (name : String)
  | hash (input : String)
  | signature (path : String)
  | official
  | telemetryStatus
  | describe
  deriving DecidableEq, Repr

inductive ClientFailure where
  | unknownSecret (name : String)
  | native (f : Native.Failure)
  deriving DecidableEq, Repr

namespace ClientFailure

def message : ClientFailure → String
  | unknownSecret name =>
    "Unknown secret kind '" ++ name ++
      "' (expected service_app_id, telemetry_app_id or shared_secret)"
  | native f => f.message

end ClientFailure

inductive ClientResponse where
  | flag (b : Bool)
  | text (s : String)
  /-- A value and where it came from. -/
  | resolved (value source : String)
  | attributes (a : Option Attributes)
  | status (t : Fallback.TelemetryStatus) (source description : String)

namespace Client

variable {σ : Type}

/-- The loader of the client's static values. -/
def loader {ι : Type} (o : ClientOptions) (s : Host.System ι) :
    Except Fallback.Failure Fallback.Loader :=
  let given : Fallback.Loader :=
    { layers := [.memory { o.values with debug := none }], forced := o.debug }
  given.addDefaults s.environment s.files

/-- The setup of the client's service with its static values. -/
def setup (o : ClientOptions) (c : Fallback.Config) : Setup σ where
  library := o.library.getD Binding.defaultLibrary
  loader := o.searchDirectory.map fun d => .searching [d]
  fallback := some c

/-- Makes a client: a service and its binding. -/
def new (o : ClientOptions) (s : Host.System (Image σ)) :
    Except Fallback.Failure (Service × Binding (Image σ) σ) × Host.System (Image σ) :=
  match loader o s with
  | .error f => (.error f, s)
  | .ok l =>
    match l.load s with
    | (.error f, s) => (.error f, s)
    | (.ok c, s) => (setup o c).build s

def sourceText : Provenance → String
  | .native => "native"
  | .fallback r => "fallback:" ++ r.outline.flat

/-- The word for the origin of the telemetry identifier. -/
def originText : Fallback.Origin → String
  | .injected s => "injected:" ++ s
  | .debugMode => "debug"

def boolText (b : Bool) : String := if b then "true" else "false"

/-- What the client has to say about telemetry. -/
def statusResponse (t : Fallback.TelemetryStatus) : ClientResponse :=
  let source := originText t.origin
  .status t source
    ("TelemetryStatus(initialized=" ++ boolText t.initialized ++ ", debug_mode=" ++
      boolText t.debug ++ ", source='" ++ source ++ "')")

variable {ι : Type}

def secret (v : Service) (s : Secret) (c : Connection ι σ) :
    Except ClientFailure ClientResponse × Connection ι σ :=
  let (r, c) := v.resolve s c
  (.ok (.text r.answer.value), c)

def perform (v : Service) (c : Connection ι σ) :
    ClientRequest → Except ClientFailure ClientResponse × Connection ι σ
  | .available =>
    let (state, c) := c.settle
    (.ok (.flag state.isAvailable), c)
  | .telemetryId => secret v .telemetryId c
  | .serviceId => secret v .serviceId c
  | .sharedSecret => secret v .sharedSecret c
  | .resolve name =>
    match Secret.ofName? name with
    | none => (.error (.unknownSecret name), c)
    | some s =>
      let (r, c) := v.resolve s c
      (.ok (.resolved r.answer.value (sourceText r.answer.provenance)), c)
  | .hash input =>
    let (r, c) := v.hash input c
    match r.answer with
    | .ok h => (.ok (.text h), c)
    | .error f => (.error (.native f), c)
  | .signature path =>
    let (r, c) := Service.signature path .null c
    (.ok (.attributes r.answer), c)
  | .official => (.ok (.flag Service.isOfficial), c)
  | .telemetryStatus => (.ok (statusResponse v.fallback.status), c)
  | .describe =>
    let (state, c) := c.settle
    (.ok (.text ("NativeSecrets(native_available=" ++ boolText state.isAvailable ++ ")")), c)

/-- Performs requests one after the other. -/
def run (v : Service) (c : Connection ι σ) :
    List ClientRequest → List (Except ClientFailure ClientResponse) × Connection ι σ
  | [] => ([], c)
  | q :: rest =>
    let (r, c) := perform v c q
    let (rs, c) := run v c rest
    (r :: rs, c)

end Client

end Credentials
