/-!
# Log levels

Five levels in rising order of weight.
-/

namespace Credentials.Log

/-- How much a log line matters. -/
inductive Level where
  | trace
  | debug
  | info
  | warn
  | error
  deriving DecidableEq, Repr

namespace Level

/-- The place of a level in rising order. -/
def rank : Level → Nat
  | .trace => 0
  | .debug => 1
  | .info => 2
  | .warn => 3
  | .error => 4

/-- Whether a line of this level passes a threshold. -/
def reaches (l threshold : Level) : Bool :=
  threshold.rank ≤ l.rank

def order (a b : Level) : Ordering :=
  compare a.rank b.rank

/-- The level with a name, in any case. No letter outside ASCII has one of these letters as its
lower-case form, so ASCII case is all there is to fold. -/
def ofName? (s : String) : Option Level :=
  let s := s.toLower
  if s = "trace" then some .trace
  else if s = "debug" then some .debug
  else if s = "info" then some .info
  else if s = "warn" ∨ s = "warning" then some .warn
  else if s = "error" then some .error
  else none

/-- The name in log files, padded to five characters. -/
def padded : Level → String
  | .trace => "TRACE"
  | .debug => "DEBUG"
  | .info => "INFO "
  | .warn => "WARN "
  | .error => "ERROR"

/-- The constructor's word in diagnostics. -/
def label : Level → String
  | .trace => "Trace"
  | .debug => "Debug"
  | .info => "Info"
  | .warn => "Warn"
  | .error => "Error"

def name : Level → String
  | .trace => "trace"
  | .debug => "debug"
  | .info => "info"
  | .warn => "warn"
  | .error => "error"

end Level

end Credentials.Log
