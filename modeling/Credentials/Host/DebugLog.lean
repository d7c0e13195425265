import Credentials.Host.Environment
import Credentials.Host.Files
import Credentials.Log.Level

/-!
# The host and its debug log

A process has an environment, files and one debug log for events that happen before any logger is
known. The log's settings are taken from the environment at the first event, of whatever level, and
never again: it is off unless `NATIVEKEYS_DEBUG` is on and the log file can be opened at that moment.
-/

namespace Credentials.Host

/-- The state of the debug log. -/
inductive DebugLog where
  /-- No event has happened yet. -/
  | untouched
  /-- Events are dropped for the rest of the process. -/
  | off
  /-- Events from the threshold on are appended to the file. -/
  | on (file : Location) (threshold : Log.Level)

/-- One event of the debug log. -/
structure Event where
  level : Log.Level
  module : String
  text : String
  deriving DecidableEq, Repr

namespace DebugLog

def temporaryDirectory (e : Environment) : String :=
  (e.path? "TMPDIR").getD "/tmp"

def path (e : Environment) : String :=
  Path.join (temporaryDirectory e) "nativekeys-debug.log"

/-- Whether the environment turns the debug log on. -/
def isWanted (e : Environment) : Bool :=
  match e.text? "NATIVEKEYS_DEBUG" with
  | some s => isOn s
  | none => false

/-- The level from which the environment wants events. -/
def threshold (e : Environment) : Log.Level :=
  ((e.text? "NATIVEKEYS_LOG_LEVEL").bind Log.Level.ofName?).getD .debug

/-- One line of the log file. -/
def record (clock : String) (e : Event) : String :=
  "[" ++ clock ++ "] [" ++ e.level.padded ++ "] [" ++ e.module ++ "] " ++ e.text ++ "\n"

end DebugLog

/-- What the process stands in. -/
structure System (ι : Type) where
  environment : Environment
  files : Files ι
  debugLog : DebugLog := .untouched
  /-- The time of day, as it is written into the log. -/
  clock : String := "00:00:00.000"

namespace System

variable {ι : Type}

/-- Fixes the settings of a log that no event has reached yet. -/
def settleLog (s : System ι) : System ι :=
  match s.debugLog with
  | .untouched =>
    if DebugLog.isWanted s.environment then
      match s.files.openAppend? (DebugLog.path s.environment) with
      | some (place, files) =>
        { s with files, debugLog := .on place (DebugLog.threshold s.environment) }
      | none => { s with debugLog := .off }
    else { s with debugLog := .off }
  | _ => s

def report (s : System ι) (e : Event) : System ι :=
  let s := s.settleLog
  match s.debugLog with
  | .on place threshold =>
    if e.level.reaches threshold then
      { s with files := s.files.append place (Text.toBytes (DebugLog.record s.clock e)) }
    else s
  | _ => s

end System

end Credentials.Host
