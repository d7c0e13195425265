import Credentials.Secret

/-!
# Failures of configuration

Why static values could not be had.
-/

namespace Credentials.Fallback

/-- Why static values could not be had. -/
inductive Failure where
  /-- No layer has a usable value for a secret. -/
  | missing (s : Secret)
  /-- A file could not be read or written. -/
  | io
  /-- The text of a file is not that of a record. -/
  | malformed
  deriving DecidableEq, Repr

namespace Failure

/-- The failure in words; `detail` is what the host has to say about a file. -/
def message (detail : String) : Failure → String
  | .missing s => "No fallback value configured for " ++ s.name
  | .io => "IO error: " ++ detail
  | .malformed => "YAML error: " ++ detail

end Failure

end Credentials.Fallback
