import Credentials.Log.Level

/-!
# Log lines and the console

A service reports what it does as lines of a level and a text. A console prints those that reach its
threshold behind its mark, the informative ones to standard output and the others to standard error.
-/

namespace Credentials.Log

structure Line where
  level : Level
  text : String
  deriving DecidableEq, Repr

structure Printed where
  out : String := ""
  err : String := ""
  deriving DecidableEq, Repr

structure Console where
  mark : String := "[nativekeys]"
  threshold : Level := .info

namespace Console

/-- Prints one line if it reaches the threshold. -/
def print (c : Console) (p : Printed) (line : Line) : Printed :=
  if line.level.reaches c.threshold then
    match line.level with
    | .trace => p
    | .debug => { p with err := p.err ++ c.mark ++ " DEBUG: " ++ line.text ++ "\n" }
    | .info => { p with out := p.out ++ c.mark ++ " INFO: " ++ line.text ++ "\n" }
    | .warn => { p with err := p.err ++ c.mark ++ " WARN: " ++ line.text ++ "\n" }
    | .error => { p with err := p.err ++ c.mark ++ " ERROR: " ++ line.text ++ "\n" }
  else p

def printAll (c : Console) (lines : List Line) : Printed :=
  lines.foldl c.print {}

end Console

/-- Where a service's lines go. -/
inductive Sink where
  /-- Nowhere. -/
  | silent
  /-- To the host, which keeps the lines as they are. -/
  | kept
  /-- To the console. -/
  | console (c : Console)

end Credentials.Log
