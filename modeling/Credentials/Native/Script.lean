import Credentials.Native.Layer

/-!
# Scripted layers

A layer that answers each call as a script says and keeps no memory of its own.
-/

namespace Credentials.Native

/-- How a script answers hash calls. -/
inductive HashRule where
  /-- With the input behind a mark. -/
  | marked (mark : String)
  /-- Always with the same text. -/
  | fixed (text : String)
  | failing (f : Failure)

/-- The result that a rule gives for an input. -/
def HashRule.result : HashRule → String → Except Failure String
  | marked mark, input => .ok (mark ++ input)
  | fixed text, _ => .ok text
  | failing f, _ => .error f

/-- The answers of a layer. Of two answers to one key the later one counts; to other keys there is no
value. -/
structure Script where
  keys : List (Int32 × Except Failure (Option String)) := []
  hash : HashRule := .marked "hash:"
  signature : Except Failure (Option Value) := .ok none

namespace Script

def key (s : Script) (id : Int32) : Except Failure (Option String) :=
  (s.keys.reverse.lookup id).getD (.ok none)

def layer {σ : Type} (s : Script) : Layer σ where
  key id _ m := (.ofExcept (s.key id), m)
  hash input _ m := (.ofExcept (s.hash.result input), m)
  signature _ _ m := (.ofExcept s.signature, m)

end Script

end Credentials.Native
