import Credentials.Yaml.Node.Read
import Credentials.Yaml.Token.Scan

/-!
# Documents

A stream holds at most one document here: directives, a start marker, which may be missing if there are
no directives, a node and end markers.
-/

namespace Credentials.Yaml

/-- A document: its node, with the anchors that its aliases refer to. -/
structure Document where
  root : Node Nat
  anchors : Anchors

def standardHandles : Handles := [("!", "!"), ("!!", "tag:yaml.org,2002:")]

structure Preamble where
  versioned : Bool := false
  handles : Handles := []

namespace Preamble

/-- Adds a directive. The version must be 1.1 or 1.2 and given once, and a handle must be defined
once. -/
def add (p : Preamble) : Directive → Option Preamble
  | .version major minor =>
    if p.versioned || major ≠ 1 || (minor ≠ 1 && minor ≠ 2) then none
    else some { p with versioned := true }
  | .tag handle stem =>
    if (p.handles.lookup handle).isSome then none
    else some { p with handles := p.handles ++ [(handle, stem)] }

/-- Reads the directives before a document. -/
def read (p : Preamble) : List Token → Option (Preamble × List Token)
  | .directive d :: rest =>
    match p.add d with
    | some p => read p rest
    | none => none
  | rest => some (p, rest)

end Preamble

namespace Document

/-- Whether the tokens of a document start with a directive or with the start marker. -/
def hasStart : List Token → Bool
  | .directive _ :: _ => true
  | .documentStart :: _ => true
  | _ => false

/-- Whether nothing stands between the start marker and what comes next. -/
def isBlank : List Token → Bool
  | [] => true
  | .documentEnd :: _ => true
  | tokens => hasStart tokens

/-- Enough steps to read the nodes of a list of tokens. -/
def steps (tokens : List Token) : Nat := 4 * tokens.length + 4

/-- The node of a document and the tokens after it. -/
def readRoot (tokens : List Token) : Option (Node String × List Token) :=
  if hasStart tokens then
    match ({} : Preamble).read tokens with
    | some (p, .documentStart :: rest) =>
      if isBlank rest then some (.blank, rest)
      else readNode (p.handles ++ standardHandles) (steps rest) .block rest
    | _ => none
  else readNode standardHandles (steps tokens) .block tokens

/-- The document of a list of tokens; without tokens its node is blank. -/
def ofTokens? (tokens : List Token) : Option Document :=
  let found := if tokens = [] then some (.blank, []) else readRoot tokens
  match found with
  | none => none
  | some (root, rest) =>
    if rest.all (· == .documentEnd) then
      (root.resolve {}).map fun (root, anchors) => ⟨root, anchors⟩
    else none

def ofText? (text : String) : Option Document :=
  (Token.ofText? text).bind ofTokens?

/-- The scalar that a node of the document is or refers to. -/
def scalar? (d : Document) (n : Node Nat) : Option Scalar :=
  n.scalar? d.anchors

end Document

end Credentials.Yaml
