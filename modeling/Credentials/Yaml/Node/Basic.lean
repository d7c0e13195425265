import Credentials.Yaml.Token.Basic

/-!
# Nodes

The tree of a document. A node refers to another one by an alias, which at first is a name and then the
number under which its target is known. `resolve` gives the numbers out in the order of the text; a name
that is anchored again means its latest node from there on, and an alias without an anchor before it is
an error.
-/

namespace Credentials.Yaml

/-- A scalar: its text and how it is written. -/
structure Scalar where
  text : String
  style : Style := .plain
  tag : Option String := none
  deriving DecidableEq, Repr

/-- A node. The parameter is what an alias holds. -/
inductive Node (ρ : Type) where
  | scalar (anchor : Option String) (s : Scalar)
  | sequence (anchor : Option String) (items : List (Node ρ))
  | mapping (anchor : Option String) (entries : List (Node ρ × Node ρ))
  | reference (target : ρ)

/-- The node that stands where nothing is written. -/
def Node.blank {ρ : Type} : Node ρ := .scalar none { text := "" }

/-! ## Anchors -/

structure Anchors where
  /-- The numbers of the names, each name once. -/
  numbers : List (String × Nat) := []
  /-- The targets of the numbers, the latest one first; a collection has no scalar. -/
  targets : List (Nat × Option Scalar) := []

namespace Anchors

def number? (a : Anchors) (name : String) : Option Nat :=
  a.numbers.lookup name

def scalar? (a : Anchors) (n : Nat) : Option Scalar :=
  (a.targets.lookup n).bind id

/-- Anchors a node, if it has an anchor. The number is that of the names before it. -/
def note (a : Anchors) (anchor : Option String) (target : Option Scalar) : Anchors :=
  match anchor with
  | none => a
  | some name =>
    let n := a.numbers.length
    { numbers := (name, n) :: a.numbers.filter (·.1 ≠ name), targets := (n, target) :: a.targets }

end Anchors

namespace Node

mutual

/-- Numbers the aliases of a node, after the anchors met before it. -/
def resolve (a : Anchors) : Node String → Option (Node Nat × Anchors)
  | scalar anchor s => some (scalar anchor s, a.note anchor (some s))
  | sequence anchor items =>
    match resolveItems (a.note anchor none) items with
    | some (items, a) => some (sequence anchor items, a)
    | none => none
  | mapping anchor entries =>
    match resolveEntries (a.note anchor none) entries with
    | some (entries, a) => some (mapping anchor entries, a)
    | none => none
  | reference name => (a.number? name).map fun n => (reference n, a)

def resolveItems (a : Anchors) : List (Node String) → Option (List (Node Nat) × Anchors)
  | [] => some ([], a)
  | n :: rest =>
    match resolve a n with
    | none => none
    | some (n, a) =>
      match resolveItems a rest with
      | some (rest, a) => some (n :: rest, a)
      | none => none

def resolveEntries (a : Anchors) :
    List (Node String × Node String) → Option (List (Node Nat × Node Nat) × Anchors)
  | [] => some ([], a)
  | (k, v) :: rest =>
    match resolve a k with
    | none => none
    | some (k, a) =>
      match resolve a v with
      | none => none
      | some (v, a) =>
        match resolveEntries a rest with
        | some (rest, a) => some ((k, v) :: rest, a)
        | none => none

end

/-- The scalar that a node is or refers to. -/
def scalar? (a : Anchors) : Node Nat → Option Scalar
  | scalar _ s => some s
  | reference n => a.scalar? n
  | _ => none

end Node

end Credentials.Yaml
