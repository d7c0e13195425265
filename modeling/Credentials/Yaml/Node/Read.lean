import Credentials.Yaml.Node.Basic

/-!
# From tokens to nodes

Block collections start and end with the tokens of their indentation, except for a sequence that is
the value of a mapping and stands as far left as its keys. A key or a value may be missing.

Reading is by descent; `fuel` bounds how many steps one branch takes, and each of them but a few takes a
token.
-/

namespace Credentials.Yaml

abbrev Handles := List (String × String)

/-- The tag that is meant. A handle without a meaning is an error. -/
def Handles.resolve (h : Handles) (t : TagText) : Option String :=
  if t.handle = "" then some t.suffix else (h.lookup t.handle).map (· ++ t.suffix)

inductive Place where
  | flow
  | block
  /-- As a key or a value of a block mapping. -/
  | entry
  deriving DecidableEq, Repr

/-- What a node has besides its content. -/
structure Properties where
  anchor : Option String := none
  tag : Option String := none

/-- Reads the anchor and the tag of a node, in either order. -/
def readProperties (h : Handles) : List Token → Option (Properties × List Token)
  | .anchor a :: .tag t :: rest => (h.resolve t).map fun t => (⟨some a, some t⟩, rest)
  | .tag t :: .anchor a :: rest => (h.resolve t).map fun t => (⟨some a, some t⟩, rest)
  | .anchor a :: rest => some (⟨some a, none⟩, rest)
  | .tag t :: rest => (h.resolve t).map fun t => (⟨none, some t⟩, rest)
  | rest => some ({}, rest)

/-- Whether the next token is one of those given. -/
def nextIs (ts : List Token) : List Token → Bool
  | [] => false
  | t :: _ => ts.contains t

mutual

def readNode (h : Handles) : Nat → Place → List Token → Option (Node String × List Token)
  | 0, _, _ => none
  | fuel + 1, place, tokens =>
    match tokens with
    | .reference name :: rest => some (.reference name, rest)
    | _ =>
      match readProperties h tokens with
      | some (p, rest) => readContent h fuel place p rest
      | none => none

/-- Reads the content of a node. The tag `!` says no more than that a scalar is no number or the like,
so it goes. -/
def readContent (h : Handles) :
    Nat → Place → Properties → List Token → Option (Node String × List Token)
  | 0, _, _, _ => none
  | fuel + 1, place, p, tokens =>
    match tokens with
    | .scalar text style :: rest =>
      some (.scalar p.anchor { text, style, tag := p.tag.filter (· ≠ "!") }, rest)
    | .flowSequenceStart :: rest =>
      (readFlowItems h fuel true rest).map fun (items, rest) => (.sequence p.anchor items, rest)
    | .flowMappingStart :: rest =>
      (readFlowEntries h fuel true rest).map fun (entries, rest) => (.mapping p.anchor entries, rest)
    | _ =>
      match place, tokens with
      | .entry, .item :: _ =>
        (readItems h fuel false tokens).map fun (items, rest) => (.sequence p.anchor items, rest)
      | .entry, .sequenceIndent :: rest | .block, .sequenceIndent :: rest =>
        (readItems h fuel true rest).map fun (items, rest) => (.sequence p.anchor items, rest)
      | .entry, .mappingIndent :: rest | .block, .mappingIndent :: rest =>
        (readEntries h fuel rest).map fun (entries, rest) => (.mapping p.anchor entries, rest)
      | _, _ =>
        if p.anchor.isSome || p.tag.isSome then
          some (.scalar p.anchor { text := "", tag := p.tag }, tokens)
        else none

/-- Reads the items of a block sequence, which is indented on its own or not. -/
def readItems (h : Handles) : Nat → Bool → List Token → Option (List (Node String) × List Token)
  | 0, _, _ => none
  | fuel + 1, indented, tokens =>
    match tokens with
    | .item :: rest =>
      let found :=
        if nextIs [.item, .dedent] rest || (!indented && nextIs [.key, .value] rest) then
          some (.blank, rest)
        else readNode h fuel .block rest
      match found with
      | none => none
      | some (n, rest) =>
        (readItems h fuel indented rest).map fun (items, rest) => (n :: items, rest)
    | .dedent :: rest => some ([], if indented then rest else tokens)
    | _ => if indented then none else some ([], tokens)

/-- Reads the entries of a block mapping. -/
def readEntries (h : Handles) :
    Nat → List Token → Option (List (Node String × Node String) × List Token)
  | 0, _ => none
  | fuel + 1, tokens =>
    match tokens with
    | .key :: rest =>
      match readPart h fuel .entry [.key, .value, .dedent] rest with
      | none => none
      | some (k, rest) =>
        match readValue h fuel .entry [.key, .value, .dedent] rest with
        | none => none
        | some (v, rest) =>
          (readEntries h fuel rest).map fun (entries, rest) => ((k, v) :: entries, rest)
    | .dedent :: rest => some ([], rest)
    | _ => none

/-- Reads a node, or nothing if the next token is one of those that end it. -/
def readPart (h : Handles) :
    Nat → Place → List Token → List Token → Option (Node String × List Token)
  | 0, _, _, _ => none
  | fuel + 1, place, ends, tokens =>
    if nextIs ends tokens then some (.blank, tokens) else readNode h fuel place tokens

/-- Reads the value of an entry, which may be missing with its token. -/
def readValue (h : Handles) :
    Nat → Place → List Token → List Token → Option (Node String × List Token)
  | 0, _, _, _ => none
  | fuel + 1, place, ends, tokens =>
    match tokens with
    | .value :: rest => readPart h fuel place ends rest
    | _ => some (.blank, tokens)

/-- Reads the items of a flow sequence. Two of them have a comma between them. -/
def readFlowItems (h : Handles) : Nat → Bool → List Token → Option (List (Node String) × List Token)
  | 0, _, _ => none
  | fuel + 1, first, tokens =>
    match tokens with
    | .flowSequenceEnd :: rest => some ([], rest)
    | _ =>
      let after :=
        match first, tokens with
        | true, _ => some tokens
        | false, .comma :: rest => some rest
        | false, _ => none
      match after with
      | none => none
      | some (.flowSequenceEnd :: rest) => some ([], rest)
      | some tokens =>
        match readFlowItem h fuel tokens with
        | none => none
        | some (n, rest) =>
          (readFlowItems h fuel false rest).map fun (items, rest) => (n :: items, rest)

/-- Reads an item of a flow sequence. After a key token it is a mapping of one entry; if the key is
missing, the token in its place goes with it. -/
def readFlowItem (h : Handles) : Nat → List Token → Option (Node String × List Token)
  | 0, _ => none
  | fuel + 1, tokens =>
    match tokens with
    | .key :: rest =>
      let found :=
        if nextIs [.value, .comma, .flowSequenceEnd] rest then some (.blank, rest.drop 1)
        else readNode h fuel .flow rest
      match found with
      | none => none
      | some (k, rest) =>
        (readValue h fuel .flow [.comma, .flowSequenceEnd] rest).map fun (v, rest) =>
          (.mapping none [(k, v)], rest)
    | _ => readNode h fuel .flow tokens

/-- Reads the entries of a flow mapping. Two of them have a comma between them. -/
def readFlowEntries (h : Handles) :
    Nat → Bool → List Token → Option (List (Node String × Node String) × List Token)
  | 0, _, _ => none
  | fuel + 1, first, tokens =>
    match tokens with
    | .flowMappingEnd :: rest => some ([], rest)
    | _ =>
      let after :=
        match first, tokens with
        | true, _ => some tokens
        | false, .comma :: rest => some rest
        | false, _ => none
      match after with
      | none => none
      | some (.flowMappingEnd :: rest) => some ([], rest)
      | some tokens =>
        match readFlowEntry h fuel tokens with
        | none => none
        | some (e, rest) =>
          (readFlowEntries h fuel false rest).map fun (entries, rest) => (e :: entries, rest)

/-- Reads an entry of a flow mapping. Without a key token it is a key without a value. -/
def readFlowEntry (h : Handles) : Nat → List Token → Option ((Node String × Node String) × List Token)
  | 0, _ => none
  | fuel + 1, tokens =>
    match tokens with
    | .key :: rest =>
      match readPart h fuel .flow [.value, .comma, .flowMappingEnd] rest with
      | none => none
      | some (k, rest) =>
        (readValue h fuel .flow [.comma, .flowMappingEnd] rest).map fun (v, rest) => ((k, v), rest)
    | _ => (readNode h fuel .flow tokens).map fun (k, rest) => ((k, .blank), rest)

end

end Credentials.Yaml
