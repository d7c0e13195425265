import Credentials.Yaml.Cursor

/-!
# Block scalars

Text that is set off by indentation, after `|` with its line breaks or after `>` folded. A header says
how much indentation there is, unless the first line shows it, and what becomes of the breaks at the
end.
-/

namespace Credentials.Yaml

/-- What becomes of the breaks at the end of a block scalar. -/
inductive Ending where
  /-- All of them go. -/
  | strip
  /-- The first one stays. -/
  | clip
  /-- All of them stay. -/
  | keep
  deriving DecidableEq, Repr

/-- The first line of a block scalar. -/
structure BlockHeader where
  ending : Ending := .clip
  /-- The indentation beyond that of the surroundings, if it is given. -/
  extra : Option Nat := none

namespace BlockHeader

def endingOf? (c : Char) : Option Ending :=
  if c = '-' then some .strip else if c = '+' then some .keep else none

/-- The digit of an indentation, which is not zero. -/
def extraOf? (c : Char) : Option Nat :=
  if '1' ≤ c ∧ c ≤ '9' then some (c.toNat - 48) else none

/-- Reads the sign and the digit of a header, in either order. -/
def scan (c : Cursor) : BlockHeader × Cursor :=
  match c.rest with
  | x :: rest =>
    match endingOf? x, extraOf? x with
    | some e, _ =>
      match rest.head?.bind extraOf? with
      | some n => (⟨e, some n⟩, c.skip 2)
      | none => (⟨e, none⟩, c.skip 1)
    | none, some n =>
      match rest.head?.bind endingOf? with
      | some e => (⟨e, some n⟩, c.skip 2)
      | none => (⟨.clip, some n⟩, c.skip 1)
    | none, none => ({}, c)
  | [] => ({}, c)

end BlockHeader

/-- What has been read of a block scalar. Lists have the last character first. -/
structure BlockText where
  text : List Char := []
  /-- The break that ended the last line of text. -/
  lead : Option Char := none
  /-- The breaks of the empty lines after it. -/
  trailing : List Char := []
  /-- Whether the last line of text started with a blank. -/
  leadBlank : Bool := false

namespace BlockText

/-- Starts a line of text with its first character. In folded text, one break between two lines that
start without a blank becomes a space, and of several the first goes. -/
def startLine (b : BlockText) (folded : Bool) (c : Char) : BlockText :=
  let joined :=
    if folded && b.lead == some '\n' && !b.leadBlank && !isBlank c then
      (if b.trailing.isEmpty then [' '] else [])
    else b.lead.toList
  { text := c :: (b.trailing ++ joined ++ b.text), leadBlank := isBlank c }

def add (b : BlockText) (c : Char) : BlockText := { b with text := c :: b.text }

def endLine (b : BlockText) (c : Char) : BlockText := { b with lead := some c, trailing := [] }

def emptyLine (b : BlockText) (c : Char) : BlockText := { b with trailing := c :: b.trailing }

def finish (b : BlockText) : Ending → List Char
  | .strip => b.text.reverse
  | .clip => (b.lead.toList ++ b.text).reverse
  | .keep => (b.trailing ++ b.lead.toList ++ b.text).reverse

end BlockText

/-- Scans the lines of a block scalar. A line belongs to it if it is empty or has the indentation. -/
def scanLines (folded : Bool) (indent : Nat) (at_ : Cursor) (inLine : Bool) (b : BlockText) :
    List Char → Option (BlockText × Cursor)
  | [] => some (b, { at_ with rest := [] })
  | '\r' :: '\n' :: rest =>
    scanLines folded indent (at_.newLine 2 []) false (if inLine then b.endLine '\n' else b.emptyLine '\n')
      rest
  | c :: rest =>
    if isBreak c then
      let n := normalBreak c
      scanLines folded indent (at_.newLine 1 []) false (if inLine then b.endLine n else b.emptyLine n)
        rest
    else if inLine then scanLines folded indent (at_.skip 1) true (b.add c) rest
    else if at_.column < indent && c == ' ' then
      scanLines folded indent (at_.skip 1) false b rest
    else if at_.column < indent && c == '\t' then none
    else if at_.column == indent then
      scanLines folded indent (at_.skip 1) true (b.startLine folded c) rest
    else some (b, { at_ with rest := c :: rest })

/-- Scans the empty lines at the start of a block scalar whose indentation is not given: the widest
line up to the first one with text shows it. -/
def scanFirstLines (at_ : Cursor) (widest : Nat) (breaks : List Char) :
    List Char → Option (Nat × List Char × Cursor)
  | [] => some (max widest at_.column, breaks, { at_ with rest := [] })
  | '\r' :: '\n' :: rest =>
    scanFirstLines (at_.newLine 2 []) (max widest at_.column) ('\n' :: breaks) rest
  | c :: rest =>
    if c == ' ' then scanFirstLines (at_.skip 1) widest breaks rest
    else if c == '\t' then none
    else if isBreak c then
      scanFirstLines (at_.newLine 1 []) (max widest at_.column) (normalBreak c :: breaks) rest
    else some (max widest at_.column, breaks, { at_ with rest := c :: rest })

/-- Scans a block scalar after its indicator. `least` is the least indentation it can have, one more
than that of the surroundings. -/
def scanBlock (folded : Bool) (least : Nat) (at_ : Cursor) : Option (List Char × Cursor) :=
  let (header, at_) := BlockHeader.scan at_
  match at_.finishLine? with
  | none => none
  | some at_ =>
    let lines :=
      match header.extra with
      | some n => scanLines folded (least - 1 + n) at_ false {} at_.rest
      | none =>
        match scanFirstLines at_ 0 [] at_.rest with
        | none => none
        | some (widest, breaks, at_) =>
          scanLines folded (max widest (max least 1)) at_ false { trailing := breaks } at_.rest
    lines.map fun (b, at_) => (b.finish header.ending, at_)

end Credentials.Yaml
