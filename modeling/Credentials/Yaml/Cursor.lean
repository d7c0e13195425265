import Credentials.Yaml.Character

/-!
# Places in a stream

What is left of a stream and how much has been read: characters in all, lines, and characters in the
line. A carriage return with a line feed is one break of two characters.
-/

namespace Credentials.Yaml

structure Cursor where
  rest : List Char
  index : Nat := 0
  line : Nat := 0
  column : Nat := 0

namespace Cursor

def skip (c : Cursor) (n : Nat) : Cursor :=
  { c with rest := c.rest.drop n, index := c.index + n, column := c.column + n }

/-- Moves over the characters at the front that satisfy a test, all in one line. -/
def skipWhile (c : Cursor) (p : Char → Bool) : Cursor :=
  c.skip (c.rest.takeWhile p).length

/-- The place after a break of `n` characters, before what is left. -/
def newLine (c : Cursor) (n : Nat) (rest : List Char) : Cursor :=
  { rest, index := c.index + n, line := c.line + 1, column := 0 }

/-- The break at the front and the place after it. -/
def break? (c : Cursor) : Option (Char × Cursor) :=
  match c.rest with
  | '\r' :: '\n' :: r => some ('\n', c.newLine 2 r)
  | b :: r => if isBreak b then some (normalBreak b, c.newLine 1 r) else none
  | [] => none

/-- The place after the break at the front, if there is one. -/
def skipBreak (c : Cursor) : Cursor :=
  match c.break? with
  | some (_, c) => c
  | none => c

/-- The place after the comment at the front, if there is one. -/
def skipComment (c : Cursor) : Cursor :=
  match c.rest with
  | '#' :: _ => c.skipWhile fun x => !isBreak x
  | _ => c

/-- The place after blanks, a comment and a break, with which a line may end; nothing else may stand
there. -/
def finishLine? (c : Cursor) : Option Cursor :=
  let c := (c.skipWhile isBlank).skipComment
  if atBreak c.rest then some c.skipBreak else none

/-- Whether the next character is the given one. -/
def sees (c : Cursor) (x : Char) : Bool :=
  match c.rest with
  | y :: _ => x == y
  | [] => false

end Cursor

/-- Whether three equal marks stand at the front, with a gap after them. -/
def threefold (mark : Char) : List Char → Bool
  | a :: b :: c :: rest => a == mark && b == mark && c == mark && atGap rest
  | _ => false

/-- Whether the text at a place is a document marker, which stands at the start of a line. -/
def atDocumentMarker (column : Nat) (cs : List Char) : Bool :=
  column == 0 && (threefold '-' cs || threefold '.' cs)

/-! ## Gaps inside scalars -/

/-- The white space collected between two runs of text in a scalar. After a break, blanks are
indentation and do not count. Both lists have the last character first. -/
structure Gap where
  blanks : List Char := []
  breaks : List Char := []
  broken : Bool := false
  escaped : Bool := false

namespace Gap

def addBlank (g : Gap) (c : Char) : Gap :=
  if g.broken then g else { g with blanks := c :: g.blanks }

def addBreak (g : Gap) (c : Char) : Gap :=
  { g with blanks := [], breaks := c :: g.breaks, broken := true }

/-- The gap that a backslash before a break starts: the break is no part of the text. -/
def afterEscape : Gap := { broken := true, escaped := true }

def isEmpty (g : Gap) : Bool :=
  g.blanks.isEmpty && !g.broken

/-- Breaks in a folded scalar: one line feed becomes a space, and of several the first goes. -/
def fold : List Char → List Char
  | ['\n'] => [' ']
  | '\n' :: rest => rest
  | breaks => breaks

def text (g : Gap) : List Char :=
  if g.broken then (if g.escaped then g.breaks.reverse else fold g.breaks.reverse)
  else g.blanks.reverse

end Gap

end Credentials.Yaml
