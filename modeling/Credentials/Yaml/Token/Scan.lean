import Credentials.Yaml.Block
import Credentials.Yaml.Plain
import Credentials.Yaml.Quoted
import Credentials.Yaml.Token.Basic

/-!
# From characters to tokens

Whether a node is a key shows only at the colon behind it, on the same line and not far away. So every
node that could be a key is remembered as a candidate, one for each open flow collection and one for
the block they stand in; when a colon comes, the key token goes in before the candidate's tokens, and
with it the start of a block mapping if the candidate stands further right than the block around it.
-/

namespace Credentials.Yaml

/-- A node that turns out to be a key if a colon follows. -/
structure Candidate where
  /-- How many tokens come before it. -/
  tokensBefore : Nat
  /-- Whether it has to be a key: it stands where the keys of the block stand. -/
  required : Bool
  index : Nat
  line : Nat
  column : Nat
  deriving DecidableEq, Repr

/-- How far a colon may be from the start of its key. -/
def keyReach : Nat := 1024

/-- A place between two tokens. -/
structure Scanner where
  at_ : Cursor
  /-- The columns of the open block collections, the innermost first. -/
  indents : List Nat := []
  /-- Whether the next node could be a key. -/
  keyAllowed : Bool := true
  /-- The candidate of the innermost open flow collection, or of the block if none is open. -/
  candidate : Option Candidate := none
  /-- The candidates of what encloses it, one for each open flow collection. -/
  enclosing : List (Option Candidate) := []
  /-- The tokens so far, the last one first. -/
  tokens : List Token := []

namespace Scanner

def inFlow (s : Scanner) : Bool := !s.enclosing.isEmpty

/-- The least indentation of something inside the innermost block collection. -/
def inner (s : Scanner) : Nat :=
  match s.indents with
  | [] => 0
  | n :: _ => n + 1

def emitAt (s : Scanner) (t : Token) (at_ : Cursor) : Scanner :=
  { s with at_, tokens := t :: s.tokens }

def insert (s : Scanner) (n : Nat) (t : Token) : Scanner :=
  let later := s.tokens.length - n
  { s with tokens := s.tokens.take later ++ t :: s.tokens.drop later }

/-! ## Indentation -/

/-- Opens a block collection at a column, unless the innermost one is there already. Its token goes
after the first `n`. -/
def openBlock (s : Scanner) (column n : Nat) (t : Token) : Scanner :=
  if !s.inFlow && s.inner ≤ column then
    { s.insert n t with indents := column :: s.indents }
  else s

/-- Closes block collections as long as they satisfy a test. -/
def closeBlocks (s : Scanner) (p : Nat → Bool) : Scanner :=
  if s.inFlow then s
  else
    let closed := s.indents.takeWhile p
    { s with
      indents := s.indents.dropWhile p
      tokens := List.replicate closed.length .dedent ++ s.tokens }

/-! ## Candidates -/

/-- Whether a candidate is out of reach of a place. -/
def outOfReach (c : Candidate) (at_ : Cursor) : Bool :=
  c.line < at_.line || c.index + keyReach < at_.index

/-- A candidate that has come out of reach is none any more, which is an error if it is required. -/
def dropCandidate (at_ : Cursor) : Option Candidate → Option (Option Candidate)
  | none => some none
  | some c => if outOfReach c at_ then (if c.required then none else some none) else some (some c)

/-- Drops candidates that are out of reach. -/
def dropCandidates (s : Scanner) : Option Scanner :=
  match dropCandidate s.at_ s.candidate, s.enclosing.mapM (dropCandidate s.at_) with
  | some candidate, some enclosing => some { s with candidate, enclosing }
  | _, _ => none

/-- Gives up the candidate, which is an error if it is required. -/
def forget (s : Scanner) : Option Scanner :=
  match s.candidate with
  | some c => if c.required then none else some { s with candidate := none }
  | none => some s

/-- Makes the next node a candidate if it could be a key. -/
def remember (s : Scanner) : Option Scanner :=
  if s.keyAllowed then
    s.forget.map fun s =>
      { s with
        candidate := some
          { tokensBefore := s.tokens.length
            required := !s.inFlow && s.indents.head? == some s.at_.column
            index := s.at_.index, line := s.at_.line, column := s.at_.column } }
  else some s

/-! ## Between tokens -/

/-- Skips white space and comments. A tab is white space only where no key could stand. In a block, a
break makes a key possible. -/
def skipSpace (inFlow keyAllowed inComment : Bool) (at_ : Cursor) : List Char → Bool × Cursor
  | [] => (keyAllowed, { at_ with rest := [] })
  | '\r' :: '\n' :: rest => skipSpace inFlow (keyAllowed || !inFlow) false (at_.newLine 2 []) rest
  | c :: rest =>
    if isBreak c then skipSpace inFlow (keyAllowed || !inFlow) false (at_.newLine 1 []) rest
    else if inComment || c == ' ' || c == '#' || (c == '\t' && (inFlow || !keyAllowed)) ||
        (c == '\uFEFF' && at_.index == 0) then
      skipSpace inFlow keyAllowed (inComment || c == '#') (at_.skip 1) rest
    else (keyAllowed, { at_ with rest := c :: rest })

/-- Moves to the next token and closes the blocks that it is too far left for. -/
def approach (s : Scanner) : Option Scanner :=
  let (keyAllowed, at_) := skipSpace s.inFlow s.keyAllowed false s.at_ s.at_.rest
  ({ s with keyAllowed, at_ } : Scanner).dropCandidates.map fun s =>
    s.closeBlocks (s.at_.column < ·)

/-! ## Tokens -/

/-- A marker or a directive ends every block. -/
def endBlocks (s : Scanner) : Option Scanner :=
  (s.closeBlocks fun _ => true).forget.map fun s => { s with keyAllowed := false }

def directive (s : Scanner) : Option Scanner :=
  match s.endBlocks, scanDirective (s.at_.skip 1) with
  | some s, some (d, at_) => some (s.emitAt (.directive d) at_)
  | _, _ => none

def marker (s : Scanner) (t : Token) : Option Scanner :=
  s.endBlocks.map fun s => s.emitAt t (s.at_.skip 3)

def openFlow (s : Scanner) (t : Token) : Option Scanner :=
  s.remember.map fun s =>
    { s.emitAt t (s.at_.skip 1) with
      keyAllowed := true, candidate := none, enclosing := s.candidate :: s.enclosing }

def closeFlow (s : Scanner) (t : Token) : Option Scanner :=
  s.forget.map fun s =>
    let s := { s.emitAt t (s.at_.skip 1) with keyAllowed := false }
    match s.enclosing with
    | [] => s
    | c :: rest => { s with candidate := c, enclosing := rest }

def comma (s : Scanner) : Option Scanner :=
  s.forget.map fun s => { s.emitAt .comma (s.at_.skip 1) with keyAllowed := true }

/-- A dash, which may open a block sequence. -/
def item (s : Scanner) : Option Scanner :=
  if s.inFlow || s.keyAllowed then
    (s.openBlock s.at_.column s.tokens.length .sequenceIndent).forget.map fun s =>
      { s.emitAt .item (s.at_.skip 1) with keyAllowed := true }
  else none

/-- A question mark, which may open a block mapping. -/
def explicitKey (s : Scanner) : Option Scanner :=
  if s.inFlow || s.keyAllowed then
    (s.openBlock s.at_.column s.tokens.length .mappingIndent).forget.map fun s =>
      { s.emitAt .key (s.at_.skip 1) with keyAllowed := !s.inFlow }
  else none

/-- A colon: it makes the candidate a key, or stands for itself and may open a block mapping. -/
def value (s : Scanner) : Option Scanner :=
  match s.candidate with
  | some c =>
    let s := (s.insert c.tokensBefore .key).openBlock c.column c.tokensBefore .mappingIndent
    some { s.emitAt .value (s.at_.skip 1) with candidate := none, keyAllowed := false }
  | none =>
    if s.inFlow || s.keyAllowed then
      let s := s.openBlock s.at_.column s.tokens.length .mappingIndent
      some { s.emitAt .value (s.at_.skip 1) with keyAllowed := !s.inFlow }
    else none

def start (s : Scanner) (found : Option (Token × Cursor)) : Option Scanner :=
  match s.remember, found with
  | some s, some (t, at_) => some { s.emitAt t at_ with keyAllowed := false }
  | _, _ => none

def name (s : Scanner) (t : String → Token) : Option Scanner :=
  s.start ((scanName (s.at_.skip 1)).map fun (n, at_) => (t n, at_))

def quoted (s : Scanner) (style : Style) (found : Option (List Char × Cursor)) : Option Scanner :=
  s.start (found.map fun (cs, at_) => (.scalar (String.ofList cs) style, at_))

/-- A block scalar, after which a key may stand. -/
def block (s : Scanner) (folded : Bool) : Option Scanner :=
  match s.forget, scanBlock folded s.inner (s.at_.skip 1) with
  | some s, some (cs, at_) =>
    some { s.emitAt (.scalar (String.ofList cs) (if folded then .folded else .literal)) at_ with
      keyAllowed := true }
  | _, _ => none

/-- A plain scalar. If a break ended it, a key may stand after it. -/
def plain (s : Scanner) : Option Scanner :=
  match s.remember, scanPlain ⟨s.inFlow, s.inner⟩ s.at_ {} [] s.at_.rest with
  | some s, some found =>
    some { s.emitAt (.scalar (String.ofList found.text) .plain) found.after with
      keyAllowed := found.broken }
  | _, _ => none

/-- Whether a plain scalar starts with a character and what follows it. -/
def startsPlain (inFlow : Bool) (c : Char) (rest : List Char) : Bool :=
  !(isGap c || isIndicator c) || (c == '-' && !atGap rest) ||
    (!inFlow && (c == '?' || c == ':') && !atGap rest)

/-- Scans the token that starts with a character. -/
def token (s : Scanner) (c : Char) (rest : List Char) : Option Scanner :=
  if s.at_.column == 0 && c == '%' then s.directive
  else if s.at_.column == 0 && threefold '-' (c :: rest) then s.marker .documentStart
  else if s.at_.column == 0 && threefold '.' (c :: rest) then s.marker .documentEnd
  else if c == '[' then s.openFlow .flowSequenceStart
  else if c == '\x7b' then s.openFlow .flowMappingStart
  else if c == ']' then s.closeFlow .flowSequenceEnd
  else if c == '\x7d' then s.closeFlow .flowMappingEnd
  else if c == ',' then s.comma
  else if c == '-' && atGap rest then s.item
  else if c == '?' && (s.inFlow || atGap rest) then s.explicitKey
  else if c == ':' && (s.inFlow || atGap rest) then s.value
  else if c == '*' then s.name .reference
  else if c == '&' then s.name .anchor
  else if c == '!' then s.start ((scanTag s.inFlow s.at_).map fun (t, at_) => (.tag t, at_))
  else if c == '|' && !s.inFlow then s.block false
  else if c == '>' && !s.inFlow then s.block true
  else if c == '\'' then s.quoted .singleQuoted (scanSingle (s.at_.skip 1) {} [] rest)
  else if c == '"' then s.quoted .doubleQuoted (scanDouble (s.at_.skip 1) 0 {} [] rest)
  else if startsPlain s.inFlow c rest then s.plain
  else none

/-- Scans the tokens that are left. `fuel` bounds their number. -/
def run : Nat → Scanner → Option (List Token)
  | 0, _ => none
  | fuel + 1, s =>
    match s.approach with
    | none => none
    | some s =>
      match s.at_.rest with
      | [] => s.endBlocks.map (·.tokens.reverse)
      | c :: rest => (s.token c rest).bind (run fuel)

end Scanner

/-- The tokens of a stream. Every token takes a character, so there are no more tokens than
characters. -/
def Token.ofText? (text : String) : Option (List Token) :=
  let cs := text.toList
  if cs.all isPermitted then Scanner.run (cs.length + 1) { at_ := { rest := cs } } else none

end Credentials.Yaml
