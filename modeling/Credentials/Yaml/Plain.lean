import Credentials.Yaml.Cursor

/-!
# Plain scalars

Text without quotes. It ends at a comment, at a colon before a gap, at a document marker, at a flow
indicator inside a flow collection, or where a later line is not indented enough.
-/

namespace Credentials.Yaml

/-- What the scan of a plain scalar needs to know of its surroundings. -/
structure PlainContext where
  inFlow : Bool
  /-- The least column of a later line. -/
  indent : Nat

/-- A plain scalar: its text, the place after it and after the gap that ended it, and whether that gap
had a break. -/
structure PlainScan where
  text : List Char
  after : Cursor
  broken : Bool

/-- A flow indicator, which ends a plain scalar in a flow collection. -/
def isFlowIndicator (c : Char) : Bool :=
  c == ',' || c == '[' || c == ']' || c == '\x7b' || c == '\x7d'

/-- Whether a colon before this text would be ambiguous in a flow collection. -/
def ambiguousAfterColon : List Char → Bool
  | c :: _ => isFlowIndicator c || c == '?'
  | [] => false

/-- Whether a plain scalar ends before a character and what follows it. -/
def endsPlain (inFlow : Bool) (c : Char) (rest : List Char) : Bool :=
  (c == ':' && atGap rest) || (inFlow && isFlowIndicator c)

/-- Scans a plain scalar. `text` is what has been read, the last character first. -/
def scanPlain (k : PlainContext) (at_ : Cursor) (gap : Gap) (text : List Char) :
    List Char → Option PlainScan
  | [] => some ⟨text.reverse, { at_ with rest := [] }, gap.broken⟩
  | '\r' :: '\n' :: rest =>
    scanPlain k (at_.newLine 2 []) (gap.addBreak '\n') text rest
  | c :: rest =>
    if isBlank c then
      if gap.broken && at_.column < k.indent && c == '\t' then none
      else scanPlain k (at_.skip 1) (gap.addBlank c) text rest
    else if isBreak c then
      scanPlain k (at_.newLine 1 []) (gap.addBreak (normalBreak c)) text rest
    else if (gap.broken && !k.inFlow && at_.column < k.indent) ||
        atDocumentMarker at_.column (c :: rest) || (c == '#' && !gap.isEmpty) ||
        endsPlain k.inFlow c rest then
      some ⟨text.reverse, { at_ with rest := c :: rest }, gap.broken⟩
    else if k.inFlow && c == ':' && ambiguousAfterColon rest then none
    else scanPlain k (at_.skip 1) {} (c :: (gap.text.reverse ++ text)) rest

end Credentials.Yaml
