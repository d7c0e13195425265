import Credentials.Decimal.Layout
import Credentials.Yaml.Block
import Credentials.Yaml.Plain
import Credentials.Yaml.Quoted
import Credentials.Yaml.Token.Basic
import Credentials.Yaml.Typed

/-!
# Writing scalars

A text as the value of a block mapping at the left margin, in the plainest style that reads back as the
same text: plain; in single quotes if it could be taken for something else or has the separators U+2028
and U+2029 in it; as a literal block if it has line feeds; in double quotes, which can hold anything,
otherwise. A line of a scalar after the first one is indented by two spaces.
-/

namespace Credentials.Yaml

/-- A character that stands for itself in every style. Among those that do not are the breaks, the
byte order mark and all characters beyond U+FFFF. -/
def isSimple (c : Char) : Bool :=
  let n := c.toNat
  (0x20 ≤ n && n ≤ 0x7E) ||
    (0xA0 ≤ n && n ≤ 0xFFFD && n ≠ 0x2028 && n ≠ 0x2029 && n ≠ 0xFEFF)

def isKeptBreak (c : Char) : Bool :=
  c == '\n' || c == '\u2028' || c == '\u2029'

/-- A character that needs no escape in a style that can go on over several lines. -/
def isUnescaped (c : Char) : Bool :=
  isSimple c || isKeptBreak c

/-! ## Choice of a style -/

/-- An indicator that a plain scalar cannot start with, whatever follows. -/
def isHardIndicator (c : Char) : Bool :=
  isIndicator c && !(c == '-' || c == '?' || c == ':')

/-- Whether what follows the first character lets a plain scalar go on to its end: no colon before a gap
and no hash after one. -/
def continuesPlain : List Char → Bool
  | [] => true
  | c :: rest =>
    !(c == ':' && atGap rest) && !(c == ' ' && rest.head? == some '#') && continuesPlain rest

/-- Whether a text can be a plain scalar. -/
def isPlainText (cs : List Char) : Bool :=
  match cs with
  | [] => false
  | c :: rest =>
    cs.all isSimple && c ≠ ' ' && cs.getLast? ≠ some ' ' && !isHardIndicator c &&
      !((c == '-' || c == '?' || c == ':') && atGap rest) &&
      !(['-', '-', '-'].isPrefixOf cs) && !(['.', '.', '.'].isPrefixOf cs) && continuesPlain cs

/-- Whether a space and a break stand side by side. Where a text is folded, the space would be lost. -/
def spaceMeetsBreak : List Char → Bool
  | c :: d :: rest => (c == ' ' && isBreak d) || (isBreak c && d == ' ') || spaceMeetsBreak (d :: rest)
  | _ => false

/-- Whether a text without line feeds can stand in single quotes. -/
def isSingleText (cs : List Char) : Bool :=
  cs.all isUnescaped && !spaceMeetsBreak cs

/-- Whether no line of a text ends with a space. -/
def hasCleanEnds : List Char → Bool
  | [] => true
  | c :: rest => !(c == ' ' && atBreak rest) && hasCleanEnds rest

/-- Whether a text can be a literal block. -/
def isLiteralText (cs : List Char) : Bool :=
  cs.all isUnescaped && hasCleanEnds cs

def styleOf (s : String) : Style :=
  let cs := s.toList
  if cs.contains '\n' then (if isLiteralText cs then .literal else .doubleQuoted)
  else if !isSingleText cs then .doubleQuoted
  else if isTyped s || !isPlainText cs then .singleQuoted
  else .plain

/-! ## The styles -/

/-- The character of a hexadecimal digit. -/
def hexChar (n : Nat) : Char :=
  if n < 10 then Char.ofNat (48 + n) else Char.ofNat (55 + n)

/-- A number in so many hexadecimal digits. -/
def hexChars : Nat → Nat → List Char
  | 0, _ => []
  | width + 1, n => hexChars width (n / 16) ++ [hexChar (n % 16)]

def escapeLetter? (c : Char) : Option Char :=
  if c = '\x00' then some '0'
  else if c = '\x07' then some 'a'
  else if c = '\x08' then some 'b'
  else if c = '\t' then some 't'
  else if c = '\n' then some 'n'
  else if c = '\x0b' then some 'v'
  else if c = '\x0c' then some 'f'
  else if c = '\r' then some 'r'
  else if c = '\x1b' then some 'e'
  else if c = '"' then some '"'
  else if c = '\\' then some '\\'
  else if c = '\u0085' then some 'N'
  else if c = '\u2028' then some 'L'
  else if c = '\u2029' then some 'P'
  else none

def doubleQuotedChar (c : Char) : List Char :=
  match escapeLetter? c with
  | some e => ['\\', e]
  | none =>
    if isSimple c then [c]
    else if c.toNat ≤ 0xFF then '\\' :: 'x' :: hexChars 2 c.toNat
    else if c.toNat ≤ 0xFFFF then '\\' :: 'u' :: hexChars 4 c.toNat
    else '\\' :: 'U' :: hexChars 8 c.toNat

/-- A text in single quotes, from after the opening one on. `fresh` says whether a line starts here,
which is indented unless it is empty. -/
def singleQuotedLines (fresh : Bool) : List Char → List Char
  | [] => if fresh then [' ', ' ', '\''] else ['\'']
  | c :: rest =>
    if isBreak c then c :: singleQuotedLines true rest
    else
      let quoted := if c = '\'' then ['\'', '\''] else [c]
      if fresh then ' ' :: ' ' :: (quoted ++ singleQuotedLines false rest)
      else quoted ++ singleQuotedLines false rest

/-- The lines of a literal block, each indented unless it is empty. `fresh` says whether a line
starts here. -/
def literalLines (fresh : Bool) : List Char → List Char
  | [] => if fresh then [] else ['\n']
  | c :: rest =>
    if isBreak c then c :: literalLines true rest
    else if fresh then ' ' :: ' ' :: c :: literalLines false rest
    else c :: literalLines false rest

/-- The indentation in the header of a literal block. It is needed if the first line does not show it. -/
def literalIndent : List Char → List Char
  | c :: _ => if c == ' ' || isBreak c then ['2'] else []
  | [] => []

/-- The sign in the header of a literal block, from the text backwards: no break at its end belongs to
it, or all of them do, or the only one. -/
def literalSign : List Char → List Char
  | c :: rest => if !isBreak c then ['-'] else if atBreak rest then ['+'] else []
  | [] => ['-']

/-- A text in a style, to the end of its last line. -/
def written (cs : List Char) : Style → List Char
  | .plain => cs ++ ['\n']
  | .singleQuoted => '\'' :: (singleQuotedLines false cs ++ ['\n'])
  | .literal => '|' :: (literalIndent cs ++ literalSign cs.reverse ++ '\n' :: literalLines true cs)
  | _ => '"' :: (cs.flatMap doubleQuotedChar ++ ['"', '\n'])

/-- An entry of a block mapping whose value is a text. -/
def textEntry (key value : String) : String :=
  key ++ ": " ++ String.ofList (written value.toList (styleOf value))

/-- An entry of a block mapping whose value is a truth value. -/
def boolEntry (key : String) (value : Bool) : String :=
  key ++ (if value then ": true\n" else ": false\n")

end Credentials.Yaml
