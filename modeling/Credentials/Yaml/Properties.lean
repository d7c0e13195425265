import Credentials.Text.Bytes
import Credentials.Yaml.Cursor

/-!
# Names, tags and directives

What a node carries besides its content: an anchor, by which an alias can refer to it, and a tag, which
is written with a handle. Directives say which version of YAML a document is in and what a handle stands
for.
-/

namespace Credentials.Yaml

/-- A tag as it is written: the handle, which a directive may define, and what follows it. A tag in full
has an empty handle. -/
structure TagText where
  handle : String
  suffix : String
  deriving DecidableEq, Repr

/-- What a line starting with `%` says. -/
inductive Directive where
  | version (major minor : Nat)
  | tag (handle stem : String)
  deriving DecidableEq, Repr

/-! ## Anchors and aliases -/

/-- A character, other than a gap, that may follow the name of an anchor or an alias. -/
def mayFollowName (c : Char) : Bool :=
  c == '?' || c == ':' || c == ',' || c == ']' || c == '\x7d' || c == '%' || c == '@' || c == '\x60'

/-- Scans the name of an anchor or an alias. -/
def scanName (c : Cursor) : Option (String × Cursor) :=
  let name := c.rest.takeWhile isWord
  let c := c.skip name.length
  if name.isEmpty then none
  else if atGap c.rest || c.rest.head?.any mayFollowName then some (String.ofList name, c)
  else none

/-! ## Tags -/

/-- A character that a tag may have outside brackets. -/
def isTagCharacter (c : Char) : Bool :=
  isWord c || c == ';' || c == '/' || c == '?' || c == ':' || c == '@' || c == '&' || c == '=' ||
    c == '+' || c == '$' || c == '.' || c == '!' || c == '~' || c == '*' || c == '\'' || c == '(' ||
    c == ')'

/-- A character that a full tag or the meaning of a handle may have besides. -/
def isFullTagCharacter (c : Char) : Bool :=
  isTagCharacter c || c == ',' || c == '[' || c == ']'

/-- How many bytes a character has whose UTF-8 form starts with a byte. -/
def byteWidth? (b : Nat) : Option Nat :=
  if b < 0x80 then some 1
  else if b < 0xC0 then none
  else if b < 0xE0 then some 2
  else if b < 0xF0 then some 3
  else if b < 0xF8 then some 4
  else none

/-- The bytes that `n` escapes of a percent sign and two digits stand for, and the text after them. -/
def percentBytes : Nat → List Char → Option (List UInt8 × List Char)
  | 0, cs => some ([], cs)
  | n + 1, '%' :: a :: b :: cs =>
    match hexNumber? [a, b], percentBytes n cs with
    | some x, some (bs, rest) => some (UInt8.ofNat x :: bs, rest)
    | _, _ => none
  | _ + 1, _ => none

/-- The bytes of one escaped character, and the text after it. -/
def percentCharacter? (cs : List Char) : Option (List UInt8 × List Char) :=
  match percentBytes 1 cs with
  | some ([b], _) =>
    match byteWidth? b.toNat with
    | some n =>
      match percentBytes n cs with
      | some (b :: bs, rest) =>
        if bs.all fun x => x &&& 0xC0 == 0x80 then some (b :: bs, rest) else none
      | _ => none
    | none => none
  | _ => none

/-- The bytes of the longest run of tag characters and escapes, and the text after it; a percent sign
that starts no escape is an error. `fuel` bounds the length of the run. -/
def scanTagBytes (allowed : Char → Bool) : Nat → List Char → Option (List UInt8 × List Char)
  | fuel + 1, c :: cs =>
    if c == '%' then
      match percentCharacter? (c :: cs) with
      | some (bs, rest) => (scanTagBytes allowed fuel rest).map fun (more, r) => (bs ++ more, r)
      | none => none
    else if allowed c then
      (scanTagBytes allowed fuel cs).map fun (more, r) => (Text.toBytes c.toString ++ more, r)
    else some ([], c :: cs)
  | _, cs => some ([], cs)

/-- Scans a run of tag characters, which may be empty. What follows an escaped zero byte does not
count. -/
def scanTagText (allowed : Char → Bool) (c : Cursor) : Option (String × Cursor) :=
  (scanTagBytes allowed c.rest.length c.rest).map fun (bytes, rest) =>
    (Text.ofBytesLossy (bytes.takeWhile (· ≠ 0)), c.skip (c.rest.length - rest.length))

/-- Scans a run of tag characters, of which there must be one. -/
def scanSomeTagText (allowed : Char → Bool) (c : Cursor) : Option (String × Cursor) :=
  match scanTagText allowed c with
  | some (s, d) => if d.index = c.index then none else some (s, d)
  | none => none

/-- Scans a handle, which starts with an exclamation mark and may end with one. -/
def scanHandle (c : Cursor) : Option (String × Cursor) :=
  match c.rest with
  | '!' :: rest =>
    let name := rest.takeWhile isWord
    let c := c.skip (1 + name.length)
    if c.sees '!' then some (String.ofList ('!' :: name ++ ['!']), c.skip 1)
    else some (String.ofList ('!' :: name), c)
  | _ => none

def isClosedHandle (handle : String) : Bool :=
  2 ≤ handle.length && handle.endsWith "!"

/-- Scans a tag in full, from its opening bracket on. -/
def scanFullTag (c : Cursor) : Option (TagText × Cursor) :=
  match scanSomeTagText isFullTagCharacter (c.skip 2) with
  | some (suffix, c) => if c.sees '>' then some (⟨"", suffix⟩, c.skip 1) else none
  | none => none

/-- Scans a tag with a handle. The mark alone is the tag `!`. -/
def scanShortTag (c : Cursor) : Option (TagText × Cursor) :=
  match scanHandle c with
  | none => none
  | some (handle, c) =>
    if isClosedHandle handle then
      (scanSomeTagText isTagCharacter c).map fun (suffix, c) => (⟨handle, suffix⟩, c)
    else
      (scanTagText isTagCharacter c).map fun (suffix, c) =>
        let suffix := String.ofList (handle.toList.drop 1) ++ suffix
        (if suffix = "" then ⟨"", "!"⟩ else ⟨"!", suffix⟩, c)

/-- Scans a tag, which is followed by a gap or, in a flow collection, by a comma. -/
def scanTag (inFlow : Bool) (c : Cursor) : Option (TagText × Cursor) :=
  let found :=
    match c.rest with
    | '!' :: '<' :: _ => scanFullTag c
    | _ => scanShortTag c
  match found with
  | some (tag, c) => if atGap c.rest || (inFlow && c.sees ',') then some (tag, c) else none
  | none => none

/-! ## Directives -/

/-- How many digits a version number may have. -/
def versionDigits : Nat := 9

def scanVersionNumber (c : Cursor) : Option (Nat × Cursor) :=
  let digits := c.rest.takeWhile Char.isDigit
  if digits.isEmpty || versionDigits < digits.length then none
  else some (digits.foldl (fun n d => n * 10 + (d.toNat - 48)) 0, c.skip digits.length)

def scanVersion (c : Cursor) : Option (Directive × Cursor) :=
  match scanVersionNumber c with
  | some (major, c) =>
    if c.sees '.' then
      (scanVersionNumber (c.skip 1)).map fun (minor, c) => (.version major minor, c)
    else none
  | none => none

/-- Scans a handle and what it stands for. -/
def scanHandleMeaning (c : Cursor) : Option (Directive × Cursor) :=
  match scanHandle c with
  | none => none
  | some (handle, c) =>
    if (handle == "!" || isClosedHandle handle) && c.rest.head?.any isBlank then
      match scanSomeTagText isFullTagCharacter (c.skipWhile isBlank) with
      | some (stem, c) => if atGap c.rest then some (.tag handle stem, c) else none
      | none => none
    else none

/-- Scans a directive after its percent sign, to the end of the line. -/
def scanDirective (c : Cursor) : Option (Directive × Cursor) :=
  let name := c.rest.takeWhile isWord
  let c := c.skip name.length
  if atGap c.rest then
    let c := c.skipWhile isBlank
    let found :=
      if name = ['Y', 'A', 'M', 'L'] then scanVersion c
      else if name = ['T', 'A', 'G'] then scanHandleMeaning c
      else none
    match found with
    | some (d, c) => c.finishLine?.map fun c => (d, c)
    | none => none
  else none

end Credentials.Yaml
