import Credentials.Json.Basic

/-!
# Reading JSON

The strict grammar: no comments, no trailing commas, no leading zeros, no control characters in
strings, and nothing but space, tab, carriage return and line feed between tokens. A document may be
nested to any depth.
-/

namespace Credentials.Json

open Decimal (Numeral ofDigitList)

/-- The characters that may stand between tokens. -/
def isSpace (c : Char) : Bool :=
  c == ' ' || c == '\n' || c == '\t' || c == '\r'

def skipSpace (cs : List Char) : List Char :=
  cs.dropWhile isSpace

/-! ## Numbers -/

def digit? (c : Char) : Option Nat :=
  if '0' ≤ c ∧ c ≤ '9' then some (c.toNat - 48) else none

/-- The digits at the front, and what follows them. -/
def takeDigits : List Char → List Nat × List Char
  | [] => ([], [])
  | c :: rest =>
    match digit? c with
    | some d => let (ds, r) := takeDigits rest; (d :: ds, r)
    | none => ([], c :: rest)

/-- The digits after a point, if there is one. A point needs a digit after it. -/
def readFraction : List Char → Option (List Nat × List Char)
  | '.' :: rest =>
    match takeDigits rest with
    | ([], _) => none
    | (ds, r) => some (ds, r)
  | cs => some ([], cs)

/-- The exponent at the front, after its mark. -/
def readExponentDigits (negative : Bool) (cs : List Char) : Option (Option Int × List Char) :=
  match takeDigits cs with
  | ([], _) => none
  | (ds, r) =>
    let n := Int.ofNat (ofDigitList ds)
    some (some (if negative then -n else n), r)

def readExponent : List Char → Option (Option Int × List Char)
  | c :: rest =>
    if c = 'e' ∨ c = 'E' then
      match rest with
      | '+' :: r => readExponentDigits false r
      | '-' :: r => readExponentDigits true r
      | r => readExponentDigits false r
    else some (none, c :: rest)
  | [] => some (none, [])

def readUnsigned (negative : Bool) (cs : List Char) : Option (Numeral × List Char) :=
  match takeDigits cs with
  | ([], _) => none
  | (0 :: _ :: _, _) => none
  | (whole, r) =>
    match readFraction r with
    | none => none
    | some (fraction, r) =>
      match readExponent r with
      | none => none
      | some (exponent, r) => some (⟨negative, whole, fraction, exponent⟩, r)

def readNumeral : List Char → Option (Numeral × List Char)
  | '-' :: rest => readUnsigned true rest
  | cs => readUnsigned false cs

/-! ## Strings -/

/-- A part of a string: a character, or half of a surrogate pair. -/
inductive Piece where
  | char (c : Char)
  | half (unit : Nat)

def hexDigit? (c : Char) : Option Nat :=
  if '0' ≤ c ∧ c ≤ '9' then some (c.toNat - 48)
  else if 'a' ≤ c ∧ c ≤ 'f' then some (c.toNat - 87)
  else if 'A' ≤ c ∧ c ≤ 'F' then some (c.toNat - 55)
  else none

/-- The number of four hexadecimal digits. -/
def hex4? (a b c d : Char) : Option Nat :=
  match hexDigit? a, hexDigit? b, hexDigit? c, hexDigit? d with
  | some a, some b, some c, some d => some (((a * 16 + b) * 16 + c) * 16 + d)
  | _, _, _, _ => none

def shortEscape? (c : Char) : Option Char :=
  if c = '"' then some '"'
  else if c = '\\' then some '\\'
  else if c = '/' then some '/'
  else if c = 'b' then some '\x08'
  else if c = 'f' then some '\x0c'
  else if c = 'n' then some '\n'
  else if c = 'r' then some '\r'
  else if c = 't' then some '\t'
  else none

/-- What an escape by code unit stands for. -/
def Piece.ofUnit (n : Nat) : Piece :=
  if 0xD800 ≤ n ∧ n < 0xE000 then .half n else .char (Char.ofNat n)

/-- The rest of a string after its opening quote, and what follows the closing one. -/
def readPieces : List Char → Option (List Piece × List Char)
  | [] => none
  | '"' :: rest => some ([], rest)
  | '\\' :: 'u' :: a :: b :: c :: d :: rest =>
    match hex4? a b c d, readPieces rest with
    | some n, some (ps, r) => some (Piece.ofUnit n :: ps, r)
    | _, _ => none
  | '\\' :: e :: rest =>
    match shortEscape? e, readPieces rest with
    | some c, some (ps, r) => some (.char c :: ps, r)
    | _, _ => none
  | c :: rest =>
    if c.toNat < 0x20 ∨ c = '\\' then none
    else
      match readPieces rest with
      | some (ps, r) => some (.char c :: ps, r)
      | none => none

/-- The characters of a string, if every half of a surrogate pair has its other half next to it. -/
def joinPieces : List Piece → Option (List Char)
  | [] => some []
  | .char c :: rest => (joinPieces rest).map (c :: ·)
  | .half high :: .half low :: rest =>
    if high < 0xDC00 ∧ 0xDC00 ≤ low then
      (joinPieces rest).map (Char.ofNat (0x10000 + (high - 0xD800) * 0x400 + (low - 0xDC00)) :: ·)
    else none
  | .half _ :: _ => none

def readString (cs : List Char) : Option (Option String × List Char) :=
  (readPieces cs).map fun (ps, r) => ((joinPieces ps).map String.ofList, r)

/-! ## Documents -/

mutual

/-- A value at the front. The first argument bounds the number of steps. -/
def readValue : Nat → List Char → Option (Json × List Char)
  | 0, _ => none
  | n + 1, cs =>
    match skipSpace cs with
    | 'n' :: 'u' :: 'l' :: 'l' :: r => some (.null, r)
    | 't' :: 'r' :: 'u' :: 'e' :: r => some (.bool true, r)
    | 'f' :: 'a' :: 'l' :: 's' :: 'e' :: r => some (.bool false, r)
    | '"' :: r => (readString r).map fun (s, r) => (.string s, r)
    | '[' :: r =>
      match skipSpace r with
      | ']' :: r => some (.array [], r)
      | r => (readItems n r).map fun (items, r) => (.array items, r)
    | '\x7b' :: r =>
      match skipSpace r with
      | '\x7d' :: r => some (.object [], r)
      | r => (readMembers n r).map fun (members, r) => (.object members, r)
    | r => (readNumeral r).map fun (n, r) => (.number n, r)

/-- The items of an array that has at least one, up to the closing bracket. -/
def readItems : Nat → List Char → Option (List Json × List Char)
  | 0, _ => none
  | n + 1, cs =>
    match readValue n cs with
    | none => none
    | some (j, r) =>
      match skipSpace r with
      | ']' :: r => some ([j], r)
      | ',' :: r => (readItems n r).map fun (items, r) => (j :: items, r)
      | _ => none

/-- The members of an object that has at least one, up to the closing brace. -/
def readMembers : Nat → List Char → Option (List (Option String × Json) × List Char)
  | 0, _ => none
  | n + 1, cs =>
    match skipSpace cs with
    | '"' :: r =>
      match readString r with
      | none => none
      | some (key, r) =>
        match skipSpace r with
        | ':' :: r =>
          match readValue n r with
          | none => none
          | some (j, r) =>
            match skipSpace r with
            | '\x7d' :: r => some ([(key, j)], r)
            | ',' :: r => (readMembers n r).map fun (members, r) => ((key, j) :: members, r)
            | _ => none
        | _ => none
    | _ => none

end

/-- The document that a text holds, with nothing but space around it. Every character takes at most
two steps. -/
def ofChars? (cs : List Char) : Option Json :=
  match readValue (2 * cs.length + 2) cs with
  | some (j, r) => if skipSpace r = [] then some j else none
  | none => none

def ofString? (s : String) : Option Json :=
  ofChars? s.toList

end Credentials.Json
