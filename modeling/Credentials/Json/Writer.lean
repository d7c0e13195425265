import Credentials.Json.Basic

/-!
# Writing JSON

Compact documents. A string escapes the quote, the backslash and the control characters below U+0020,
by a short escape where there is one and else by code point in lower-case digits; every other character
stands as it is. A positive exponent has a sign.
-/

namespace Credentials.Json

/-- A lower-case hexadecimal digit. -/
def hexChar (n : Nat) : Char :=
  if n < 10 then Char.ofNat (48 + n) else Char.ofNat (87 + n)

/-- What stands for a character in a string. -/
def escape (c : Char) : List Char :=
  if c = '"' then ['\\', '"']
  else if c = '\\' then ['\\', '\\']
  else if c = '\x08' then ['\\', 'b']
  else if c = '\t' then ['\\', 't']
  else if c = '\n' then ['\\', 'n']
  else if c = '\x0c' then ['\\', 'f']
  else if c = '\r' then ['\\', 'r']
  else if c.toNat < 0x20 then
    ['\\', 'u', '0', '0', hexChar (c.toNat / 16), hexChar (c.toNat % 16)]
  else [c]

/-- A string in quotes. A string that is no text is written as half a surrogate pair. -/
def writeString : Option String → List Char
  | some s => '"' :: (s.toList.flatMap escape ++ ['"'])
  | none => ['"', '\\', 'u', 'd', '8', '0', '0', '"']

mutual

def write : Json → List Char
  | null => ['n', 'u', 'l', 'l']
  | bool true => ['t', 'r', 'u', 'e']
  | bool false => ['f', 'a', 'l', 's', 'e']
  | number n => n.write true
  | string s => writeString s
  | array [] => ['[', ']']
  | array (j :: rest) => '[' :: (write j ++ writeItems rest)
  | object [] => ['\x7b', '\x7d']
  | object ((key, j) :: rest) => '\x7b' :: (writeString key ++ ':' :: (write j ++ writeMembers rest))

/-- The items after the first one, and the closing bracket. -/
def writeItems : List Json → List Char
  | [] => [']']
  | j :: rest => ',' :: (write j ++ writeItems rest)

/-- The members after the first one, and the closing brace. -/
def writeMembers : List (Option String × Json) → List Char
  | [] => ['\x7d']
  | (key, j) :: rest => ',' :: (writeString key ++ ':' :: (write j ++ writeMembers rest))

end

def toText (j : Json) : String :=
  String.ofList (write j)

end Credentials.Json
