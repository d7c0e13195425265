import Credentials.Yaml.Cursor

/-!
# Quoted scalars

Text in single quotes, where a quote is written twice, and in double quotes, where a backslash starts
an escape. Both may go on over several lines, which are folded.
-/

namespace Credentials.Yaml

/-- The character of a one-letter escape. -/
def letterEscape? (c : Char) : Option Char :=
  if c = '0' then some '\x00'
  else if c = 'a' then some '\x07'
  else if c = 'b' then some '\x08'
  else if c = 't' ∨ c = '\t' then some '\t'
  else if c = 'n' then some '\n'
  else if c = 'v' then some '\x0b'
  else if c = 'f' then some '\x0c'
  else if c = 'r' then some '\r'
  else if c = 'e' then some '\x1b'
  else if c = ' ' then some ' '
  else if c = '"' then some '"'
  else if c = '/' then some '/'
  else if c = '\\' then some '\\'
  else if c = 'N' then some '\u0085'
  else if c = '_' then some '\u00a0'
  else if c = 'L' then some '\u2028'
  else if c = 'P' then some '\u2029'
  else none

/-- How many hexadecimal digits an escape by code point has. -/
def codeLength (c : Char) : Nat :=
  if c = 'x' then 2 else if c = 'u' then 4 else if c = 'U' then 8 else 0

/-- The character with a code point, if it has one. -/
def charOfCode? (n : Nat) : Option Char :=
  if n < 0xD800 ∨ (0xDFFF < n ∧ n ≤ 0x10FFFF) then some (Char.ofNat n) else none

/-- The character that the digits of an escape name. -/
def codeEscape? (length : Nat) (cs : List Char) : Option Char :=
  let digits := cs.take length
  if digits.length = length then (hexNumber? digits).bind charOfCode? else none

/-- Scans a scalar in single quotes after the opening one. -/
def scanSingle (at_ : Cursor) (gap : Gap) (text : List Char) :
    List Char → Option (List Char × Cursor)
  | [] => none
  | '\r' :: '\n' :: rest => scanSingle (at_.newLine 2 []) (gap.addBreak '\n') text rest
  | c :: rest =>
    if isBlank c then scanSingle (at_.skip 1) (gap.addBlank c) text rest
    else if isBreak c then
      scanSingle (at_.newLine 1 []) (gap.addBreak (normalBreak c)) text rest
    else if atDocumentMarker at_.column (c :: rest) then none
    else
      let text := gap.text.reverse ++ text
      if c = '\'' then
        match rest with
        | '\'' :: rest => scanSingle (at_.skip 2) {} ('\'' :: text) rest
        | _ => some (text.reverse, { at_.skip 1 with rest })
      else scanSingle (at_.skip 1) {} (c :: text) rest

/-- Scans a scalar in double quotes after the opening one. `hidden` counts the digits of an escape
that have been taken into account and are only to be passed over. -/
def scanDouble (at_ : Cursor) (hidden : Nat) (gap : Gap) (text : List Char) :
    List Char → Option (List Char × Cursor)
  | [] => none
  | '\\' :: '\r' :: '\n' :: rest =>
    if hidden ≠ 0 ∨ atDocumentMarker at_.column ('\\' :: '\r' :: '\n' :: rest) then none
    else
      scanDouble (at_.newLine 3 []) 0 .afterEscape (gap.text.reverse ++ text) rest
  | '\\' :: e :: rest =>
    if hidden ≠ 0 then none
    else
      let text := gap.text.reverse ++ text
      if isBreak e then scanDouble (at_.newLine 2 []) 0 .afterEscape text rest
      else
        match letterEscape? e with
        | some c => scanDouble (at_.skip 2) 0 {} (c :: text) rest
        | none =>
          if codeLength e = 0 then none
          else
            match codeEscape? (codeLength e) rest with
            | some c => scanDouble (at_.skip 2) (codeLength e) {} (c :: text) rest
            | none => none
  | '\r' :: '\n' :: rest =>
    if hidden ≠ 0 then none
    else scanDouble (at_.newLine 2 []) 0 (gap.addBreak '\n') text rest
  | c :: rest =>
    if hidden ≠ 0 then scanDouble (at_.skip 1) (hidden - 1) gap text rest
    else if isBlank c then scanDouble (at_.skip 1) 0 (gap.addBlank c) text rest
    else if isBreak c then
      scanDouble (at_.newLine 1 []) 0 (gap.addBreak (normalBreak c)) text rest
    else if atDocumentMarker at_.column (c :: rest) then none
    else
      let text := gap.text.reverse ++ text
      if c = '"' then some (text.reverse, { at_.skip 1 with rest })
      else if c = '\\' then none
      else scanDouble (at_.skip 1) 0 {} (c :: text) rest

/-! ## Spaces -/

theorem scanSingle_space (at_ : Cursor) (gap : Gap) (text rest : List Char) :
    scanSingle at_ gap text (' ' :: rest) = scanSingle (at_.skip 1) (gap.addBlank ' ') text rest := by
  rw [scanSingle]
  all_goals simp [isBlank]

theorem scanDouble_space (at_ : Cursor) (gap : Gap) (text rest : List Char) :
    scanDouble at_ 0 gap text (' ' :: rest) = scanDouble (at_.skip 1) 0 (gap.addBlank ' ') text rest := by
  rw [scanDouble]
  all_goals simp [isBlank]

end Credentials.Yaml
