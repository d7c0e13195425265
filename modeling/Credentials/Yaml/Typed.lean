import Credentials.Decimal.Layout
import Credentials.Yaml.Character

/-!
# Plain text with a type

Plain scalars that mean something other than their text: nothing, a truth value, an integer or another
number. Text that could be taken for one of them is written in quotes.
-/

namespace Credentials.Yaml

def isNullWord (s : String) : Bool :=
  s == "~" || s == "null" || s == "Null" || s == "NULL"

def bool? (s : String) : Option Bool :=
  if s = "true" ∨ s = "True" ∨ s = "TRUE" then some true
  else if s = "false" ∨ s = "False" ∨ s = "FALSE" then some false
  else none

/-! ## Integers -/

def isDigitOf (base : Nat) (c : Char) : Bool :=
  (hexValue? c).any (· < base)

/-- The number that digits of a base stand for. -/
def digitsValue (base : Nat) (cs : List Char) : Nat :=
  cs.foldl (fun n c => n * base + (hexValue? c).getD 0) 0

/-- Whether some digits of a base stand for a number below a bound. -/
def areDigitsBelow (base bound : Nat) (cs : List Char) : Bool :=
  !cs.isEmpty && cs.all (isDigitOf base) && digitsValue base cs < bound

/-- What follows one of the marks `0x`, `0o` and `0b`, with the base it announces. -/
def based? : List Char → Option (Nat × List Char)
  | '0' :: 'x' :: rest => some (16, rest)
  | '0' :: 'o' :: rest => some (8, rest)
  | '0' :: 'b' :: rest => some (2, rest)
  | _ => none

/-- Digits of which the first one of several is a zero: a text and no number. -/
def isPadded : List Char → Bool
  | '0' :: c :: rest => (c :: rest).all Char.isDigit
  | _ => false

/-- Whether text after the sign is an integer below a bound. -/
def isIntBelow (bound : Nat) (cs : List Char) : Bool :=
  match based? cs with
  | some (base, digits) => areDigitsBelow base bound digits
  | none => !isPadded cs && areDigitsBelow 10 bound cs

/-- Whether a text is an integer of 128 bits, with a sign or without one. -/
def isInt : List Char → Bool
  | '-' :: cs => isIntBelow (Nat.pow 2 127 + 1) cs
  | '+' :: cs => isIntBelow (Nat.pow 2 128) cs
  | cs => isIntBelow (Nat.pow 2 128) cs

/-! ## Other numbers -/

/-- The least number that rounds to infinity as a double. -/
def overflow : Nat := Nat.pow 2 1024 - Nat.pow 2 970

/-- Whether `digits` times a power of ten is a finite double. Only where the number of its digits does
not decide is it computed. -/
def isFiniteDecimal (digits : List Char) (exponent : Int) : Bool :=
  let digits := digits.dropWhile (· == '0')
  let size := Int.ofNat digits.length + exponent
  if digits.isEmpty || size < 309 then true
  else if 309 < size then false
  else if 0 ≤ exponent then digitsValue 10 digits * Nat.pow 10 exponent.toNat < overflow
  else digitsValue 10 digits < overflow * Nat.pow 10 (-exponent).toNat

/-- The exponent that a text states after the digits of a number; no text states zero. -/
def exponent? : List Char → Option Int
  | [] => some 0
  | e :: rest =>
    if e = 'e' ∨ e = 'E' then
      let (negative, digits) :=
        match rest with
        | '-' :: r => (true, r)
        | '+' :: r => (false, r)
        | r => (false, r)
      if digits.isEmpty || !digits.all Char.isDigit then none
      else
        let n := Int.ofNat (digitsValue 10 digits)
        some (if negative then -n else n)
    else none

/-- Whether text after the sign is a number with digits, a point among them or none, and an exponent
or none, and finite as a double. -/
def isDecimal (cs : List Char) : Bool :=
  let whole := cs.takeWhile Char.isDigit
  let rest := cs.dropWhile Char.isDigit
  let (fraction, rest) :=
    match rest with
    | '.' :: r => (r.takeWhile Char.isDigit, r.dropWhile Char.isDigit)
    | r => ([], r)
  if whole.isEmpty && fraction.isEmpty then false
  else
    match exponent? rest with
    | some e => isFiniteDecimal (whole ++ fraction) (e - fraction.length)
    | none => false

/-- A spelling of infinity, without its sign. -/
def isInfinityWord (cs : List Char) : Bool :=
  cs == ['.', 'i', 'n', 'f'] || cs == ['.', 'I', 'n', 'f'] || cs == ['.', 'I', 'N', 'F']

def isNaNWord (cs : List Char) : Bool :=
  cs == ['.', 'n', 'a', 'n'] || cs == ['.', 'N', 'a', 'N'] || cs == ['.', 'N', 'A', 'N']

/-- Whether a text is a number other than an integer. -/
def isFloat (cs : List Char) : Bool :=
  let unsigned :=
    match cs with
    | '-' :: r => r
    | '+' :: r => r
    | r => r
  !isPadded unsigned && (isInfinityWord unsigned || isNaNWord cs || isDecimal unsigned)

/-- Whether plain text means something other than itself. -/
def isTyped (s : String) : Bool :=
  s == "" || isNullWord s || (bool? s).isSome || isInt s.toList || isFloat s.toList

end Credentials.Yaml
