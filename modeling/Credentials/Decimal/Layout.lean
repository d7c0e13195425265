import Credentials.Decimal.Shortest

/-!
# Numerals

A written decimal: its digits before and after the point and its exponent. A `Layout` holds the
decisions of one format, and `ofFloat` lays out the shortest digits of a double in it, always with a
point or an exponent.
-/

namespace Credentials.Decimal

/-- The decimal digits of a number, the first one first. -/
def digitsOf (n : Nat) : List Nat :=
  if n < 10 then [n] else digitsOf (n / 10) ++ [n % 10]

def ofDigitList (digits : List Nat) : Nat :=
  digits.foldl (fun n d => n * 10 + d) 0

def digitChar (d : Nat) : Char :=
  Char.ofNat (48 + d)

def natChars (n : Nat) : List Char :=
  (digitsOf n).map digitChar

def intChars (n : Int) : List Char :=
  if n < 0 then '-' :: natChars n.natAbs else natChars n.natAbs

/-- A written decimal. The fraction is empty when there is no point. -/
structure Numeral where
  negative : Bool
  whole : List Nat
  fraction : List Nat
  exponent : Option Int
  deriving DecidableEq, Repr

/-- The decisions of a number format: the positions of the decimal point, counted from before the
first digit, between which a number is written without an exponent, and whether a positive exponent
has a sign. -/
structure Layout where
  firstPoint : Int
  lastPoint : Int
  plusSign : Bool

namespace Numeral

def ofInt (n : Int) : Numeral :=
  ⟨n < 0, digitsOf n.natAbs, [], none⟩

/-- Digits with the decimal point after the first `point` of them, padded with zeros. -/
def positional (negative : Bool) (digits : List Nat) (point : Int) : Numeral :=
  if point ≤ 0 then ⟨negative, [0], List.replicate (-point).toNat 0 ++ digits, none⟩
  else
    let place := point.toNat
    if digits.length ≤ place then
      ⟨negative, digits ++ List.replicate (place - digits.length) 0, [0], none⟩
    else ⟨negative, digits.take place, digits.drop place, none⟩

/-- Digits with the point after the first one and an exponent. -/
def scientific (negative : Bool) (digits : List Nat) (point : Int) : Numeral :=
  ⟨negative, digits.take 1, digits.drop 1, some (point - 1)⟩

def ofDigits (l : Layout) (negative : Bool) (d : Digits) : Numeral :=
  let digits := digitsOf d.digits
  let point := Int.ofNat digits.length + d.exponent
  if l.firstPoint ≤ point ∧ point ≤ l.lastPoint then positional negative digits point
  else scientific negative digits point

def ofFloat (l : Layout) (x : Float) : Numeral :=
  let bits := x.toBits.toNat
  let size := bits % Nat.pow 2 63
  let negative := decide (Nat.pow 2 63 ≤ bits)
  if size = 0 then ⟨negative, [0], [0], none⟩
  else ofDigits l negative (shortest (.ofBits size))

def exponentChars (plusSign : Bool) : Option Int → List Char
  | none => []
  | some e => 'e' :: ((if 0 ≤ e && plusSign then ['+'] else []) ++ intChars e)

def write (plusSign : Bool) (n : Numeral) : List Char :=
  (if n.negative then ['-'] else []) ++ n.whole.map digitChar ++
    (if n.fraction = [] then [] else '.' :: n.fraction.map digitChar) ++
    exponentChars plusSign n.exponent

end Numeral

/-- A finite double in the given layout, as text. -/
def Layout.render (l : Layout) (x : Float) : String :=
  String.ofList ((Numeral.ofFloat l x).write l.plusSign)

end Credentials.Decimal
