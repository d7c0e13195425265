/-!
# Shortest decimals

The fewest decimal digits that read back as a given binary fraction. A positive finite double is
`m · 2^q`; every decimal in the interval that rounds to it reads back, and the end points belong to
the interval exactly when `m` is even. The search goes down the powers of ten and takes the first one
of which a multiple lies in the interval: of the two multiples next to the value the nearer one, and
the even one of two that are equally near.
-/

namespace Credentials.Decimal

/-- A positive double: mantissa, binary exponent, and whether the gap below is half the gap above. -/
structure Binary where
  mantissa : Nat
  exponent : Int
  narrowBelow : Bool

/-- The parts of the bits of a positive finite double. -/
def Binary.ofBits (bits : Nat) : Binary :=
  let fraction := bits % Nat.pow 2 52
  let field := bits / Nat.pow 2 52 % Nat.pow 2 11
  if field = 0 then ⟨fraction, -1074, false⟩
  else ⟨Nat.pow 2 52 + fraction, Int.ofNat field - 1075, fraction = 0 ∧ 1 < field⟩

/-- Digits and the power of ten of the last one: `digits · 10^exponent`. -/
structure Digits where
  digits : Nat
  exponent : Int
  deriving DecidableEq, Repr

/-- The multiple of `10^k` to write for a binary fraction, if one reads back. All quantities are
quarters of the last binary place, scaled to a common denominator. -/
def onGrid (b : Binary) (k : Int) : Option Digits :=
  let scale := Nat.pow 2 (b.exponent - 2).toNat * Nat.pow 10 (-k).toNat
  let value := 4 * b.mantissa * scale
  let low := (4 * b.mantissa - if b.narrowBelow then 1 else 2) * scale
  let high := (4 * b.mantissa + 2) * scale
  let unit := Nat.pow 2 (2 - b.exponent).toNat * Nat.pow 10 k.toNat
  let inside (n : Nat) : Bool :=
    if b.mantissa % 2 = 0 then low ≤ n * unit && n * unit ≤ high
    else low < n * unit && n * unit < high
  let below := value / unit
  let above := below + 1
  match inside below, inside above with
  | false, false => none
  | true, false => some ⟨below, k⟩
  | false, true => some ⟨above, k⟩
  | true, true =>
    let left := value - below * unit
    let right := above * unit - value
    if left < right ∨ (left = right ∧ below % 2 = 0) then some ⟨below, k⟩ else some ⟨above, k⟩

/-- The powers of ten from `10^top` down, `count` of them: the first with a multiple that reads
back. -/
def search (b : Binary) (top : Int) : Nat → Option Digits
  | 0 => none
  | count + 1 =>
    match onGrid b top with
    | some d => some d
    | none => search b (top - 1) count

/-- The shortest digits of a positive finite double. The powers run from the largest below the
largest double to the one of the smallest's last digit. -/
def shortest (b : Binary) : Digits :=
  (search b 309 640).getD ⟨0, 0⟩

end Credentials.Decimal
