/-!
# Scaled significands

The double that a decimal text stands for: its leading digits as far as they fit into 64 bits, scaled
by one power of ten. Digits that no longer fit count towards the exponent before the point and are
ignored after it. The one rounding of the significand and the one of the scaling are those of the
double's own arithmetic.
-/

namespace Credentials.Decimal

/-- The value of the digits taken so far and the digits that follow, stopping before the first one
that would not fit into 64 bits. -/
def takeFitting (value : Nat) : List Nat → Nat × List Nat
  | [] => (value, [])
  | d :: rest =>
    if value * 10 + d < Nat.pow 2 64 then takeFitting (value * 10 + d) rest else (value, d :: rest)

/-- The largest power of ten that a double can hold. -/
def maxPower : Nat := 308

def powerOfTen (n : Nat) : Float :=
  Float.ofScientific 1 false n

/-- Division by `10^k`, in steps no larger than the largest power that a double can hold. -/
def scaleDown (x : Float) (k : Nat) : Float :=
  if x == 0 then x
  else if _h : k ≤ maxPower then x / powerOfTen k
  else scaleDown (x / powerOfTen maxPower) (k - maxPower)
termination_by k
decreasing_by simp only [maxPower] at *; omega

def ifFinite (x : Float) : Option Float :=
  if x.isFinite then some x else none

/-- `significand · 10^exponent`, unless it is too large for a double. -/
def scale (significand : Nat) (exponent : Int) : Option Float :=
  let x := (UInt64.ofNat significand).toFloat
  if exponent < 0 then ifFinite (scaleDown x exponent.natAbs)
  else if exponent.natAbs ≤ maxPower then ifFinite (x * powerOfTen exponent.natAbs)
  else if significand = 0 then some 0.0
  else none

/-- The double of a decimal with the given digits before and after the point, and an exponent. -/
def ofDigits (negative : Bool) (whole fraction : List Nat) (exponent : Int) : Option Float :=
  let (value, dropped) := takeFitting 0 whole
  let (significand, ignored) := takeFitting value fraction
  let shift := Int.ofNat dropped.length - Int.ofNat (fraction.length - ignored.length)
  (scale significand (exponent + shift)).map fun x => if negative then -x else x

end Credentials.Decimal
