import Credentials.Decimal.Layout
import Credentials.Text.Outline
import Credentials.Text.Quoted

/-!
# Native values

The values a native library can return. The native side gives no guarantees about their shape, so maps
are lists of entries whose keys may be anything and may repeat.
-/

namespace Credentials.Native

/-- A value from the native side. -/
inductive Value where
  | null
  | bool (b : Bool)
  | int (n : Int64)
  | float (x : Float)
  | str (s : String)
  | bytes (bs : List UInt8)
  | list (items : List Value)
  | map (entries : List (Value × Value))
  deriving Inhabited

inductive Tag where
  | null
  | bool
  | int
  | float
  | str
  | bytes
  | list
  | map
  deriving DecidableEq, Repr

namespace Tag

def all : List Tag := [.null, .bool, .int, .float, .str, .bytes, .list, .map]

def name : Tag → String
  | .null => "null"
  | .bool => "bool"
  | .int => "int"
  | .float => "float"
  | .str => "str"
  | .bytes => "bytes"
  | .list => "list"
  | .map => "map"

def ofName? (s : String) : Option Tag :=
  all.find? (·.name == s)

end Tag

namespace Value

open Text (Outline)

def tag : Value → Tag
  | null => .null
  | bool _ => .bool
  | int _ => .int
  | float _ => .float
  | str _ => .str
  | bytes _ => .bytes
  | list _ => .list
  | map _ => .map

def text? : Value → Option String
  | str s => some s
  | _ => none

def isNull : Value → Bool
  | null => true
  | _ => false

mutual

/-- Equality of values, with the comparison of floats: a value with a NaN in it is not equal to
itself. -/
def same : Value → Value → Bool
  | null, null => true
  | bool a, bool b => a == b
  | int a, int b => a == b
  | float a, float b => a == b
  | str a, str b => a == b
  | bytes a, bytes b => a == b
  | list a, list b => sameItems a b
  | map a, map b => sameEntries a b
  | _, _ => false

def sameItems : List Value → List Value → Bool
  | [], [] => true
  | a :: as, b :: bs => same a b && sameItems as bs
  | _, _ => false

def sameEntries : List (Value × Value) → List (Value × Value) → Bool
  | [], [] => true
  | (k, a) :: as, (l, b) :: bs => same k l && same a b && sameEntries as bs
  | _, _ => false

end

/-! ## Diagnostics -/

/-- Numbers in diagnostics: positional from a ten-thousandth up to 10^16, no sign before a positive
exponent. -/
def diagnosticLayout : Decimal.Layout := ⟨-3, 16, false⟩

def describeFloat (x : Float) : String :=
  if x.isNaN then "NaN"
  else if x.isInf then (if x < 0 then "-inf" else "inf")
  else diagnosticLayout.render x

def describeInt (n : Int) : Outline :=
  .atom (String.ofList (Decimal.intChars n))

mutual

def outline : Value → Outline
  | null => .atom "Null"
  | bool b => .tuple "Bool" [.ofBool b]
  | int n => .tuple "Int" [describeInt n.toInt]
  | float x => .tuple "Float" [.atom (describeFloat x)]
  | str s => .tuple "Str" [.atom (Text.quoted s)]
  | bytes bs => .tuple "Bytes" [.list (bs.map fun b => describeInt b.toNat)]
  | list items => .tuple "List" [.list (outlineItems items)]
  | map entries => .tuple "Map" [.list (outlineEntries entries)]

def outlineItems : List Value → List Outline
  | [] => []
  | v :: rest => outline v :: outlineItems rest

def outlineEntries : List (Value × Value) → List Outline
  | [] => []
  | (k, v) :: rest => .tuple "" [outline k, outline v] :: outlineEntries rest

end

end Value

end Credentials.Native
