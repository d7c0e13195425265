import Credentials.Decimal.Layout

/-!
# JSON documents

The tree of a document as it is written: numbers keep their digits, objects keep every member in
order. A string is `none` when one of its escapes names half of a surrogate pair and so no character;
such a string may be passed over but not used.
-/

namespace Credentials

open Decimal (Numeral)

inductive Json where
  | null
  | bool (b : Bool)
  | number (n : Numeral)
  | string (text : Option String)
  | array (items : List Json)
  | object (members : List (Option String × Json))

namespace Json

mutual

/-- How many arrays and objects are nested in a document. -/
def depth : Json → Nat
  | array items => depthItems items + 1
  | object members => depthMembers members + 1
  | _ => 0

def depthItems : List Json → Nat
  | [] => 0
  | j :: rest => max (depth j) (depthItems rest)

def depthMembers : List (Option String × Json) → Nat
  | [] => 0
  | (_, j) :: rest => max (depth j) (depthMembers rest)

end

/-- The name of a variant without content: a string, or an object whose only member has that name
and the value `null`. -/
def variantName? : Json → Option String
  | string text => text
  | object [(some name, null)] => some name
  | _ => none

end Json

end Credentials
