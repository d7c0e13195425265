import Credentials.Decimal.Scaled
import Credentials.Json.Reader
import Credentials.Json.Writer
import Credentials.Native.Value

/-!
# The wire form of native values

A value travels as a JSON object with its tag under `type` and its content under `value`, in either
order and among other members, or as an array of the two. Null needs no content. Bytes are an array of
numbers, maps an array of pairs.

Nesting is limited to `depthLimit` arrays and objects, except inside members that are passed over.
Content that comes before its tag has to be taken in whole before it can be understood, so there the
limit, and the rest of what makes a document usable, holds for every part of it. In what was taken in
(`taken`) a tag may be spelled in two more ways: as an object with an empty object in it, and, at the
start of an array, as the number of the tag.
-/

namespace Credentials.Native.Value

open Decimal (Numeral ofDigitList)

/-- How deep arrays and objects may be nested. -/
def depthLimit : Nat := 127

/-- Numbers on the wire: positional from a hundred-thousandth up to 10^16, a sign before every
exponent. -/
def wireLayout : Decimal.Layout := ⟨-4, 16, true⟩

/-! ## Encoding -/

def tagged (t : Tag) (content : Json) : Json :=
  .object [(some "type", .string (some t.name)), (some "value", content)]

/-- A number that is not finite has no numeral and becomes null. -/
def floatJson (x : Float) : Json :=
  if x.isFinite then .number (.ofFloat wireLayout x) else .null

mutual

def toJson : Value → Json
  | null => .object [(some "type", .string (some Tag.null.name))]
  | bool b => tagged .bool (.bool b)
  | int n => tagged .int (.number (.ofInt n.toInt))
  | float x => tagged .float (floatJson x)
  | str s => tagged .str (.string (some s))
  | bytes bs => tagged .bytes (.array (bs.map fun b => .number (.ofInt b.toNat)))
  | list items => tagged .list (.array (itemsJson items))
  | map entries => tagged .map (.array (entriesJson entries))

def itemsJson : List Value → List Json
  | [] => []
  | v :: rest => toJson v :: itemsJson rest

def entriesJson : List (Value × Value) → List Json
  | [] => []
  | (k, v) :: rest => .array [toJson k, toJson v] :: entriesJson rest

end

def encode (v : Value) : String :=
  v.toJson.toText

/-! ## Decoding -/

/-- The integer of a numeral. A negative zero is none, nor is anything with a point or an exponent. -/
def wireInt? (n : Numeral) : Option Int :=
  if n.fraction = [] ∧ n.exponent = none then
    let size := ofDigitList n.whole
    if n.negative then (if size = 0 then none else some (-Int.ofNat size))
    else some (Int.ofNat size)
  else none

def wireFloat? (n : Numeral) : Option Float :=
  Decimal.ofDigits n.negative n.whole n.fraction (n.exponent.getD 0)

mutual

/-- Whether a document can be taken in whole: nested no deeper than allowed, with texts for strings
and finite doubles for numbers. -/
def takeable (budget : Nat) : Json → Bool
  | .number n => (wireFloat? n).isSome
  | .string s => s.isSome
  | .array items =>
    match budget with
    | 0 => false
    | b + 1 => takeableItems b items
  | .object members =>
    match budget with
    | 0 => false
    | b + 1 => takeableMembers b members
  | _ => true

def takeableItems (budget : Nat) : List Json → Bool
  | [] => true
  | j :: rest => takeable budget j && takeableItems budget rest

def takeableMembers (budget : Nat) : List (Option String × Json) → Bool
  | [] => true
  | (key, j) :: rest => key.isSome && takeable budget j && takeableMembers budget rest

end

def readByte? : Json → Option UInt8
  | .number n =>
    match wireInt? n with
    | some i => if 0 ≤ i ∧ i < 256 then some (UInt8.ofNat i.toNat) else none
    | none => none
  | _ => none

def readBytes? : List Json → Option (List UInt8)
  | [] => some []
  | j :: rest =>
    match readByte? j, readBytes? rest with
    | some b, some bs => some (b :: bs)
    | _, _ => none

/-- The integer that a document stands for, if it fits into 64 bits. -/
def readInt? : Json → Option Int64
  | .number n =>
    match wireInt? n with
    | some i =>
      if Int64.minValue.toInt ≤ i ∧ i ≤ Int64.maxValue.toInt then some (Int64.ofInt i) else none
    | none => none
  | _ => none

def readTag? (taken : Bool) (budget : Nat) : Json → Option Tag
  | .object [(some name, .object [])] => if taken then Tag.ofName? name else none
  | j => if j.depth ≤ budget then j.variantName?.bind Tag.ofName? else none

theorem readTag?_string (taken : Bool) (budget : Nat) (name : Option String) :
    readTag? taken budget (.string name) = name.bind Tag.ofName? := by
  simp [readTag?, Json.depth, Json.variantName?]

/-- The tag that an array starts with. It cannot be an object here. -/
def pairTag? (taken : Bool) : Json → Option Tag
  | .string name => name.bind Tag.ofName?
  | .number n => if taken then (readByte? (.number n)).bind fun b => Tag.all[b.toNat]? else none
  | _ => none

def occurrences (name : String) (members : List (Option String × Json)) : Nat :=
  members.countP fun m => m.1 == some name

/-- The tag of an object whose members are in order: every name is a text, there is one tag, and
content at most once. -/
def memberTag? (taken : Bool) (budget : Nat) (members : List (Option String × Json)) : Option Tag :=
  if members.all (·.1.isSome) ∧ occurrences "type" members = 1 ∧ occurrences "value" members ≤ 1 then
    (members.find? fun m => m.1 == some "type").bind fun m => readTag? taken budget m.2
  else none

mutual

/-- The value of a document within a nesting budget. -/
def ofJson (taken : Bool) (budget : Nat) : Json → Option Value
  | .object members =>
    match budget with
    | 0 => none
    | b + 1 =>
      match memberTag? taken b members with
      | some t => ofMembers taken b t false members
      | none => none
  | .array items =>
    match budget with
    | 0 => none
    | b + 1 => ofPair taken b items
  | _ => none

/-- The value whose tag is known, from the members of its object. Content before the tag has to be
takeable. Without content only null is a value. -/
def ofMembers (taken : Bool) (budget : Nat) (t : Tag) (tagSeen : Bool) :
    List (Option String × Json) → Option Value
  | [] => if t = .null then some .null else none
  | (key, j) :: rest =>
    if key = some "value" then
      if tagSeen || takeable budget j then ofContent (taken || !tagSeen) budget t j else none
    else ofMembers taken budget t (tagSeen || key == some "type") rest

/-- The value of an array of tag and content. -/
def ofPair (taken : Bool) (budget : Nat) : List Json → Option Value
  | [t, content] =>
    match pairTag? taken t with
    | some t => ofContent taken budget t content
    | none => none
  | _ => none

def ofContent (taken : Bool) (budget : Nat) (t : Tag) : Json → Option Value
  | .null => if t = .null then some .null else none
  | .bool b => if t = .bool then some (.bool b) else none
  | .number n =>
    if t = .int then (readInt? (.number n)).map .int
    else if t = .float then (wireFloat? n).map .float
    else none
  | .string s => if t = .str then s.map .str else none
  | .array items =>
    match budget with
    | 0 => none
    | b + 1 =>
      if t = .bytes then (readBytes? items).map .bytes
      else if t = .list then (ofItems taken b items).map .list
      else if t = .map then (ofEntries taken b items).map .map
      else none
  | .object _ => none

def ofItems (taken : Bool) (budget : Nat) : List Json → Option (List Value)
  | [] => some []
  | j :: rest =>
    match ofJson taken budget j, ofItems taken budget rest with
    | some v, some vs => some (v :: vs)
    | _, _ => none

def ofEntries (taken : Bool) (budget : Nat) : List Json → Option (List (Value × Value))
  | [] => some []
  | j :: rest =>
    match ofEntry taken budget j, ofEntries taken budget rest with
    | some e, some es => some (e :: es)
    | _, _ => none

/-- An entry of a map: an array of key and value. -/
def ofEntry (taken : Bool) (budget : Nat) : Json → Option (Value × Value)
  | .array items =>
    match budget with
    | 0 => none
    | b + 1 => ofKeyAndValue taken b items
  | _ => none

def ofKeyAndValue (taken : Bool) (budget : Nat) : List Json → Option (Value × Value)
  | [k, v] =>
    match ofJson taken budget k, ofJson taken budget v with
    | some k, some v => some (k, v)
    | _, _ => none
  | _ => none

end

/-- The value that a text in wire form stands for. -/
def decode? (s : String) : Option Value :=
  (Json.ofString? s).bind (ofJson false depthLimit)

end Credentials.Native.Value
