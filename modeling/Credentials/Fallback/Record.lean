import Credentials.Secret
import Credentials.Yaml.Document
import Credentials.Yaml.Typed
import Credentials.Yaml.Writer

/-!
# Records of static values

What a fallback file holds: a value for each secret and the debug switch, each of which may be absent.
In text a record is a YAML mapping with other keys ignored. `ofText?` reads a record and `toText` writes
one.
-/

namespace Credentials.Fallback

/-- The contents of a fallback file. -/
structure Record where
  serviceId : Option String := none
  telemetryId : Option String := none
  sharedSecret : Option String := none
  debug : Option Bool := none
  deriving DecidableEq, Repr

namespace Record

def value? (r : Record) : Secret → Option String
  | .serviceId => r.serviceId
  | .telemetryId => r.telemetryId
  | .sharedSecret => r.sharedSecret

def setValue (r : Record) (s : Secret) (value : Option String) : Record :=
  match s with
  | .serviceId => { r with serviceId := value }
  | .telemetryId => { r with telemetryId := value }
  | .sharedSecret => { r with sharedSecret := value }

inductive Field where
  | value (s : Secret)
  | debug
  deriving DecidableEq, Repr

def debugKey : String := "debug"

def Field.ofKey? (key : String) : Option Field :=
  if key = debugKey then some .debug else (Secret.ofName? key).map .value

/-! ## Reading -/

open Yaml (Node Scalar Document)

def nullTag : String := "tag:yaml.org,2002:null"

def boolTag : String := "tag:yaml.org,2002:bool"

/-- Whether a scalar stands for an absent field. Only a plain one can; one that is tagged as absent has
to be. -/
def isAbsent? (s : Scalar) : Option Bool :=
  if s.style ≠ .plain then some false
  else
    match s.tag with
    | none => some (s.text == "" || Yaml.isNullWord s.text)
    | some t =>
      if t ≠ nullTag then some false
      else if Yaml.isNullWord s.text then some true
      else none

def readBool? (s : Scalar) : Option Bool :=
  if s.style = .plain ∨ (s.style = .literal ∧ s.tag = some boolTag) then Yaml.bool? s.text else none

def setField (r : Record) (f : Field) (s : Scalar) : Option Record :=
  match isAbsent? s, f with
  | none, _ => none
  | some true, _ => some r
  | some false, .value k => some (r.setValue k (some s.text))
  | some false, .debug => (readBool? s).map fun b => { r with debug := some b }

/-- Reads entries into a record. Keys are scalars, and no field has two of them. -/
def readEntries (d : Document) (seen : List Field) (r : Record) :
    List (Node Nat × Node Nat) → Option Record
  | [] => some r
  | (k, v) :: rest =>
    match d.scalar? k with
    | none => none
    | some key =>
      match Field.ofKey? key.text with
      | none => readEntries d seen r rest
      | some f =>
        if f ∈ seen then none
        else
          match (d.scalar? v).bind (r.setField f) with
          | some r => readEntries d (f :: seen) r rest
          | none => none

/-- The record of a document: a mapping, or nothing at all. -/
def ofDocument? (d : Document) : Option Record :=
  match d.root with
  | .mapping _ entries => readEntries d [] {} entries
  | .scalar _ s => if s.style = .plain ∧ s.text = "" then some {} else none
  | _ => none

def ofText? (text : String) : Option Record :=
  (Document.ofText? text).bind ofDocument?

/-! ## Writing -/

/-- The entry of a value, if there is one. -/
def valueText (r : Record) (s : Secret) : String :=
  match r.value? s with
  | some v => Yaml.textEntry s.name v
  | none => ""

/-- The entry of the debug switch, if it is set. -/
def debugText (r : Record) : String :=
  match r.debug with
  | some b => Yaml.boolEntry debugKey b
  | none => ""

def toText (r : Record) : String :=
  if r = {} then "\x7b\x7d\n"
  else String.join (Secret.all.map r.valueText) ++ r.debugText

end Record

end Credentials.Fallback
