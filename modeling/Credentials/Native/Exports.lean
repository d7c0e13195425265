import Credentials.Native.Layer
import Credentials.Native.Wire
import Credentials.Text.Bytes

/-!
# Exported functions

A native library exports four functions. Three of them hand out a string, or none; it lives in the
library's memory and ends at its first zero byte, and the fourth one takes it back. `layer` is the
native layer over such functions: a string is copied and taken back at once, whatever is in it, and an
argument that the other side would see cut short is refused before anything is called.
-/

namespace Credentials.Native

/-- A string that was handed out: where it is, and the bytes there. -/
structure Handed where
  address : Nat
  bytes : List UInt8
  deriving DecidableEq, Repr

/-- The bytes that a reader sees, up to the first zero. -/
def Handed.visible (h : Handed) : List UInt8 :=
  h.bytes.takeWhile (· ≠ 0)

/-- The functions of a native library. -/
structure Exports (σ : Type) where
  key : Int32 → Context → σ → Option Handed × σ
  hash : String → Context → σ → Option Handed × σ
  signature : String → Context → σ → Option Handed × σ
  /-- Takes back the string at an address. -/
  release : Nat → σ → σ

namespace Exports

variable {σ : Type}

/-- Copies what was handed out and gives it back. -/
def copy (e : Exports σ) (call : String) :
    Option Handed × σ → Except Failure (Option String) × σ
  | (none, m) => (.ok none, m)
  | (some h, m) =>
    let m := e.release h.address m
    match Text.ofBytes? h.visible with
    | some s => (.ok (some s), m)
    | none => (.error (.notText call), m)

def canPass (s : String) : Bool := !s.toList.contains '\x00'

/-- The result of a hash call, which has to have one. -/
def hashResult : Except Failure (Option String) → Except Failure String
  | .ok (some s) => .ok s
  | .ok none => .error (.nullResult hashCall)
  | .error f => .error f

/-- The result of a signature call, which is in wire form. -/
def signatureResult : Except Failure (Option String) → Except Failure (Option Value)
  | .ok (some s) =>
    match Value.decode? s with
    | some v => .ok (some v)
    | none => .error (.malformed "not the wire form of a value")
  | .ok none => .ok none
  | .error f => .error f

/-- The native layer over exported functions. -/
def layer (e : Exports σ) : Layer σ where
  key id c m :=
    let (r, m) := e.copy keyCall (e.key id c m)
    (.ofExcept r, m)
  hash s c m :=
    if canPass s then
      let (r, m) := e.copy hashCall (e.hash s c m)
      (.ofExcept (hashResult r), m)
    else (.failure (.innerNul hashCall), m)
  signature p c m :=
    if canPass p then
      let (r, m) := e.copy signatureCall (e.signature p c m)
      (.ofExcept (signatureResult r), m)
    else (.failure (.innerNul signatureCall), m)

end Exports

/-! ## Tables of replies -/

/-- A library whose replies are given: what is left of them, the strings it handed out and those that
were given back, and the calls it received. -/
structure Table where
  keyReplies : List (Option (List UInt8)) := []
  hashReplies : List (Option (List UInt8)) := []
  signatureReplies : List (Option (List UInt8)) := []
  /-- The addresses handed out, in order. -/
  handed : List Nat := []
  /-- The addresses given back, in order. -/
  released : List Nat := []
  calls : List Call := []
  deriving DecidableEq, Repr

namespace Table

/-- Hands out a reply under a new address. After the last reply there is none. -/
def reply (t : Table) : Option (List UInt8) → Option Handed × Table
  | none => (none, t)
  | some bytes =>
    let address := t.handed.length + 1
    (some ⟨address, bytes⟩, { t with handed := t.handed ++ [address] })

def next (replies : List (Option (List UInt8))) : Option (List UInt8) :=
  replies.head?.bind id

def note (t : Table) (c : Call) : Table := { t with calls := t.calls ++ [c] }

def exports : Exports Table where
  key id c t :=
    (Table.note { t with keyReplies := t.keyReplies.tail } (.key id c)).reply (next t.keyReplies)
  hash s c t :=
    (Table.note { t with hashReplies := t.hashReplies.tail } (.hash s c)).reply (next t.hashReplies)
  signature p c t :=
    (Table.note { t with signatureReplies := t.signatureReplies.tail } (.signature p c)).reply
      (next t.signatureReplies)
  release address t := { t with released := t.released ++ [address] }

/-- How many strings have been handed out and not given back. -/
def live (t : Table) : Int :=
  Int.ofNat t.handed.length - Int.ofNat t.released.length

end Table

end Credentials.Native
