import Credentials.Native.Failure
import Credentials.Native.Value

/-!
# The native layer

What native code offers: keys by number, hashes and signatures. Every call hands over a token of the
host platform and may read and change the memory of the native side, of type `σ`. A call answers, fails
or panics. `recorded` is a layer that keeps a list of the calls it receives.
-/

namespace Credentials.Native

/-- A token of the host platform that is handed to native code as it is. -/
structure Context where
  raw : UInt64
  deriving DecidableEq, Repr

namespace Context

def null : Context := ⟨0⟩

def isNull (c : Context) : Bool := c.raw == 0

/-- A number in hexadecimal, of at least so many digits. -/
def hex (width n : Nat) : String :=
  let digits := Nat.toDigits 16 n
  "0x" ++ String.ofList (List.replicate (width - digits.length) '0' ++ digits)

def outline (c : Context) : Text.Outline :=
  .record "PlatformContext" [("raw", .word (hex 1 c.raw.toNat) (hex 16 c.raw.toNat))] false

end Context

/-- What a native call comes to. -/
inductive Answer (α : Type) where
  | value (a : α)
  | failure (f : Failure)
  | panicked

/-- The result of a call: a panic is a failure of the call. -/
def Answer.guarded {α : Type} (call : String) : Answer α → Except Failure α
  | value a => .ok a
  | failure f => .error f
  | panicked => .error (.callFailed call "native layer panicked")

def Answer.ofExcept {α : Type} : Except Failure α → Answer α
  | .ok a => value a
  | .error f => failure f

def keyCall : String := "get_key"

def hashCall : String := "build_hash"

def signatureCall : String := "get_signature"

/-- One call to the native side. -/
inductive Call where
  | key (id : Int32) (context : Context)
  | hash (input : String) (context : Context)
  | signature (path : String) (context : Context)
  deriving DecidableEq, Repr

def Call.context : Call → Context
  | key _ c => c
  | hash _ c => c
  | signature _ c => c

/-- The calls that native code offers. -/
structure Layer (σ : Type) where
  key : Int32 → Context → σ → Answer (Option String) × σ
  hash : String → Context → σ → Answer String × σ
  signature : String → Context → σ → Answer (Option Value) × σ

/-- The layer of which every call panics. -/
def Layer.panicking {σ : Type} : Layer σ where
  key _ _ m := (.panicked, m)
  hash _ _ m := (.panicked, m)
  signature _ _ m := (.panicked, m)

/-- Memory with a record of the calls made and of the libraries asked for. -/
structure Recorded (σ : Type) where
  inner : σ
  calls : List Call := []
  loads : List String := []

/-- The layer that notes a call before it is made. -/
def Layer.recorded {σ : Type} (l : Layer σ) : Layer (Recorded σ) where
  key id c m :=
    let (a, inner) := l.key id c m.inner
    (a, { m with inner, calls := m.calls ++ [.key id c] })
  hash s c m :=
    let (a, inner) := l.hash s c m.inner
    (a, { m with inner, calls := m.calls ++ [.hash s c] })
  signature p c m :=
    let (a, inner) := l.signature p c m.inner
    (a, { m with inner, calls := m.calls ++ [.signature p c] })

end Credentials.Native
