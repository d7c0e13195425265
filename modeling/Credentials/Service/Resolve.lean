import Credentials.Fallback.Config
import Credentials.Log.Console
import Credentials.Native.Attributes
import Credentials.Native.Binding

/-!
# The credential service

A service gives out secrets, hashes and signing attributes over a connection to native code. A secret
always has a value: what native code cannot give is taken from the static values, and the answer says
why. A hash is the exception: where native code fails there is none, and only without native code is it
the input itself.

Every operation asks for the outcome of loading first, even one that does not need native code. What it
does then is a function of its own (`resolveIn`, `hashIn`, `signatureIn`), since other clients may come
in between.
-/

namespace Credentials

open Native (Answer Attributes Connection Context LoadState)
open Log (Line)
open Text (Outline)

/-- Why a static value was given. -/
inductive Reason where
  /-- The secret is never read from native code. -/
  | staticPolicy
  /-- There is no native library. -/
  | nativeUnavailable
  /-- The native call failed or gave nothing usable. -/
  | nativeFailed (f : Native.Failure)
  deriving DecidableEq, Repr

inductive Provenance where
  | native
  | fallback (r : Reason)
  deriving DecidableEq, Repr

def Reason.outline : Reason → Outline
  | .staticPolicy => .atom "StaticPolicy"
  | .nativeUnavailable => .atom "NativeUnavailable"
  | .nativeFailed f => .tuple "NativeFailed" [f.outline]

def Provenance.outline : Provenance → Outline
  | .native => .atom "Native"
  | .fallback r => .tuple "Fallback" [r.outline]

/-- A secret's value and where it came from. -/
structure Resolved where
  value : String
  provenance : Provenance
  deriving DecidableEq, Repr

/-- The text that native code returns in place of a failure. -/
def sentinelText : String := "error"

/-- The usable value in the answer to a key call. Nothing, no text and the sentinel are none; any other
text is, as it is. -/
def interpretKey (call : String) : Option String → Except Native.Failure String
  | none => .error (.nullResult call)
  | some s =>
    if s = "" then .error (.emptyResult call)
    else if s = sentinelText then .error (.sentinel call)
    else .ok s

theorem interpretKey_of_usable (call : String) {s : String} (hempty : s ≠ "") (hsentinel : s ≠ "error") :
    interpretKey call (some s) = .ok s := by
  simp [interpretKey, hempty, sentinelText, hsentinel]

structure Service where
  fallback : Fallback.Config
  context : Context := .null
  /-- Where its log lines go. -/
  sink : Log.Sink := .silent

/-- What an operation answers, and the lines it logs. -/
structure Reply (α : Type) where
  answer : α
  lines : List Line := []

namespace Service

variable {ι σ : Type}

/-! ## Secrets -/

def static (v : Service) (s : Secret) (r : Reason) : Resolved :=
  ⟨v.fallback.value s, .fallback r⟩

/-- The reply of a service that has no native code to ask. -/
def withoutNative (v : Service) (s : Secret) : Reply Resolved where
  answer := v.static s .nativeUnavailable
  lines := [⟨.debug, s.name ++ ": native library unavailable, using fallback"⟩]

/-- The reply to what native code answered. -/
def withAnswer (v : Service) (s : Secret) (a : Answer (Option String)) : Reply Resolved :=
  match (a.guarded Native.keyCall).bind (interpretKey Native.keyCall) with
  | .ok value =>
    { answer := ⟨value, .native⟩
      lines := [⟨.debug, s.name ++ ": resolved from native library"⟩] }
  | .error f =>
    { answer := v.static s (.nativeFailed f)
      lines := [⟨.warn, s.name ++ ": native lookup failed, using fallback: " ++ f.message⟩] }

/-- Gives out a secret once the outcome of loading is known. -/
def resolveIn (v : Service) (s : Secret) (state : LoadState σ) (c : Connection ι σ) :
    Reply Resolved × Connection ι σ :=
  match s.policy with
  | .staticOnly => ({ answer := v.static s .staticPolicy }, c)
  | .nativeFirst =>
    match state with
    | .failed _ => (v.withoutNative s, c)
    | .bound layer =>
      let (a, c) := c.call (layer.key s.keyId v.context)
      (v.withAnswer s a, c)

def resolve (v : Service) (s : Secret) (c : Connection ι σ) : Reply Resolved × Connection ι σ :=
  let (state, c) := c.settle
  v.resolveIn s state c

/-! ## Hashes -/

def hashReply (a : Answer String) : Reply (Except Native.Failure String) :=
  match a.guarded Native.hashCall with
  | .ok h => { answer := .ok h }
  | .error f =>
    { answer := .error f, lines := [⟨.error, "build_hash: native call failed: " ++ f.message⟩] }

/-- Hashes a text once the outcome of loading is known. -/
def hashIn (v : Service) (input : String) (state : LoadState σ) (c : Connection ι σ) :
    Reply (Except Native.Failure String) × Connection ι σ :=
  match state with
  | .failed _ => ({ answer := .ok input }, c)
  | .bound layer =>
    let (a, c) := c.call (layer.hash input v.context)
    (hashReply a, c)

/-- Hashes a text. Without native code the text comes back as it is. -/
def hash (v : Service) (input : String) (c : Connection ι σ) :
    Reply (Except Native.Failure String) × Connection ι σ :=
  let (state, c) := c.settle
  v.hashIn input state c

/-! ## Signatures -/

def signatureReply (path : String) (a : Answer (Option Native.Value)) : Reply (Option Attributes) :=
  match a.guarded Native.signatureCall with
  | .ok none => { answer := none }
  | .ok (some value) =>
    match value.attributes? with
    | some attributes => { answer := some attributes }
    | none =>
      { answer := none
        lines :=
          [⟨.warn,
            "get_signature: unexpected '" ++ value.tag.name ++ "' result for " ++ path⟩] }
  | .error f =>
    { answer := none
      lines :=
        [⟨.warn, "get_signature: native call failed for " ++ path ++ ": " ++ f.message⟩] }

/-- Reads signing attributes once the outcome of loading is known. -/
def signatureIn (path : String) (context : Context) (state : LoadState σ) (c : Connection ι σ) :
    Reply (Option Attributes) × Connection ι σ :=
  match state with
  | .failed _ => ({ answer := none }, c)
  | .bound layer =>
    let (a, c) := c.call (layer.signature path context)
    (signatureReply path a, c)

/-- The signing attributes of the artifact at a path, in the caller's context. -/
def signature (path : String) (context : Context) (c : Connection ι σ) :
    Reply (Option Attributes) × Connection ι σ :=
  let (state, c) := c.settle
  signatureIn path context state c

/-! ## The rest -/

/-- Whether this is the vendor's own application, which no user of this library is. -/
def isOfficial : Bool := false

/-- The shape of a service: its binding and its context, and nothing of its values. -/
def outline (v : Service) (b : Native.Binding ι σ) : Outline :=
  .record "NativeSecrets" [("binding", b.outline), ("context", v.context.outline)] true

end Service

end Credentials
