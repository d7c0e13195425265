import Credentials.Fallback.Loader
import Credentials.Native.Search
import Credentials.Service.Resolve

/-!
# Setting up a service

A service can be given everything it needs. What is not given is taken from the defaults: the library
`security`, looked for where the environment says at the time of the setup, and static values from the
environment and the user's file. Nothing is loaded yet.
-/

namespace Credentials

open Native (Binding Context Image Loader World)

/-- What a service is set up with. -/
structure Setup (σ : Type) where
  library : String := Binding.defaultLibrary
  loader : Option (Loader (Image σ) σ) := none
  /-- A binding to share, which goes before the library and the loader. -/
  binding : Option (Binding (Image σ) σ) := none
  fallback : Option Fallback.Config := none
  context : Context := .null
  sink : Log.Sink := .silent

namespace Setup

variable {σ : Type}

/-- Static values: those given, or the default ones. -/
def config (u : Setup σ) (s : Host.System (Image σ)) :
    Except Fallback.Failure Fallback.Config × Host.System (Image σ) :=
  match u.fallback with
  | some c => (.ok c, s)
  | none => Fallback.loadDefaults s

/-- The binding: the one given, or a new one. -/
def bind (u : Setup σ) (e : Host.Environment) : Binding (Image σ) σ :=
  match u.binding with
  | some b => b
  | none => ⟨u.library, u.loader.getD (.searching (Native.searchDirectories e)), none⟩

def build (u : Setup σ) (s : Host.System (Image σ)) :
    Except Fallback.Failure (Service × Binding (Image σ) σ) × Host.System (Image σ) :=
  match u.config s with
  | (.ok fallback, s) =>
    (.ok ({ fallback, context := u.context, sink := u.sink }, u.bind s.environment), s)
  | (.error f, s) => (.error f, s)

end Setup

end Credentials
