import Credentials.Service.Resolve

/-!
# Requests to services

Everything that can be asked of a service, and runs of such requests by several services over one
connection.
-/

namespace Credentials

open Native (Attributes Connection Context LoadState)
open Text (Outline)

/-- What can be asked of a service. -/
inductive Request where
  | resolve (s : Secret)
  | hash (input : String)
  | signature (path : String) (context : Context)
  /-- Loads the library if that has not happened yet. -/
  | load
  | available
  | official
  | fallback
  | context
  | describe
  /-- The name of the library and whether it has been loaded. -/
  | binding
  deriving DecidableEq, Repr

inductive Response where
  | secret (r : Resolved)
  | hash (r : Except Native.Failure String)
  | attributes (a : Option Attributes)
  | state (available : Bool) (failure : Option Native.Failure) (outline : Outline)
  | flag (b : Bool)
  | fallback (c : Fallback.Config)
  | context (c : Context)
  | outline (o : Outline)
  | binding (library : String) (initialized : Bool) (outline : Outline)

namespace Service

variable {ι σ : Type}

/-- A reply with a response made of its answer. -/
def respond {α : Type} (f : α → Response) (r : Reply α × Connection ι σ) :
    Reply Response × Connection ι σ :=
  ({ answer := f r.1.answer, lines := r.1.lines }, r.2)

def perform (v : Service) (c : Connection ι σ) : Request → Reply Response × Connection ι σ
  | .resolve s => respond .secret (v.resolve s c)
  | .hash input => respond .hash (v.hash input c)
  | .signature path context => respond .attributes (signature path context c)
  | .load =>
    let (state, c) := c.settle
    ({ answer := .state state.isAvailable state.failure? state.outline }, c)
  | .available =>
    let (state, c) := c.settle
    ({ answer := .flag state.isAvailable }, c)
  | .official => ({ answer := .flag isOfficial }, c)
  | .fallback => ({ answer := .fallback v.fallback }, c)
  | .context => ({ answer := .context v.context }, c)
  | .describe => ({ answer := .outline (v.outline c.binding) }, c)
  | .binding =>
    ({ answer := .binding c.binding.library c.binding.isInitialized c.binding.outline }, c)

/-- Performs requests to services one after the other. -/
def run (c : Connection ι σ) : List (Service × Request) → List (Reply Response) × Connection ι σ
  | [] => ([], c)
  | (v, q) :: rest =>
    let (r, c) := v.perform c q
    let (rs, c) := run c rest
    (r :: rs, c)

end Service

end Credentials
