import Credentials.Host.DebugLog
import Credentials.Native.Layer

/-!
# Binding a library once

A binding loads its library when it is first asked for its state and keeps the outcome, whichever it
is. A library that cannot be had is a normal outcome, and so is a loader that panics.
-/

namespace Credentials.Native

open Text (Outline)

/-- What native code runs in: the host, with loadable images of type `ι`, and memory of its own. -/
structure World (ι σ : Type) where
  system : Host.System ι
  memory : σ

/-- What an attempt to load a library comes to. -/
inductive Loaded (σ : Type) where
  | layer (l : Layer σ)
  | refused (f : Failure)
  | panicked

abbrev Loader (ι σ : Type) := String → World ι σ → Loaded σ × World ι σ

namespace Loader

variable {ι σ : Type}

/-- The loader that always comes to the same. -/
def always (outcome : Loaded σ) : Loader ι σ := fun _ w => (outcome, w)

/-- The loader that notes the name of a library before it loads it, and whose layers note their
calls. -/
def recorded (loader : Loader ι σ) : Loader ι (Recorded σ) := fun name w =>
  let (outcome, inner) := loader name ⟨w.system, w.memory.inner⟩
  let outcome :=
    match outcome with
    | .layer l => .layer l.recorded
    | .refused f => .refused f
    | .panicked => .panicked
  (outcome,
    ⟨inner.system, { w.memory with inner := inner.memory, loads := w.memory.loads ++ [name] }⟩)

end Loader

/-- The outcome of loading: there is a layer, or there is a failure. -/
inductive LoadState (σ : Type) where
  | bound (l : Layer σ)
  | failed (f : Failure)

namespace LoadState

variable {σ : Type}

def layer? : LoadState σ → Option (Layer σ)
  | bound l => some l
  | failed _ => none

def failure? : LoadState σ → Option Failure
  | bound _ => none
  | failed f => some f

def isAvailable (s : LoadState σ) : Bool := s.layer?.isSome

def outline (s : LoadState σ) : Outline :=
  .record "LoaderState"
    [("native_available", .ofBool s.isAvailable),
      ("failure", .ofOption (s.failure?.map Failure.outline))] false

/-- The outcome for a library; a panic is a failure to load. -/
def ofLoaded (library : String) : Loaded σ → LoadState σ
  | .layer l => bound l
  | .refused f => failed f
  | .panicked => failed (.notLoaded library "loader panicked")

end LoadState

/-- A library and what has become of it. -/
structure Binding (ι σ : Type) where
  library : String
  loader : Loader ι σ
  state : Option (LoadState σ) := none

namespace Binding

variable {ι σ : Type}

/-- The name of the library if no other is given. -/
def defaultLibrary : String := "security"

/-- The binding of a library that will not be loaded. -/
def unavailable : Binding ι σ :=
  ⟨defaultLibrary, .always (.refused .unavailable), some (.failed .unavailable)⟩

/-- The binding of a layer that is there already. -/
def ofLayer (l : Layer σ) : Binding ι σ :=
  ⟨defaultLibrary, .always (.refused .unavailable), some (.bound l)⟩

/-- Whether the library has been loaded or has failed to. -/
def isInitialized (b : Binding ι σ) : Bool := b.state.isSome

def outline (b : Binding ι σ) : Outline :=
  .record "NativeBinding"
    [("library", .atom (Text.quoted b.library)),
      ("state", .ofOption (b.state.map LoadState.outline))] false

def event (level : Log.Level) (text : String) : Host.Event := ⟨level, "NativeBinding", text⟩

def startEvent (library : String) : Host.Event :=
  event .debug ("Loading native library '" ++ library ++ "'")

def endEvent (library : String) : LoadState σ → Host.Event
  | .bound _ => event .info ("Native library '" ++ library ++ "' bound")
  | .failed f =>
    event .warn ("Native library '" ++ library ++ "' unavailable, using fallbacks: " ++ f.message)

end Binding

/-- Adds an event to the debug log of the host. -/
def World.report {ι σ : Type} (w : World ι σ) (e : Host.Event) : World ι σ :=
  { w with system := w.system.report e }

/-! ## Connections -/

/-- A binding in the world it loads from. -/
structure Connection (ι σ : Type) where
  binding : Binding ι σ
  world : World ι σ

namespace Connection

variable {ι σ : Type}

def load (c : Connection ι σ) : LoadState σ × Connection ι σ :=
  let name := c.binding.library
  let (outcome, world) := c.binding.loader name (c.world.report (Binding.startEvent name))
  let state := LoadState.ofLoaded name outcome
  (state,
    { binding := { c.binding with state := some state }
      world := world.report (Binding.endEvent name state) })

/-- The outcome of loading, which happens the first time it is asked for. -/
def settle (c : Connection ι σ) : LoadState σ × Connection ι σ :=
  match c.binding.state with
  | some s => (s, c)
  | none => c.load

theorem settle_of_state {c : Connection ι σ} {s : LoadState σ} (h : c.binding.state = some s) :
    c.settle = (s, c) := by
  simp [settle, h]

theorem state_settle (c : Connection ι σ) : c.settle.2.binding.state = some c.settle.1 := by
  simp only [settle]
  split
  · assumption
  · rfl

/-- Asking again gives the same outcome and changes nothing. -/
theorem settle_settle (c : Connection ι σ) : c.settle.2.settle = c.settle := by
  rw [settle_of_state (state_settle c)]

def call {α : Type} (c : Connection ι σ) (f : σ → Answer α × σ) : Answer α × Connection ι σ :=
  let (a, memory) := f c.world.memory
  (a, { c with world := { c.world with memory } })

end Connection

end Credentials.Native
