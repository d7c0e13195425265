import Credentials.Native.Binding

/-!
# Calls, loads and their record

A native call is a piece of data (`Call`) that any layer can receive (`Layer.receive`). A recorded layer
does what the layer below it does and notes each call once (`receive_recorded`). A recorded loader does
the same for the names of libraries (`load_memory`), and what is kept of it is what the loader below it
came to (`LoadState.kept`, `load_state`). A recorded binding stays one when its library is loaded
(`settle_recorded`).
-/

namespace Credentials.Native

variable {ι σ : Type}

/-- What a call of any kind comes to. -/
inductive Outcome where
  | key (a : Answer (Option String))
  | hash (a : Answer String)
  | signature (a : Answer (Option Value))

def Layer.receive (l : Layer σ) : Call → σ → Outcome × σ
  | .key id c, m => let (a, m) := l.key id c m; (.key a, m)
  | .hash s c, m => let (a, m) := l.hash s c m; (.hash a, m)
  | .signature p c, m => let (a, m) := l.signature p c m; (.signature a, m)

def Layer.receiveAll (l : Layer σ) : List Call → σ → List Outcome × σ
  | [], m => ([], m)
  | k :: rest, m =>
    let (o, m) := l.receive k m
    let (os, m) := l.receiveAll rest m
    (o :: os, m)

theorem receiveAll_cons (l : Layer σ) (k : Call) (rest : List Call) (m : σ) :
    (l.receiveAll (k :: rest) m).2 = (l.receiveAll rest (l.receive k m).2).2 := rfl

theorem receive_recorded (l : Layer σ) (k : Call) (m : Recorded σ) :
    l.recorded.receive k m =
      ((l.receive k m.inner).1,
        { m with inner := (l.receive k m.inner).2, calls := m.calls ++ [k] }) := by
  cases k <;> rfl

/-! ## What is kept of a load -/

/-- The outcome that is kept of what a loader came to, if its layers are recorded. -/
def LoadState.kept (library : String) : Loaded σ → LoadState (Recorded σ)
  | .layer l => .bound l.recorded
  | .refused f => .failed f
  | .panicked => .failed (.notLoaded library "loader panicked")

def LoadState.recorded : LoadState σ → LoadState (Recorded σ)
  | .bound l => .bound l.recorded
  | .failed f => .failed f

@[simp] theorem isAvailable_recorded (s : LoadState σ) : s.recorded.isAvailable = s.isAvailable := by
  cases s <;> rfl

theorem kept_eq_recorded (library : String) (outcome : Loaded σ) :
    LoadState.kept library outcome = (LoadState.ofLoaded library outcome).recorded := by
  cases outcome <;> rfl

theorem ofLoaded_recorded (loader : Loader ι σ) (library : String) (w : World ι (Recorded σ)) :
    LoadState.ofLoaded library (loader.recorded library w).1 =
      .kept library (loader library ⟨w.system, w.memory.inner⟩).1 := by
  unfold Loader.recorded
  rcases loader library ⟨w.system, w.memory.inner⟩ with ⟨_ | _ | _, inner⟩ <;> rfl

section
variable {loader : Loader ι σ} {c : Connection ι (Recorded σ)}
  (h : c.binding.loader = loader.recorded)
include h

theorem load_state : ∃ system,
    c.load.1 = .kept c.binding.library
      (loader c.binding.library ⟨system, c.world.memory.inner⟩).1 := by
  refine ⟨(c.world.report (Binding.startEvent c.binding.library)).system, ?_⟩
  unfold Connection.load
  rw [h]
  exact ofLoaded_recorded loader _ _

theorem load_memory :
    c.load.2.world.memory.loads = c.world.memory.loads ++ [c.binding.library] ∧
      c.load.2.world.memory.calls = c.world.memory.calls := by
  unfold Connection.load
  rw [h]
  exact ⟨rfl, rfl⟩

end

/-- The binding that loads and calls as another one does, and notes it. -/
def Binding.recorded (b : Binding ι σ) : Binding ι (Recorded σ) :=
  ⟨b.library, b.loader.recorded, b.state.map LoadState.recorded⟩

theorem settle_recorded (b : Binding ι σ) (w : World ι (Recorded σ)) :
    let c : Connection ι (Recorded σ) := ⟨b.recorded, w⟩
    ∃ s : LoadState σ, c.settle.1 = s.recorded ∧
      c.settle.2.binding = { b with state := some s }.recorded ∧
      c.settle.2.world.memory.calls = w.memory.calls := by
  intro c
  cases hstate : b.state with
  | some s =>
    have hc : c.binding.state = some s.recorded := congrArg (Option.map LoadState.recorded) hstate
    refine ⟨s, ?_, ?_, ?_⟩
    · rw [Connection.settle_of_state hc]
    · rw [Connection.settle_of_state hc, ← hstate]
    · rw [Connection.settle_of_state hc]
  | none =>
    have hc : c.binding.state = none := congrArg (Option.map LoadState.recorded) hstate
    have hload : c.settle = c.load := by simp [Connection.settle, hc]
    have hloader : c.binding.loader = b.loader.recorded := rfl
    obtain ⟨system, hs⟩ := load_state hloader
    rw [kept_eq_recorded] at hs
    rw [hload]
    refine ⟨_, hs, ?_, (load_memory hloader).2⟩
    change { c.binding with state := some c.load.1 } = _
    rw [hs]
    rfl

theorem outcome_recorded (b : Binding ι σ) (w : World ι (Recorded σ)) :
    (Connection.mk b.recorded w).settle.1 =
      (Connection.mk b ⟨w.system, w.memory.inner⟩).settle.1.recorded := by
  cases hstate : b.state with
  | some s =>
    have hrecorded : b.recorded.state = some s.recorded :=
      congrArg (Option.map LoadState.recorded) hstate
    rw [Connection.settle_of_state (c := ⟨b.recorded, w⟩) hrecorded,
      Connection.settle_of_state (c := ⟨b, ⟨w.system, w.memory.inner⟩⟩) hstate]
  | none =>
    have hrecorded : b.recorded.state = none := congrArg (Option.map LoadState.recorded) hstate
    simp only [Connection.settle, hstate, hrecorded]
    have hload := ofLoaded_recorded b.loader b.library (w.report (Binding.startEvent b.library))
    rw [kept_eq_recorded] at hload
    exact hload

/-! ## What a connection keeps -/

namespace Connection

/-- The connection after a call to a layer. -/
def after (c : Connection ι σ) (l : Layer σ) (k : Call) : Connection ι σ :=
  { c with world := { c.world with memory := (l.receive k c.world.memory).2 } }

theorem after_recorded (c : Connection ι (Recorded σ)) (l : Layer σ) (k : Call) :
    (c.after l.recorded k).world.memory.loads = c.world.memory.loads ∧
      (c.after l.recorded k).world.memory.calls = c.world.memory.calls ++ [k] := by
  unfold after
  rw [receive_recorded]
  exact ⟨rfl, rfl⟩

end Connection

end Credentials.Native
