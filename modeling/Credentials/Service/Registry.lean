import Credentials.Host.DebugLog

/-!
# The registry

One place in a process for one service. The first installation wins; a later one changes nothing and is
reported.
-/

namespace Credentials

structure Registry (α : Type) where
  installed : Option α := none

namespace Registry

variable {α ι : Type}

/-- The event of an installation that came too late. -/
def rejectedEvent : Host.Event :=
  ⟨.warn, "registry", "NativeSecrets already installed, ignoring replacement"⟩

/-- Installs something unless something is there. The first component says whether it was
installed. -/
def install (r : Registry α) (a : α) (s : Host.System ι) : Bool × Registry α × Host.System ι :=
  match r.installed with
  | none => (true, ⟨some a⟩, s)
  | some _ => (false, r, s.report rejectedEvent)

end Registry

end Credentials
