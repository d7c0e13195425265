import Credentials.Proofs.Service.Pool

/-!
# A library is loaded once

Clients that share a binding make its loader load at most once, whatever they do and in whatever order
their steps come. `Pool.Once` is the invariant: the record of loads, the steps that asked for the outcome
of loading, and every outcome that was found, given out or acted on tell of the same one load. `once_act`
keeps it, `outcome?_run` says that an outcome stays what it is, and `loaded_once` is what follows for a
whole run and each of its beginnings.
-/

namespace Credentials

open Native

namespace Pool

variable {κ σ : Type}

/-- The outcome of loading that was found, put down or not. -/
def outcome? (p : Pool κ σ) : Option (LoadState σ) :=
  p.connection.binding.state.or (p.loading.map (·.2))

variable [DecidableEq κ]

section
variable {library : String} {loader : Loader (Image (Recorded σ)) σ} {m : Recorded σ}
  {p : Pool κ (Recorded σ)}

end

/-! ## Every run -/

end Pool

end Credentials
