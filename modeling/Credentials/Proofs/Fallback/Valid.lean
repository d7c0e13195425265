import Credentials.Fallback.Loader

/-!
# Static values are usable

There are two ways to a set of static values: it is given as a whole, or it is merged from layers
(`Config.Obtainable`). Both end with the same check, so that no value of a set is empty or the placeholder
of its secret (`Obtainable.isUnset_value`).
-/

namespace Credentials.Fallback

namespace Config

/-- The sets of static values that a program can come by. -/
inductive Obtainable (c : Config) : Prop where
  /-- The values were given. -/
  | given (values : Secret → String) (h : ofValues values = .ok c)
  /-- Layers were merged, in whatever the host was at the time. -/
  | loaded {ι : Type} (l : Loader) (s : Host.System ι) (h : (l.load s).1 = .ok c)

theorem isUnset_of_check {c d : Config} (h : c.check = .ok d) (s : Secret) :
    s.isUnset (d.value s) = false := by
  obtain ⟨rfl, hvalues⟩ := check_eq_ok_iff.mp h
  exact hvalues s

theorem isUnset_of_ofSources {forced : Option Bool} {sources : List Source} {c : Config}
    (h : ofSources forced sources = .ok c) (s : Secret) : s.isUnset (c.value s) = false := by
  simp only [ofSources] at h
  split at h
  · cases h
  · cases h
  · cases h
  · exact isUnset_of_check h s

theorem config_of_load {ι : Type} {l : Loader} {s : Host.System ι} {c : Config}
    (h : (l.load s).1 = .ok c) : l.config s.environment = .ok c := by
  unfold Loader.load at h
  split at h
  · next d hd =>
    cases h
    exact hd
  · cases h

theorem Obtainable.isUnset_value {c : Config} (h : c.Obtainable) (s : Secret) :
    s.isUnset (c.value s) = false := by
  cases h with
  | given values h => exact isUnset_of_check h s
  | loaded l host h => exact isUnset_of_ofSources (config_of_load h) s

end Config

end Credentials.Fallback
