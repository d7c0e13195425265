import Credentials.Proofs.Fallback.Merge

/-!
# Values given as a whole

Three values can be given as they are, or as the one layer of a loader. Two different checks then look at
them: one goes through the secrets in the order of configuration, the other searches the layers as every load
does. Both come to the same thing, a search for the first unset value (`Config.checked`), but in different
orders. `Config.given_or_loaded` says what follows: the same values pass, and the complaints about others are
different only if both identifiers are unset.
-/

namespace Credentials.Fallback

/-- The value for a secret is empty or its placeholder. -/
def Unset (values : Secret → String) (k : Secret) : Prop :=
  values k = "" ∨ values k = k.placeholder

/-- The first secret of a list whose value is unset. -/
def FirstUnset (values : Secret → String) (order : List Secret) (k : Secret) : Prop :=
  ∃ before after, order = before ++ k :: after ∧ Unset values k ∧ ∀ earlier ∈ before, ¬ Unset values earlier

namespace Config

variable {values : Secret → String} {order : List Secret} {origin : Origin}

/-- The set of these values, outside debug mode. -/
def ofAll (values : Secret → String) (origin : Origin) : Config :=
  ⟨values .serviceId, values .telemetryId, values .sharedSecret, false, origin⟩

/-- These values if none of them is unset; otherwise a complaint about the first one that is. -/
def checked (values : Secret → String) (order : List Secret) (origin : Origin) : Except Failure Config :=
  match order.find? fun k => k.isUnset (values k) with
  | some k => .error (.missing k)
  | none => .ok (ofAll values origin)

theorem isUnset_iff {k : Secret} : k.isUnset (values k) = true ↔ Unset values k := by
  simp only [Secret.isUnset, Bool.or_eq_true, beq_iff_eq, Unset]

theorem find?_eq_some_iff {k : Secret} :
    (order.find? fun k => k.isUnset (values k)) = some k ↔ FirstUnset values order k := by
  have hset : ∀ k : Secret, (!k.isUnset (values k)) = true ↔ ¬ Unset values k := by
    intro k
    rw [← isUnset_iff, Bool.not_eq_true', Bool.not_eq_true]
  rw [List.find?_eq_some_iff_append, isUnset_iff]
  simp only [hset, FirstUnset]
  constructor
  · rintro ⟨hk, before, after, horder, hbefore⟩
    exact ⟨before, after, horder, hk, hbefore⟩
  · rintro ⟨before, after, horder, hk, hbefore⟩
    exact ⟨hk, before, after, horder, hbefore⟩

theorem checked_eq_error_iff {f : Failure} :
    checked values order origin = .error f ↔ ∃ k, f = .missing k ∧ FirstUnset values order k := by
  simp only [← find?_eq_some_iff, checked]
  cases order.find? fun k => k.isUnset (values k) <;> simp [eq_comm]

theorem checked_eq_ok_iff (horder : ∀ k, k ∈ order) {c : Config} :
    checked values order origin = .ok c ↔ (∀ k, ¬ Unset values k) ∧ c = ofAll values origin := by
  have hall : (order.find? fun k => k.isUnset (values k)) = none ↔ ∀ k, ¬ Unset values k := by
    simp only [List.find?_eq_none, isUnset_iff, horder, true_implies]
  rw [← hall, checked]
  cases order.find? fun k => k.isUnset (values k) <;> simp [eq_comm]

/-! ## The two checks -/

theorem value_ofAll (k : Secret) : (ofAll values origin).value k = values k := by
  cases k <;> rfl

theorem ofValues_eq_checked :
    ofValues values = checked values [.serviceId, .telemetryId, .sharedSecret] (.injected "explicit") := by
  show (ofAll values (.injected "explicit")).check = _
  simp only [check, value_ofAll]
  rfl

def memorySource (values : Secret → String) : Source := .ofRecord "memory" (Record.ofValues values)

theorem first?_memory (k : Secret) :
    first? k [memorySource values] = if k.isUnset (values k) then none else some (values k, "memory") := by
  have hvalue : (memorySource values).value? k = some (values k) := by cases k <;> rfl
  have hname : (memorySource values).name = "memory" := rfl
  by_cases hunset : k.isUnset (values k) = true <;> simp [first?, usable?, hvalue, hname, Option.filter, hunset]

theorem ofSources_memory :
    ofSources none [memorySource values] =
      checked values [.telemetryId, .serviceId, .sharedSecret] (.injected "memory") := by
  have hdebug : debugOf none [memorySource values] = false := rfl
  simp only [ofSources, telemetry?, first?_memory, hdebug, checked, List.find?_cons, List.find?_nil]
  -- one case for each way the values can be unset; with none of them unset, the final check is passed
  cases ht : Secret.telemetryId.isUnset (values .telemetryId) with
  | true => rfl
  | false =>
    cases hs : Secret.serviceId.isUnset (values .serviceId) with
    | true => rfl
    | false =>
      cases hk : Secret.sharedSecret.isUnset (values .sharedSecret) with
      | true => rfl
      | false =>
        refine check_eq_ok_iff.mpr ⟨rfl, fun k => ?_⟩
        cases k <;> assumption

theorem load_memory {ι : Type} (s : Host.System ι) :
    ((({} : Loader).add (.memory (Record.ofValues values))).load s).1 =
      checked values [.telemetryId, .serviceId, .sharedSecret] (.injected "memory") :=
  (Loader.load_fst _ s).trans ofSources_memory

/-- **Values given or loaded.** Three values are given as a whole, and as the one layer of a loader.

* Both ways lead to a set of values if and only if none of the values is unset; then the sets hold these
  values outside debug mode, and there is the same to say about telemetry but for the name of the source.
* Otherwise either complains of the first unset value in its own order.
* The complaints are different if and only if both identifiers are unset. -/
theorem given_or_loaded {ι : Type} (values : Secret → String) (s : Host.System ι) :
    let given := ofValues values
    let loaded := ((({} : Loader).add (.memory (Record.ofValues values))).load s).1
    (∀ c, given = .ok c ↔ (∀ k, ¬ Unset values k) ∧ c = ofAll values (.injected "explicit")) ∧
      (∀ c, loaded = .ok c ↔ (∀ k, ¬ Unset values k) ∧ c = ofAll values (.injected "memory")) ∧
      (∀ c d, given = .ok c → loaded = .ok d →
        (∀ k, c.value k = values k ∧ d.value k = values k) ∧ c.debug = false ∧ d.debug = false ∧
          c.status = ⟨true, values .telemetryId, false, .injected "explicit"⟩ ∧
          d.status = { c.status with origin := .injected "memory" }) ∧
      (∀ f, given = .error f ↔
        ∃ k, f = .missing k ∧ FirstUnset values [.serviceId, .telemetryId, .sharedSecret] k) ∧
      (∀ f, loaded = .error f ↔
        ∃ k, f = .missing k ∧ FirstUnset values [.telemetryId, .serviceId, .sharedSecret] k) ∧
      ((∃ f g, given = .error f ∧ loaded = .error g ∧ f ≠ g) ↔
        Unset values .serviceId ∧ Unset values .telemetryId) := by
  intro given loaded
  have hgiven : given = checked values [.serviceId, .telemetryId, .sharedSecret] (.injected "explicit") :=
    ofValues_eq_checked
  have hloaded : loaded = checked values [.telemetryId, .serviceId, .sharedSecret] (.injected "memory") :=
    load_memory s
  have hgivenOk : ∀ c, given = .ok c ↔ (∀ k, ¬ Unset values k) ∧ c = ofAll values (.injected "explicit") := by
    intro c
    rw [hgiven]
    exact checked_eq_ok_iff (by intro k; cases k <;> decide)
  have hloadedOk : ∀ c, loaded = .ok c ↔ (∀ k, ¬ Unset values k) ∧ c = ofAll values (.injected "memory") := by
    intro c
    rw [hloaded]
    exact checked_eq_ok_iff (by intro k; cases k <;> decide)
  refine ⟨hgivenOk, hloadedOk, ?_, ?_, ?_, ?_⟩
  · intro c d hc hd
    obtain ⟨hset, rfl⟩ := (hgivenOk c).mp hc
    obtain ⟨-, rfl⟩ := (hloadedOk d).mp hd
    have hid : values .telemetryId ≠ "" := fun hempty => hset .telemetryId (.inl hempty)
    have hstatus : ∀ origin, (ofAll values origin).status = ⟨true, values .telemetryId, false, origin⟩ := by
      intro origin
      simp [status, ofAll, hid]
    refine ⟨fun k => ⟨value_ofAll k, value_ofAll k⟩, rfl, rfl, hstatus _, ?_⟩
    rw [hstatus, hstatus]
  · intro f
    rw [hgiven]
    exact checked_eq_error_iff
  · intro f
    rw [hloaded]
    exact checked_eq_error_iff
  · rw [hgiven, hloaded, ← isUnset_iff, ← isUnset_iff]
    simp only [checked, List.find?_cons, List.find?_nil]
    cases Secret.serviceId.isUnset (values .serviceId) <;>
      cases Secret.telemetryId.isUnset (values .telemetryId) <;>
        cases Secret.sharedSecret.isUnset (values .sharedSecret) <;> simp

end Config

end Credentials.Fallback
