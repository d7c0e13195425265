import Credentials.Proofs.Fallback.Valid
import Credentials.Service.Resolve

/-!
# What a secret resolves to

`Resolution` is the table of what a service gives out for a secret: the native value, or the static one
and the reason for it, by what the native side answers. The service gives out what the table says
(`resolution_resolve`) and the table says one thing only (`Resolution.unique`). With static values that
passed their check, what is given out is never empty, and a placeholder or the sentinel only if the native
side or the static value itself is one (`resolve_correct`).
-/

namespace Credentials

open Native

variable {ι σ : Type}

/-- What the native side answers to a service that asks for a secret, if there is a layer to ask. -/
def Service.keyAnswer? (v : Service) (s : Secret) (c : Connection ι σ) :
    Option (Answer (Option String)) :=
  c.settle.1.layer?.map fun l => (l.key s.keyId v.context c.settle.2.world.memory).1

/-- What is given out for a secret, by the static values and what the native side answers. -/
inductive Resolution (given : Secret → String) :
    Secret → Option (Answer (Option String)) → Resolved → Prop where
  /-- The native side is not heard for a secret of this kind, even if there is one. -/
  | static {s : Secret} (h : s ≠ .sharedSecret) (a : Option (Answer (Option String))) :
    Resolution given s a ⟨given s, .fallback .staticPolicy⟩
  | unavailable :
    Resolution given .sharedSecret none ⟨given .sharedSecret, .fallback .nativeUnavailable⟩
  /-- The native value, as it is. -/
  | native {value : String} (hempty : value ≠ "") (hsentinel : value ≠ "error") :
    Resolution given .sharedSecret (some (.value (some value))) ⟨value, .native⟩
  | null :
    Resolution given .sharedSecret (some (.value none))
      ⟨given .sharedSecret, .fallback (.nativeFailed (.nullResult "get_key"))⟩
  | empty {value : String} (h : value = "") :
    Resolution given .sharedSecret (some (.value (some value)))
      ⟨given .sharedSecret, .fallback (.nativeFailed (.emptyResult "get_key"))⟩
  | sentinel {value : String} (h : value = "error") :
    Resolution given .sharedSecret (some (.value (some value)))
      ⟨given .sharedSecret, .fallback (.nativeFailed (.sentinel "get_key"))⟩
  /-- The layer's own failure, whichever it is. -/
  | failure (f : Failure) :
    Resolution given .sharedSecret (some (.failure f))
      ⟨given .sharedSecret, .fallback (.nativeFailed f)⟩
  | panicked :
    Resolution given .sharedSecret (some .panicked)
      ⟨given .sharedSecret,
        .fallback (.nativeFailed (.callFailed "get_key" "native layer panicked"))⟩

/-! ## The table -/

namespace Resolution

variable {given : Secret → String} {s : Secret} {a : Option (Answer (Option String))}
  {r r' : Resolved}

/-- The table says one thing: the static rule is for the other secrets, and the three rules for a value
exclude each other. -/
theorem unique (h : Resolution given s a r) (h' : Resolution given s a r') : r = r' := by
  cases h with
  | static hs =>
    cases h' with
    | static => rfl
    | _ => exact absurd rfl hs
  | native hempty hsentinel =>
    cases h' with
    | static hs => exact absurd rfl hs
    | native => rfl
    | empty h => exact absurd h hempty
    | sentinel h => exact absurd h hsentinel
  | empty h =>
    cases h' with
    | static hs => exact absurd rfl hs
    | native hempty => exact absurd h hempty
    | empty => rfl
    | sentinel h' => exact absurd (h.symm.trans h') (by decide)
  | sentinel h =>
    cases h' with
    | static hs => exact absurd rfl hs
    | native _ hsentinel => exact absurd h hsentinel
    | empty h' => exact absurd (h'.symm.trans h) (by decide)
    | sentinel => rfl
  | unavailable | null | failure | panicked =>
    cases h' with
    | static hs => exact absurd rfl hs
    | _ => rfl

theorem native_or_given (h : Resolution given s a r) :
    (s = .sharedSecret ∧ ∃ value, a = some (.value (some value)) ∧ value ≠ "" ∧ value ≠ "error" ∧
        r = ⟨value, .native⟩) ∨
      ∃ reason, r = ⟨given s, .fallback reason⟩ := by
  cases h with
  | native hempty hsentinel => exact Or.inl ⟨rfl, _, rfl, hempty, hsentinel, rfl⟩
  | _ => exact Or.inr ⟨_, rfl⟩

end Resolution

/-! ## The service follows it -/

namespace Service

theorem resolution_withAnswer (v : Service) (a : Answer (Option String)) :
    Resolution v.fallback.value .sharedSecret (some a) (v.withAnswer .sharedSecret a).answer := by
  cases a with
  | failure f => exact .failure f
  | panicked => exact .panicked
  | value value =>
    cases value with
    | none => exact .null
    | some value =>
      by_cases hempty : value = ""
      · subst hempty
        exact .empty rfl
      · by_cases hsentinel : value = "error"
        · subst hsentinel
          exact .sentinel rfl
        · have hvalue := interpretKey_of_usable keyCall hempty hsentinel
          have hanswer : (v.withAnswer .sharedSecret (.value (some value))).answer =
              ⟨value, .native⟩ := by
            simp [withAnswer, Answer.guarded, Except.bind, hvalue]
          rw [hanswer]
          exact .native hempty hsentinel

theorem resolve_eq (v : Service) (s : Secret) (c : Connection ι σ) :
    (v.resolve s c).1.answer = (v.resolveIn s c.settle.1 c.settle.2).1.answer := rfl

theorem resolution_resolve (v : Service) (s : Secret) (c : Connection ι σ) :
    Resolution v.fallback.value s (v.keyAnswer? s c) (v.resolve s c).1.answer := by
  cases s with
  | serviceId => exact .static (by decide) _
  | telemetryId => exact .static (by decide) _
  | sharedSecret =>
    rw [resolve_eq]
    unfold keyAnswer?
    cases c.settle.1 with
    | failed f => exact .unavailable
    | bound l => exact resolution_withAnswer v _

/-- **What a secret resolves to.** With static values that a program can come by, and whatever the binding
has come to and the native side answers:

* what is given out is what the table says, and nothing else is;
* it is native if and only if the secret is the shared one and there is a layer that answers with a text
  that is neither empty nor the sentinel, and then the value is that text;
* the value is never empty, a placeholder only if it is native, and the sentinel only if the static value
  is. -/
theorem resolve_correct (v : Service) (h : v.fallback.Obtainable) (s : Secret)
    (c : Connection ι σ) :
    let r := (v.resolve s c).1.answer
    (∀ r', Resolution v.fallback.value s (v.keyAnswer? s c) r' ↔ r' = r) ∧
      (r.provenance = .native ↔
        s = .sharedSecret ∧ ∃ value, v.keyAnswer? s c = some (.value (some value)) ∧
          value ≠ "" ∧ value ≠ "error") ∧
      (r.provenance = .native → v.keyAnswer? s c = some (.value (some r.value))) ∧
      r.value ≠ "" ∧
      (r.value = s.placeholder → r.provenance = .native) ∧
      (r.value = "error" → v.fallback.value s = "error") := by
  intro r
  have hr : Resolution v.fallback.value s (v.keyAnswer? s c) r := v.resolution_resolve s c
  obtain ⟨hempty, hplaceholder⟩ := Secret.isUnset_eq_false.mp (h.isUnset_value s)
  have htable : ∀ r', Resolution v.fallback.value s (v.keyAnswer? s c) r' ↔ r' = r :=
    fun r' => ⟨fun h' => h'.unique hr, fun h' => h' ▸ hr⟩
  refine ⟨htable, ?_⟩
  rcases hr.native_or_given with ⟨hs, value, ha, hvalue, hsentinel, hnative⟩ | ⟨reason, hgiven⟩
  · rw [hnative]
    refine ⟨⟨fun _ => ⟨hs, value, ha, hvalue, hsentinel⟩, fun _ => rfl⟩, fun _ => ha, hvalue, ?_, ?_⟩
    · exact fun _ => rfl
    · exact fun herror => absurd herror hsentinel
  · have hfallback : r.provenance ≠ .native := by
      rw [hgiven]
      exact Provenance.noConfusion
    refine ⟨⟨fun hnative => absurd hnative hfallback, ?_⟩, fun hnative => absurd hnative hfallback, ?_⟩
    · rintro ⟨rfl, value, ha, hvalue, hsentinel⟩
      -- the table has a rule for such an answer, and says one thing only
      have hrule : Resolution v.fallback.value .sharedSecret (v.keyAnswer? .sharedSecret c)
          ⟨value, .native⟩ := by
        rw [ha]
        exact .native hvalue hsentinel
      rw [← (htable _).mp hrule]
    · rw [hgiven]
      exact ⟨hempty, fun hp => absurd hp hplaceholder, id⟩

/-- A layer that panics costs nothing but the native value. -/
theorem resolve_correct_panicking :
    let v : Service := { fallback := ⟨"app-1", "tel-1", "sec-1", false, .injected "explicit"⟩ }
    let c : Connection Unit Unit :=
      ⟨.ofLayer .panicking, ⟨{ environment := .empty, files := .empty }, ()⟩⟩
    v.fallback.Obtainable ∧ (v.resolve .sharedSecret c).1.answer =
      ⟨"sec-1", .fallback (.nativeFailed (.callFailed "get_key" "native layer panicked"))⟩ := by
  intro v c
  have hv : v.fallback.Obtainable := .given v.fallback.value rfl
  exact ⟨hv, (((resolve_correct v hv .sharedSecret c).1 _).mp .panicked).symm⟩

end Service

end Credentials
