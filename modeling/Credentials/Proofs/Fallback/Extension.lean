import Credentials.Proofs.Fallback.Merge

/-!
# More layers below

A layer below others is asked for what they do not offer. So more layers at the end of a loader fill gaps and
change nothing else: a value that was found is found as before (`FirstOffer.append`), and who had a say in
debug mode still has it (`debugOf_append`). Two things are gaps though a load succeeds with them, the
telemetry identifier of debug builds and a debug mode in which nobody had a say. `Loader.load_extended`
compares the two loads.
-/

namespace Credentials.Fallback

variable {above below : List Source} {s : Secret}

/-! ## Searches in more sources -/

theorem offered_append : Offered (above ++ below) s ↔ Offered above s ∨ Offered below s := by
  simp only [Offered, List.mem_append, or_and_right, exists_or]

theorem FirstOffer.append {value name : String} (h : FirstOffer above s value name) :
    FirstOffer (above ++ below) s value name := by
  obtain ⟨before, source, after, rfl, hbefore, hsource, hname⟩ := h
  exact ⟨before, source, after ++ below, by simp, hbefore, hsource, hname⟩

theorem FirstOffer.of_append {value name : String} (h : FirstOffer (above ++ below) s value name)
    (habove : ¬ Offered above s) : FirstOffer below s value name := by
  rw [← Config.first?_eq_none_iff] at habove
  rw [← Config.first?_eq_some_iff] at h ⊢
  have hsearch : Config.first? s (above ++ below) = (Config.first? s above).or (Config.first? s below) :=
    List.findSome?_append
  rwa [hsearch, habove, Option.none_or] at h

theorem FirstOffer.unique {value value' name name' : String} (h : FirstOffer above s value name)
    (h' : FirstOffer above s value' name') : value = value' ∧ name = name' := by
  rw [← Config.first?_eq_some_iff] at h h'
  have hpair := Option.some.inj (h.symm.trans h')
  exact ⟨congrArg Prod.fst hpair, congrArg Prod.snd hpair⟩

/-- Debug mode is forced, or one of the sources has a say in it. -/
def DebugSaid (forced : Option Bool) (sources : List Source) : Prop :=
  forced ≠ none ∨ ∃ source ∈ sources, source.debug? ≠ none

namespace Config

variable {forced : Option Bool}

theorem debugOf_append (h : DebugSaid forced above) : debugOf forced (above ++ below) = debugOf forced above := by
  unfold debugOf
  rw [List.findSome?_append]
  rcases h with h | h
  · cases forced with
    | some debug => rfl
    | none => exact absurd rfl h
  · cases hsaid : above.findSome? (·.debug?) with
    | some debug => rw [Option.some_or]
    | none =>
      obtain ⟨source, hmem, hsource⟩ := h
      exact absurd (List.findSome?_eq_none_iff.mp hsaid source hmem) hsource

theorem debugOf_append_of_unsaid (h : ¬ DebugSaid forced above) :
    debugOf forced (above ++ below) = debugOf none below := by
  obtain ⟨hforced, habove⟩ := not_or.mp h
  have hsaid : above.findSome? (·.debug?) = none := by
    refine List.findSome?_eq_none_iff.mpr fun source hmem => ?_
    exact Classical.byContradiction fun hsource => habove ⟨source, hmem, hsource⟩
  unfold debugOf
  rw [List.findSome?_append, hsaid, Option.none_or, Classical.not_not.mp hforced, Option.none_or]

theorem debugSaid_of_on (h : debugOf forced above = true) : DebugSaid forced above := by
  refine Classical.byContradiction fun hunsaid => ?_
  have hoff : debugOf forced (above ++ []) = false := debugOf_append_of_unsaid hunsaid
  rw [List.append_nil, h] at hoff
  cases hoff

theorem debugOf_append_of_on (h : debugOf forced above = true) :
    debugOf forced (above ++ below) = true :=
  (debugOf_append (debugSaid_of_on h)).trans h

end Config

/-! ## Two loads -/

/-- The secrets in the order in which a load complains of them. -/
def complaints : List Secret := [.telemetryId, .serviceId, .sharedSecret]

/-- What more sources below `above` make of a set of values. -/
structure Filled (forced : Option Bool) (above below : List Source) (c d : Config) : Prop where
  serviceId : d.serviceId = c.serviceId
  sharedSecret : d.sharedSecret = c.sharedSecret
  telemetryId : d.telemetryId = c.telemetryId ∧ d.origin = c.origin ∨
    c.origin = .debugMode ∧
      ∃ name, FirstOffer below .telemetryId d.telemetryId name ∧ d.origin = .injected name
  debug : d.debug = c.debug ∨ ¬ DebugSaid forced above ∧ DebugMode none below d.debug

namespace Config

variable {forced : Option Bool} {c : Config}

theorem filled_of_merged {d : Config} (hc : Merged above (debugOf forced above) c)
    (hd : Merged (above ++ below) (debugOf forced (above ++ below)) d) :
    Filled forced above below c d := by
  refine ⟨?_, ?_, ?_, ?_⟩
  · obtain ⟨name, hname⟩ := hc.serviceId
    obtain ⟨name', hname'⟩ := hd.serviceId
    exact (hname'.unique hname.append).1
  · obtain ⟨name, hname⟩ := hc.sharedSecret
    obtain ⟨name', hname'⟩ := hd.sharedSecret
    exact (hname'.unique hname.append).1
  · rcases hc.telemetryId with ⟨name, hname, horigin⟩ | ⟨hon, habove, hid, horigin⟩
    · -- an identifier that was found is found again, so the other one is not that of debug builds
      have hfound : FirstOffer (above ++ below) .telemetryId c.telemetryId name := hname.append
      rcases hd.telemetryId with ⟨name', hname', horigin'⟩ | ⟨-, hmissing, -, -⟩
      · obtain ⟨hvalue, rfl⟩ := hname'.unique hfound
        exact .inl ⟨hvalue, horigin'.trans horigin.symm⟩
      · exact absurd (offered_iff.mpr ⟨_, _, hfound⟩) hmissing
    · rcases hd.telemetryId with ⟨name', hname', horigin'⟩ | ⟨-, -, hid', horigin'⟩
      · exact .inr ⟨horigin, name', hname'.of_append habove, horigin'⟩
      · exact .inl ⟨hid'.trans hid.symm, horigin'.trans horigin.symm⟩
  · rw [hc.debug_eq, hd.debug_eq]
    by_cases hsaid : DebugSaid forced above
    · exact .inl (debugOf_append hsaid)
    · exact .inr ⟨hsaid, debugMode_iff.mpr (debugOf_append_of_unsaid hsaid)⟩

/-- What was complained of and what more sources leave to complain of. -/
theorem firstMissing_append {k k' : Secret} (h : FirstMissing above (debugOf forced above) k)
    (h' : FirstMissing (above ++ below) (debugOf forced (above ++ below)) k') :
    complaints.idxOf k ≤ complaints.idxOf k' := by
  have hkept : ∀ {k}, Offered above k → Offered (above ++ below) k := fun h => offered_append.mpr (.inl h)
  -- with a telemetry identifier or debug mode above, the longer list has it too
  have htelemetry : Offered above .telemetryId ∨ debugOf forced above = true → k' ≠ .telemetryId := by
    rintro ht rfl
    cases h' with
    | telemetryId hmissing hoff =>
      rcases ht with ht | hon
      · exact hmissing (hkept ht)
      · exact absurd ((debugOf_append_of_on hon).symm.trans hoff) (by decide)
  cases h with
  | telemetryId hmissing hoff => exact Nat.zero_le _
  | serviceId ht hmissing =>
    have hk := htelemetry ht
    cases k' with
    | telemetryId => exact absurd rfl hk
    | serviceId => decide
    | sharedSecret => decide
  | sharedSecret ht hs hmissing =>
    have hk := htelemetry ht
    cases h' with
    | telemetryId => exact absurd rfl hk
    | serviceId _ hmissing' => exact absurd (hkept hs) hmissing'
    | sharedSecret => exact Nat.le_refl _

end Config

namespace Loader

variable {ι : Type}

theorem sources_extended (l : Loader) (further : List Layer) (e : Host.Environment) :
    (further.foldl Loader.add l).sources e = l.sources e ++ further.map (·.source e) ∧
      (further.foldl Loader.add l).forced = l.forced := by
  induction further generalizing l with
  | nil => exact ⟨(List.append_nil _).symm, rfl⟩
  | cons layer rest ih =>
    obtain ⟨hsources, hforced⟩ := ih (l.add layer)
    refine ⟨?_, hforced⟩
    rw [List.foldl_cons, hsources]
    simp [Loader.sources, Loader.add]

/-- **More layers below fill gaps only.** `further` layers are added to a loader, and both are loaded.

* If the shorter one comes to a set of values, so does the longer one, and it is `Filled`: the service
  identifier and the shared secret are the same; the telemetry identifier and its origin are the same, or the
  identifier was that of debug builds and a further layer is the first to offer one; debug mode is the same,
  or it was neither forced nor said before and is now what the further layers say.
* If the shorter one complains of a missing secret, the longer one comes to a set of values or complains of
  the same secret or a later one. -/
theorem load_extended (l : Loader) (further : List Layer) (s : Host.System ι) :
    let above := l.sources s.environment
    let below := further.map (·.source s.environment)
    let longer := further.foldl Loader.add l
    (∀ c, (l.load s).1 = .ok c → ∃ d, (longer.load s).1 = .ok d ∧ Filled l.forced above below c d) ∧
      ∀ f, (l.load s).1 = .error f → ∃ k, f = .missing k ∧
        ((∃ d, (longer.load s).1 = .ok d) ∨
          ∃ k', (longer.load s).1 = .error (.missing k') ∧
            complaints.idxOf k ≤ complaints.idxOf k') := by
  intro above below longer
  obtain ⟨hsources, hforced⟩ := l.sources_extended further s.environment
  have hshort : (l.load s).1 = Config.ofSources l.forced above := l.load_fst s
  have hlong : (longer.load s).1 = Config.ofSources l.forced (above ++ below) := by
    rw [load_fst, hsources, hforced]
  rw [hshort, hlong]
  constructor
  · intro c hc
    have hmerged := Config.ofSources_eq_ok_iff.mp hc
    obtain ⟨hservice, hshared, htelemetry⟩ := Config.exists_merged_iff.mp ⟨c, hmerged⟩
    obtain ⟨d, hd⟩ : ∃ d, Merged (above ++ below) (Config.debugOf l.forced (above ++ below)) d := by
      refine Config.exists_merged_iff.mpr ⟨offered_append.mpr (.inl hservice),
        offered_append.mpr (.inl hshared), ?_⟩
      exact htelemetry.imp (fun h => offered_append.mpr (.inl h)) Config.debugOf_append_of_on
    exact ⟨d, Config.ofSources_of_merged hd, Config.filled_of_merged hmerged hd⟩
  · intro f hf
    obtain ⟨k, rfl, hk⟩ := Config.ofSources_eq_error_iff.mp hf
    refine ⟨k, rfl, ?_⟩
    rcases Config.merged_or_missing (above ++ below) (Config.debugOf l.forced (above ++ below)) with
      ⟨d, hd⟩ | ⟨k', hk'⟩
    · exact .inl ⟨d, Config.ofSources_of_merged hd⟩
    · exact .inr ⟨k', Config.ofSources_of_missing hk', Config.firstMissing_append hk hk'⟩

end Loader

end Credentials.Fallback
