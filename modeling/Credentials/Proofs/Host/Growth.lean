import Credentials.Proofs.Host.DebugLog

/-!
# What an event leaves as it is

An event may make the file of the debug log or add to it, and that is all it does to the tree of files
(`grown_report`). A tree that has grown in this way leads every path where it led before, but for what is in
a file and for a file that was made (`grown_lookup`). So a file is still a file, and a loadable image is
still found where it was, by whatever links.
-/

namespace Credentials.Host

variable {ι : Type}

/-- What may become of a place: it stays as it is, or there is a file where there was one or nothing. -/
inductive Entry.Grown : Option (Entry ι) → Option (Entry ι) → Prop where
  | same (e : Option (Entry ι)) : Grown e e
  | file (old new : List UInt8) : Grown (some (.file old)) (some (.file new))
  | made (bytes : List UInt8) : Grown none (some (.file bytes))

/-- What may become of the way that a path leads. -/
inductive Lookup.Grown : Lookup ι → Lookup ι → Prop where
  | same (l : Lookup ι) : Grown l l
  | file (place : Location) (old new : List UInt8) :
    Grown (.found place (.file old)) (.found place (.file new))
  | made (place : Location) (bytes : List UInt8) : Grown (.free place) (.found place (.file bytes))

/-- Nothing was done to a tree but to write files. -/
structure Files.Grown (t grown : Files ι) : Prop where
  workingDirectory : grown.workingDirectory = t.workingDirectory
  entries : ∀ p, Entry.Grown (t.at? p) (grown.at? p)

theorem Entry.Grown.trans {e f g : Option (Entry ι)} (h : Entry.Grown e f) (h' : Entry.Grown f g) :
    Entry.Grown e g := by
  cases h with
  | same => exact h'
  | file old new =>
    cases h' with
    | same => exact .file old new
    | file _ newest => exact .file old newest
  | made bytes =>
    cases h' with
    | same => exact .made bytes
    | file _ newest => exact .made newest

theorem Entry.grown_extended (bytes : List UInt8) (e : Entry ι) :
    Entry.Grown (some e) (some (e.extended bytes)) := by
  cases e with
  | file old => exact .file old (old ++ bytes)
  | _ => exact .same _

namespace Files

variable {t grown : Files ι}

theorem Grown.refl (t : Files ι) : t.Grown t := ⟨rfl, fun _ => .same _⟩

theorem Grown.trans {t' : Files ι} (h : t.Grown grown) (h' : grown.Grown t') : t.Grown t' :=
  ⟨h'.workingDirectory.trans h.workingDirectory, fun p => (h.entries p).trans (h'.entries p)⟩

theorem Grown.at?_of_free (h : t.Grown grown) {p : Location} (hfree : t.at? p = none) :
    grown.at? p = none ∨ ∃ bytes, grown.at? p = some (.file bytes) := by
  have hentry := h.entries p
  generalize grown.at? p = now at hentry ⊢
  rw [hfree] at hentry
  cases hentry with
  | same => exact .inl rfl
  | made bytes => exact .inr ⟨bytes, rfl⟩

theorem Grown.at?_of_file (h : t.Grown grown) {p : Location} {old : List UInt8}
    (hfile : t.at? p = some (.file old)) : ∃ new, grown.at? p = some (.file new) := by
  have hentry := h.entries p
  generalize grown.at? p = now at hentry ⊢
  rw [hfile] at hentry
  cases hentry with
  | same => exact ⟨old, rfl⟩
  | file _ new => exact ⟨new, rfl⟩

theorem Grown.at?_of_kept (h : t.Grown grown) {p : Location} {e : Entry ι} (he : t.at? p = some e)
    (hfile : ∀ bytes, e ≠ .file bytes) : grown.at? p = some e := by
  have hentry := h.entries p
  generalize grown.at? p = now at hentry ⊢
  rw [he] at hentry
  cases hentry with
  | same => rfl
  | file old new => exact absurd rfl (hfile old)

/-! ## Where paths lead -/

theorem grown_walk (h : t.Grown grown) (links : Nat) (start : Location) (names : List String) :
    Lookup.Grown (t.walk links start names) (grown.walk links start names) := by
  fun_induction Files.walk t links start names with
  | case1 links start =>
    rw [walk]
    exact .same _
  | case2 links start name rest hname ih =>
    rw [walk, if_pos hname]
    exact ih
  | case3 links start rest hname ih =>
    rw [walk, if_neg hname, if_pos rfl]
    exact ih
  | case4 links start name rest hname hparent hlimit =>
    rw [walk, if_neg hname, if_neg hparent, if_pos hlimit]
    exact .same _
  | case5 links start name hname hparent hlimit hfree =>
    rw [walk, if_neg hname, if_neg hparent, if_neg hlimit]
    obtain hstill | ⟨bytes, hmade⟩ := h.at?_of_free hfree
    · rw [hstill]
      exact .same _
    · rw [hmade]
      exact .made _ bytes
  | case6 links start name rest hname hparent hlimit hfree hrest =>
    rw [walk, if_neg hname, if_neg hparent, if_neg hlimit]
    obtain hstill | ⟨bytes, hmade⟩ := h.at?_of_free hfree
    · simp only [hstill, if_neg hrest]
      exact .same _
    · simp only [hmade, if_neg hrest]
      exact .same _
  | case7 links start name rest hname hparent hlimit hdirectory ih =>
    rw [walk, if_neg hname, if_neg hparent, if_neg hlimit, h.at?_of_kept hdirectory (by simp)]
    exact ih
  | case8 start name rest hname hparent hlimit target htarget =>
    rw [walk, if_neg hname, if_neg hparent, if_neg hlimit, h.at?_of_kept htarget (by simp)]
    exact .same _
  | case9 start name rest hname hparent hlimit left htarget =>
    rw [walk, if_neg hname, if_neg hparent, if_neg hlimit, h.at?_of_kept htarget (by simp)]
    exact .same _
  | case10 start name rest hname hparent hlimit target htarget left hempty ih =>
    rw [walk, if_neg hname, if_neg hparent, if_neg hlimit, h.at?_of_kept htarget (by simp)]
    simp only [hempty, if_false]
    exact ih
  | case11 links start name hname hparent hlimit e hdirectory hlink he =>
    rw [walk, if_neg hname, if_neg hparent, if_neg hlimit]
    cases e with
    | directory => exact absurd rfl hdirectory
    | link target => exact absurd rfl (hlink target)
    | image content =>
      rw [h.at?_of_kept he (by simp)]
      exact .same _
    | file old =>
      obtain ⟨new, hnew⟩ := h.at?_of_file he
      rw [hnew]
      exact .file _ old new
  | case12 links start name rest hname hparent hlimit e hdirectory hlink he hrest =>
    rw [walk, if_neg hname, if_neg hparent, if_neg hlimit]
    cases e with
    | directory => exact absurd rfl hdirectory
    | link target => exact absurd rfl (hlink target)
    | image content =>
      simp only [h.at?_of_kept he (by simp), if_neg hrest]
      exact .same _
    | file old =>
      obtain ⟨new, hnew⟩ := h.at?_of_file he
      simp only [hnew, if_neg hrest]
      exact .same _

theorem grown_lookup (h : t.Grown grown) (path : String) :
    Lookup.Grown (t.lookup path) (grown.lookup path) := by
  unfold lookup
  split
  · exact .same _
  · rw [lookupNames, lookupNames, h.workingDirectory]
    exact grown_walk h _ _ _

theorem isFile_of_grown (h : t.Grown grown) {path : String} (hfile : t.isFile path = true) :
    grown.isFile path = true := by
  have hlookup := grown_lookup h path
  rw [isFile] at hfile ⊢
  generalize t.lookup path = was at hfile hlookup
  generalize grown.lookup path = now at hlookup ⊢
  cases hlookup with
  | same => exact hfile
  | file => rfl
  | made => cases hfile

/-! ## What is written -/

theorem grown_openAppend? {path : String} {place : Location} (h : t.openAppend? path = some (place, grown)) :
    t.Grown grown := by
  constructor
  · unfold openAppend? at h
    split at h <;> cases h <;> rfl
  · intro p
    rw [at?_of_openAppend? h]
    split
    · cases t.at? p with
      | none => exact .made []
      | some e => exact .same _
    · exact .same _

theorem grown_append (t : Files ι) (place : Location) (bytes : List UInt8) :
    t.Grown (t.append place bytes) := by
  constructor
  · unfold append
    split <;> rfl
  · intro p
    rw [at?_append]
    split
    · cases t.at? p with
      | none => exact .same _
      | some e => exact Entry.grown_extended bytes e
    · exact .same _

end Files

theorem System.grown_report (s : System ι) (e : Event) : s.files.Grown (s.report e).files := by
  have hsettle : s.files.Grown s.settleLog.files := by
    by_cases hlog : s.debugLog = .untouched
    · rw [settleLog_of_untouched hlog]
      cases hopening : DebugLog.opening? s.files s.environment with
      | none => exact .refl _
      | some r => exact Files.grown_openAppend? (opening?_eq_some_iff.mp hopening).2
    · rw [settleLog_of_settled hlog]
      exact .refl _
  rw [← report_settleLog]
  cases hlog : s.settleLog.debugLog with
  | untouched => exact absurd hlog s.settleLog_settled
  | off =>
    rw [report_off hlog]
    exact hsettle
  | on place threshold =>
    rw [report_on hlog]
    split
    · exact hsettle.trans (Files.grown_append _ _ _)
    · exact hsettle

end Credentials.Host
