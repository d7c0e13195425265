import Credentials.Host.Files

/-!
# Places that are written to

A path that can be opened to append to it leads to a file that is there, or to a free place where an empty
one is then made (`at?_of_openAppend?`). To append changes what stands at one place and nothing else
(`at?_append`). What was written to a path is read from it (`readText?_of_write?`).
-/

namespace Credentials.Host

variable {ι : Type}

/-- The entry with bytes added at its end. Only a file has bytes. -/
def Entry.extended (bytes : List UInt8) : Entry ι → Entry ι
  | .file old => .file (old ++ bytes)
  | e => e

@[simp] theorem extended_nil (e : Entry ι) : e.extended [] = e := by
  cases e <;> simp [Entry.extended]

@[simp] theorem extended_extended (e : Entry ι) (first second : List UInt8) :
    (e.extended first).extended second = e.extended (first ++ second) := by
  cases e <;> simp [Entry.extended]

/-- Where a path leads is as the tree says. -/
def Lookup.Holds (t : Files ι) : Lookup ι → Prop
  | .found place e => e = .directory ∨ place ≠ [] ∧ t.at? place = some e
  | .free place => place ≠ [] ∧ t.at? place = none
  | .nowhere => True

namespace Files

theorem holds_walk (t : Files ι) (links : Nat) (place : Location) (names : List String) :
    (t.walk links place names).Holds t := by
  fun_induction Files.walk t links place names with
  | case1 => exact .inl rfl
  | case2 | case3 | case7 | case10 => assumption
  | case4 | case6 | case8 | case9 | case12 => trivial
  | case5 links place name hname hparent hlimit hnone => exact ⟨by simp, hnone⟩
  | case11 links place name hname hparent hlimit e hdirectory hlink he => exact .inr ⟨by simp, he⟩

theorem holds_lookup (t : Files ι) (path : String) : (t.lookup path).Holds t := by
  unfold lookup
  split
  · trivial
  · exact t.holds_walk _ _ _

/-- Nothing is put at the root, so an entry is put at one place only. -/
theorem at?_put_of_ne_nil (t : Files ι) {place : Location} (h : place ≠ []) (e : Entry ι) (p : Location) :
    (t.put place e).at? p = if p = place then some e else t.at? p := by
  by_cases hp : p = []
  · rw [if_neg (hp ▸ h.symm), hp]
    rfl
  · exact at?_put hp

/-- A file is at the place, or can be made there. -/
def Takes (place : Location) : Lookup ι → Prop
  | .found p (.file _) => p = place
  | .found p (.image _) => p = place
  | .free p => p = place
  | _ => False

theorem exists_openAppend?_iff {t : Files ι} {path : String} {place : Location} :
    (∃ opened, t.openAppend? path = some (place, opened)) ↔ Takes place (t.lookup path) := by
  unfold openAppend?
  cases t.lookup path with
  | found p e => cases e <;> simp [Takes]
  | free p => simp [Takes]
  | nowhere => simp [Takes]

theorem openAppend?_eq_none_iff {t : Files ι} {path : String} :
    t.openAppend? path = none ↔ ∀ place, ¬ Takes place (t.lookup path) := by
  simp [← exists_openAppend?_iff, Option.eq_none_iff_forall_ne_some]

theorem at?_of_openAppend? {t opened : Files ι} {path : String} {place : Location}
    (h : t.openAppend? path = some (place, opened)) (p : Location) :
    opened.at? p = if p = place then some ((t.at? p).getD (.file [])) else t.at? p := by
  have hthere : ∀ {e : Entry ι}, t.at? place = some e →
      t.at? p = if p = place then some ((t.at? p).getD (.file [])) else t.at? p := by
    intro e he
    split
    · rename_i hp
      rw [hp, he]
      rfl
    · rfl
  have hlookup := t.holds_lookup path
  unfold openAppend? at h
  split at h
  · rename_i bytes hfound
    cases h
    rw [hfound] at hlookup
    obtain ⟨⟨⟩⟩ | ⟨-, hat⟩ := hlookup
    exact hthere hat
  · rename_i image hfound
    cases h
    rw [hfound] at hlookup
    obtain ⟨⟨⟩⟩ | ⟨-, hat⟩ := hlookup
    exact hthere hat
  · rename_i hfree
    cases h
    rw [hfree] at hlookup
    obtain ⟨hplace, hnone⟩ := hlookup
    rw [at?_put_of_ne_nil t hplace]
    split
    · rename_i hp
      rw [hp, hnone]
      rfl
    · rfl
  · cases h

theorem at?_append (t : Files ι) (place : Location) (bytes : List UInt8) (p : Location) :
    (t.append place bytes).at? p = if p = place then (t.at? p).map (·.extended bytes) else t.at? p := by
  unfold append
  split
  · rename_i old hold
    have hplace : place ≠ [] := by
      rintro rfl
      cases hold
    rw [at?_put_of_ne_nil t hplace]
    split
    · rename_i hp
      rw [hp, hold]
      rfl
    · rfl
  · rename_i hnofile
    split
    · rename_i hp
      subst hp
      cases hat : t.at? p with
      | none => rfl
      | some e =>
        cases e with
        | file old => exact absurd hat (hnofile old)
        | directory => rfl
        | image i => rfl
        | link target => rfl
    · rfl

/-! ## What was written is read -/

theorem no_way_through {t : Files ι} {place : Location} {l : Lookup ι} (hl : l.Holds t) (h : Takes place l) :
    place ≠ [] ∧ t.at? place ≠ some .directory ∧ ∀ target, t.at? place ≠ some (.link target) := by
  match l, h with
  | .found _ (.file bytes), rfl | .found _ (.image content), rfl =>
    obtain ⟨⟨⟩⟩ | ⟨hplace, hat⟩ := hl
    exact ⟨hplace, by simp [hat], by simp [hat]⟩
  | .free _, rfl =>
    obtain ⟨hplace, hat⟩ := hl
    exact ⟨hplace, by simp [hat], by simp [hat]⟩

/-- A path that leads to a place still leads there once a file has been put there. -/
theorem walk_put {t : Files ι} {place : Location} (bytes : List UInt8) (hplace : place ≠ [])
    (hdirectory : t.at? place ≠ some .directory) (hlink : ∀ target, t.at? place ≠ some (.link target))
    {links : Nat} {start : Location} {names : List String} (h : Takes place (t.walk links start names)) :
    (t.put place (.file bytes)).walk links start names = .found place (.file bytes) := by
  have hput : ∀ p, (t.put place (.file bytes)).at? p = if p = place then some (.file bytes) else t.at? p :=
    at?_put_of_ne_nil t hplace _
  fun_induction Files.walk t links start names with
  | case1 | case4 | case6 | case8 | case9 | case12 => cases h
  | case2 links start name rest hname ih =>
    rw [walk, if_pos hname]
    exact ih h
  | case3 links start rest hname ih =>
    rw [walk, if_neg hname, if_pos rfl]
    exact ih h
  | case5 links start name hname hparent hlimit hnone =>
    have hhere : start ++ [name] = place := h
    rw [walk, if_neg hname, if_neg hparent, if_neg hlimit, hput, if_pos hhere, hhere]
    simp
  | case7 links start name rest hname hparent hlimit hdir ih =>
    have helse : start ++ [name] ≠ place := by
      intro hhere
      exact hdirectory (hhere ▸ hdir)
    rw [walk, if_neg hname, if_neg hparent, if_neg hlimit, hput, if_neg helse, hdir]
    exact ih h
  | case10 start name rest hname hparent hlimit target htarget left hempty ih =>
    have helse : start ++ [name] ≠ place := by
      intro hhere
      exact hlink target (hhere ▸ htarget)
    rw [walk, if_neg hname, if_neg hparent, if_neg hlimit, hput, if_neg helse, htarget]
    simp only [hempty, if_false]
    exact ih h
  | case11 links start name hname hparent hlimit e hdir hlinks he =>
    have hhere : start ++ [name] = place := by
      cases e with
      | directory => exact absurd rfl hdir
      | link target => exact absurd rfl (hlinks target)
      | file bytes => exact h
      | image content => exact h
    rw [walk, if_neg hname, if_neg hparent, if_neg hlimit, hput, if_pos hhere, hhere]
    simp

theorem lookup_of_write? {t written : Files ι} {path : String} {bytes : List UInt8}
    (h : t.write? path bytes = some written) : ∃ place, written.lookup path = .found place (.file bytes) := by
  obtain ⟨place, htakes, hwritten⟩ :
      ∃ place, Takes place (t.lookup path) ∧ written = t.put place (.file bytes) := by
    unfold write? at h
    split at h
    · rename_i hfound
      exact ⟨_, hfound ▸ rfl, (Option.some.inj h).symm⟩
    · rename_i hfound
      exact ⟨_, hfound ▸ rfl, (Option.some.inj h).symm⟩
    · rename_i hfree
      exact ⟨_, hfree ▸ rfl, (Option.some.inj h).symm⟩
    · cases h
  obtain ⟨hplace, hdirectory, hlink⟩ := no_way_through (t.holds_lookup path) htakes
  refine ⟨place, ?_⟩
  unfold lookup at htakes ⊢
  split at htakes
  · cases htakes
  · rename_i hpath
    rw [if_neg hpath, hwritten]
    exact walk_put bytes hplace hdirectory hlink htakes

theorem exists?_of_write? {t written : Files ι} {path : String} {bytes : List UInt8}
    (h : t.write? path bytes = some written) : written.exists? path = true := by
  obtain ⟨place, hlookup⟩ := lookup_of_write? h
  rw [exists?, hlookup]

theorem exists?_of_readText? {t : Files ι} {path text : String} (h : t.readText? path = some text) :
    t.exists? path = true := by
  unfold readText? at h
  unfold exists?
  split at h
  · rename_i hfound
    rw [hfound]
  · cases h

theorem readText?_of_write? {t written : Files ι} {path text : String}
    (h : t.write? path (Text.toBytes text) = some written) : written.readText? path = some text := by
  obtain ⟨place, hlookup⟩ := lookup_of_write? h
  rw [readText?, hlookup]
  exact Text.ofBytes?_toBytes text

theorem write?_of_save {t : Files ι} {path : String} {bytes : List UInt8} (h : (t.save path bytes).1 = true) :
    ∃ made : Files ι, made.write? path bytes = some (t.save path bytes).2 := by
  revert h
  unfold save
  extract_lets made
  intro h
  by_cases hmade : made.1 = true
  · refine ⟨made.2, ?_⟩
    rw [if_pos hmade] at h ⊢
    cases hwrite : made.2.write? path bytes with
    | some written => rfl
    | none =>
      rw [hwrite] at h
      cases h
  · rw [if_neg hmade] at h
    exact absurd h hmade

end Files

end Credentials.Host
