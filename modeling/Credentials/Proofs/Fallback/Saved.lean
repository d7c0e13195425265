import Credentials.Fallback.Loader
import Credentials.Proofs.Host.Files
import Credentials.Proofs.Yaml.Documents

/-!
# Saved records are opened

A record is written entry by entry, the values in the order of configuration and the debug switch last, and its
text is read as the same record (`Record.ofText?_toText`). So a file that a record was saved to adds to a loader
the layer of that record (`Record.opened_of_saved`).
-/

namespace Credentials.Fallback

open Host (Files)
open Yaml (Entry)

namespace Record

variable {r : Record} {s : Secret}

/-! ## Entries -/

def valueEntry (s : Secret) (value : String) : Entry := ⟨s.name, value, Yaml.styleOf value⟩

def debugEntry (debug : Bool) : Entry := ⟨debugKey, if debug then "true" else "false", .plain⟩

/-- The entries of the values for some secrets. -/
def valueEntries (r : Record) (secrets : List Secret) : List Entry :=
  secrets.flatMap fun s => ((r.value? s).map (valueEntry s)).toList

def entries (r : Record) : List Entry :=
  r.valueEntries Secret.all ++ (r.debug.map debugEntry).toList

theorem toList_valueText (r : Record) (s : Secret) :
    (r.valueText s).toList = ((r.value? s).map (valueEntry s)).toList.flatMap Entry.chars := by
  unfold valueText
  cases r.value? s with
  | none => rfl
  | some v => simp [Yaml.textEntry, valueEntry, Entry.chars]

theorem toList_debugText (r : Record) : r.debugText.toList = (r.debug.map debugEntry).toList.flatMap Entry.chars := by
  unfold debugText
  cases r.debug with
  | none => rfl
  | some b => cases b <;> simp [Yaml.boolEntry, debugEntry, Entry.chars, Yaml.written]

theorem toText_eq (h : r ≠ {}) : r.toText = String.ofList (r.entries.flatMap Entry.chars) := by
  rw [toText, if_neg h, ← String.toList_inj]
  simp [String.join, Secret.all, entries, valueEntries, toList_valueText, toList_debugText]

theorem entries_ne_nil (h : r ≠ {}) : r.entries ≠ [] := by
  intro hnil
  apply h
  obtain ⟨serviceId, telemetryId, sharedSecret, debug⟩ := r
  cases serviceId <;> cases telemetryId <;> cases sharedSecret <;> cases debug <;> first | rfl | cases hnil

theorem fits_valueEntry (s : Secret) (value : String) : (valueEntry s value).Fits := by
  have hname : (∀ c ∈ s.name.toList, Yaml.isKeyChar c = true) ∧ s.name.toList ≠ [] ∧
      s.name.toList.length ≤ Yaml.keyReach := by
    cases s <;> exact ⟨List.all_eq_true.mp (by decide), by decide, by decide⟩
  exact ⟨hname.1, hname.2.1, hname.2.2, Yaml.suits_styleOf value⟩

theorem fits_debugEntry (debug : Bool) : (debugEntry debug).Fits := by
  have hkey : ∀ c ∈ debugKey.toList, Yaml.isKeyChar c = true := List.all_eq_true.mp (by decide)
  have hlength : debugKey.toList ≠ [] ∧ debugKey.toList.length ≤ Yaml.keyReach := by decide
  refine ⟨hkey, hlength.1, hlength.2, ?_⟩
  show Yaml.isPlainText (if debug then "true" else "false").toList = true
  cases debug <;> decide

theorem fits_entries (r : Record) : ∀ e ∈ r.entries, e.Fits := by
  intro e he
  rcases List.mem_append.mp he with hvalue | hdebug
  · obtain ⟨s, -, hs⟩ := List.mem_flatMap.mp hvalue
    obtain ⟨v, -, rfl⟩ := Option.map_eq_some_iff.mp (Option.mem_toList.mp hs)
    exact fits_valueEntry s v
  · obtain ⟨b, -, rfl⟩ := Option.map_eq_some_iff.mp (Option.mem_toList.mp hdebug)
    exact fits_debugEntry b

/-! ## Reading -/

open Yaml (Document Node)

theorem ofKey?_name (s : Secret) : Field.ofKey? s.name = some (.value s) := by
  cases s <;> decide

theorem setField_value (r : Record) (s : Secret) (value : String) :
    r.setField (.value s) { text := value, style := Yaml.styleOf value } = some (r.setValue s (some value)) := by
  have hpresent : isAbsent? { text := value, style := Yaml.styleOf value } = some false := by
    unfold isAbsent?
    by_cases hplain : Yaml.styleOf value = .plain
    · have htyped := Yaml.isTyped_of_styleOf hplain
      simp only [Yaml.isTyped, Bool.or_eq_false_iff] at htyped
      simp [hplain, htyped]
    · simp [hplain]
  unfold setField
  rw [hpresent]

theorem setField_debug (r : Record) (debug : Bool) :
    r.setField .debug { text := if debug then "true" else "false" } = some { r with debug := some debug } := by
  have hpresent : isAbsent? { text := if debug then "true" else "false" } = some false := by
    cases debug <;> decide
  have hbool : readBool? { text := if debug then "true" else "false" } = some debug := by
    cases debug <;> decide
  unfold setField
  rw [hpresent]
  simp only [hbool, Option.map_some]

variable {d : Document} {seen : List Field} {rest : List (Node Nat × Node Nat)}

theorem readEntries_value (value : String) (hseen : .value s ∉ seen) :
    readEntries d seen r ((valueEntry s value).nodes :: rest) =
      readEntries d (.value s :: seen) (r.setValue s (some value)) rest := by
  have hkey : d.scalar? (valueEntry s value).nodes.1 = some { text := s.name } := rfl
  have hvalue : (d.scalar? (valueEntry s value).nodes.2).bind (r.setField (.value s)) =
      some (r.setValue s (some value)) := r.setField_value s value
  simp only [readEntries, hkey, ofKey?_name, if_neg hseen, hvalue]

theorem readEntries_debug (debug : Bool) (hseen : .debug ∉ seen) :
    readEntries d seen r [(debugEntry debug).nodes] = some { r with debug := some debug } := by
  have hkey : d.scalar? (debugEntry debug).nodes.1 = some { text := debugKey } := rfl
  have hfield : Field.ofKey? debugKey = some .debug := rfl
  have hvalue : (d.scalar? (debugEntry debug).nodes.2).bind (r.setField .debug) =
      some { r with debug := some debug } := r.setField_debug debug
  simp only [readEntries, hkey, hfield, if_neg hseen, hvalue]

/-- Takes over the value for a secret, if there is one. -/
def takeOver (r taken : Record) (s : Secret) : Record :=
  match r.value? s with
  | some value => taken.setValue s (some value)
  | none => taken

theorem readEntries_values (r : Record) {secrets : List Secret} (hsecrets : secrets.Nodup)
    (hseen : ∀ s ∈ secrets, .value s ∉ seen) (hdebug : .debug ∉ seen) (taken : Record) :
    ∃ seen', .debug ∉ seen' ∧
      readEntries d seen taken ((r.valueEntries secrets).map Entry.nodes ++ rest) =
        readEntries d seen' (secrets.foldl r.takeOver taken) rest := by
  induction secrets generalizing seen taken with
  | nil => exact ⟨seen, hdebug, rfl⟩
  | cons s secrets ih =>
    obtain ⟨hfresh, hothers⟩ := List.forall_mem_cons.mp hseen
    obtain ⟨hnot, hnodup⟩ := List.nodup_cons.mp hsecrets
    rw [valueEntries, List.flatMap_cons, List.foldl_cons, takeOver]
    cases r.value? s with
    | none => exact ih hnodup hothers hdebug taken
    | some v =>
      have hothers' : ∀ t ∈ secrets, .value t ∉ Field.value s :: seen := by
        intro t ht hmem
        rcases List.mem_cons.mp hmem with hsame | hmem
        · cases hsame
          exact hnot ht
        · exact hothers t ht hmem
      have hdebug' : .debug ∉ Field.value s :: seen := by simpa using hdebug
      obtain ⟨seen', hlast, hread⟩ := ih hnodup hothers' hdebug' (taken.setValue s (some v))
      refine ⟨seen', hlast, ?_⟩
      rw [← hread]
      exact readEntries_value v hfresh

theorem takeOver_all (r : Record) : Secret.all.foldl r.takeOver {} = { r with debug := none } := by
  obtain ⟨serviceId, telemetryId, sharedSecret, debug⟩ := r
  cases serviceId <;> cases telemetryId <;> cases sharedSecret <;> rfl

theorem readEntries_entries (r : Record) : readEntries d [] {} (r.entries.map Entry.nodes) = some r := by
  have hall : Secret.all.Nodup := by decide
  have hseen : ∀ s ∈ Secret.all, Field.value s ∉ [] := by simp
  have hdebug : Field.debug ∉ [] := by simp
  rw [entries, List.map_append]
  obtain ⟨seen, hlast, hvalues⟩ := r.readEntries_values hall hseen hdebug {}
  rw [hvalues, takeOver_all]
  obtain ⟨serviceId, telemetryId, sharedSecret, debug⟩ := r
  cases debug with
  | none => rfl
  | some b => exact readEntries_debug b hlast

/-- A record is read from its text. -/
theorem ofText?_toText (r : Record) : ofText? r.toText = some r := by
  by_cases hempty : r = {}
  · subst hempty
    decide +kernel
  · rw [ofText?, toText_eq hempty, Document.ofText?_entries r.fits_entries (entries_ne_nil hempty), Option.bind_some]
    exact readEntries_entries r

/-! ## Files -/

theorem isBlank_of_isKeyChar {c : Char} (h : Yaml.isKeyChar c = true) : Text.isBlank c = false := by
  obtain ⟨hlow, hhigh⟩ := Yaml.toNat_of_isKeyChar h
  simp only [Text.isBlank, Bool.or_eq_false_iff, Bool.and_eq_false_iff, decide_eq_false_iff_not,
    beq_eq_false_iff_ne]
  omega

theorem not_allBlank_toText (r : Record) : Text.allBlank r.toText = false := by
  by_cases hempty : r = {}
  · subst hempty
    decide
  · obtain ⟨e, es, hentries⟩ := List.exists_cons_of_ne_nil (entries_ne_nil hempty)
    have he : e.Fits := r.fits_entries e (by rw [hentries]; simp)
    obtain ⟨c, key, hkey⟩ := List.exists_cons_of_ne_nil he.nonempty
    have hc : Yaml.isKeyChar c = true := he.key c (by rw [hkey]; simp)
    rw [toText_eq hempty, hentries, Text.allBlank, String.toList_ofList, List.flatMap_cons, Entry.chars, hkey]
    simp [isBlank_of_isKeyChar hc]

theorem ofFileText?_toText (r : Record) : ofFileText? r.toText = some r := by
  rw [ofFileText?, not_allBlank_toText, if_neg Bool.false_ne_true, ofText?_toText]

variable {ι : Type}

theorem save_eq_ok_iff {r : Record} {t : Files ι} {path : String} :
    (r.save t path).1 = .ok () ↔ (t.save path (Text.toBytes r.toText)).1 = true := by
  unfold save
  split <;> simp_all

theorem save_snd (r : Record) (t : Files ι) (path : String) :
    (r.save t path).2 = (t.save path (Text.toBytes r.toText)).2 := by
  unfold save
  split <;> simp_all

/-- **What was saved is opened.** If a record was saved to a path, then

* the path is read as that record: each value that it has is there as it was, and what it does not have is
  absent, not empty;
* added to any loader, the file says in every environment for each secret and about debug mode what the record
  says. -/
theorem opened_of_saved (r : Record) (t : Files ι) (path : String) (h : (r.save t path).1 = .ok ()) :
    ofFile (r.save t path).2 path = .ok r ∧
      ∀ l : Loader, ∃ layer : Layer, l.addFile (r.save t path).2 path = .ok (l.add layer) ∧
        ∀ e, (∀ s, (layer.source e).value? s = r.value? s) ∧ (layer.source e).debug? = r.debug := by
  have hopen : ofFile (r.save t path).2 path = .ok r := by
    obtain ⟨made, hwrite⟩ := Files.write?_of_save (save_eq_ok_iff.mp h)
    rw [save_snd, ofFile]
    simp only [Files.exists?_of_write? hwrite, Files.readText?_of_write? hwrite, ofFileText?_toText, if_true]
  refine ⟨hopen, ?_⟩
  intro l
  refine ⟨.file r, ?_, fun e => ⟨fun s => rfl, rfl⟩⟩
  rw [Loader.addFile, hopen]

/-- A record of texts that could be taken for something else, saved to a directory that is made for it. -/
theorem opened_of_saved_awkward :
    let r : Record :=
      { serviceId := some " a: #\n\n", telemetryId := some "null", sharedSecret := some "", debug := some false }
    (r.save (Files.empty : Files Unit) "/app/fallback.yaml").1 = .ok () ∧
      ofFile (r.save (Files.empty : Files Unit) "/app/fallback.yaml").2 "/app/fallback.yaml" = .ok r := by
  intro r
  have habsolute : Host.Path.isAbsolute "/app/fallback.yaml" = true := by decide +kernel
  have hnames : Host.Path.names "/app/fallback.yaml" = ["", "app", "fallback.yaml"] := by decide
  have hsizes : "/app/fallback.yaml".utf8ByteSize = 18 ∧ "app".utf8ByteSize = 3 ∧
      "fallback.yaml".utf8ByteSize = 13 := by decide
  have hplaced : ∀ bytes, ((Files.empty : Files Unit).save "/app/fallback.yaml" bytes).1 = true := by
    intro bytes
    simp [Files.save, Host.Path.parentNames?, hnames, habsolute, hsizes, Files.makeDirectories,
      Files.makeDirectory?, Files.lookup, Files.lookupNames, Files.walk, Files.at?, Files.put, Files.write?,
      Files.empty, Files.nameLimit, Files.pathLimit]
  have hsaved : (r.save (Files.empty : Files Unit) "/app/fallback.yaml").1 = .ok () := by
    rw [save_eq_ok_iff]
    exact hplaced _
  exact ⟨hsaved, (opened_of_saved r Files.empty "/app/fallback.yaml" hsaved).1⟩

end Record

end Credentials.Fallback
