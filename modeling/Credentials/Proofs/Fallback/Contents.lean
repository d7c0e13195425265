import Credentials.Fallback.Loader
import Credentials.Proofs.Host.DebugLog

/-!
# What files and variables say

What is at a path as a fallback file (`Holds`, `Unreadable`), which path is the user's (`userFile`), and what a
record and the environment say as sources (`recordSource`, `environmentSource`) are written out here, down to
the characters that are white space and the names of the variables. Only the text of a file is left to the
reader of records.

Reading a file comes to what is at its path (`holds_iff`, `unreadable_iff`).
-/

namespace Credentials.Fallback

open Host (Environment Files)

variable {ι : Type}

/-! ## Files -/

/-- The code points of the characters with the property White_Space. -/
def whiteSpace : List Nat :=
  [0x09, 0x0A, 0x0B, 0x0C, 0x0D, 0x20, 0x85, 0xA0, 0x1680, 0x2000, 0x2001, 0x2002, 0x2003, 0x2004, 0x2005,
    0x2006, 0x2007, 0x2008, 0x2009, 0x200A, 0x2028, 0x2029, 0x202F, 0x205F, 0x3000]

def Blank (text : String) : Prop := ∀ c ∈ text.toList, c.toNat ∈ whiteSpace

def Present (files : Files ι) (path : String) : Prop := ∃ place e, files.lookup path = .found place e

/-- The path leads to a file with this text in it, in UTF-8. -/
def HasText (files : Files ι) (path text : String) : Prop :=
  ∃ place, files.lookup path = .found place (.file (text.toList.flatMap String.utf8EncodeChar))

/-- What is at the path is this record: an empty one if there is nothing, or a text with nothing but white space
in it, and otherwise the one that the text is read as. -/
inductive Holds (files : Files ι) (path : String) : Record → Prop where
  | absent (h : ¬ Present files path) : Holds files path {}
  | blank {text : String} (h : HasText files path text) (hblank : Blank text) : Holds files path {}
  | written {text : String} {r : Record} (h : HasText files path text) (hblank : ¬ Blank text)
    (hr : Record.ofText? text = some r) : Holds files path r

/-- Something is at the path, and it is no text, or one that is not blank and is read as no record. -/
def Unreadable (files : Files ι) (path : String) : Prop :=
  Present files path ∧ ∀ text, HasText files path text → ¬ Blank text ∧ Record.ofText? text = none

/-- The user's file is below the directory for configuration if an absolute one is set, and otherwise below the
home directory, which is that of the account if none is set. -/
def userFile (e : Environment) : String :=
  let home := ((e.pathIn? "HOME").filter (· ≠ "")).getD "/root"
  let below := ((e.pathIn? "XDG_CONFIG_HOME").filter Host.Path.isAbsolute).getD (Host.Path.join home ".config")
  Host.Path.join (Host.Path.join below "nativekeys") "fallback.yaml"

theorem mem_whiteSpace {c : Char} : c.toNat ∈ whiteSpace ↔ Text.isBlank c = true := by
  simp only [whiteSpace, Text.isBlank, List.mem_cons, List.not_mem_nil, or_false, Bool.or_eq_true,
    Bool.and_eq_true, decide_eq_true_eq, beq_iff_eq]
  omega

theorem blank_iff {text : String} : Blank text ↔ Text.allBlank text = true := by
  simp [Blank, Text.allBlank, mem_whiteSpace]

theorem present_iff {files : Files ι} {path : String} : Present files path ↔ files.exists? path = true := by
  unfold Present Files.exists?
  cases files.lookup path <;> simp

theorem hasText_iff {files : Files ι} {path text : String} :
    HasText files path text ↔ files.readText? path = some text := by
  unfold HasText Files.readText?
  rw [← Text.toBytes_eq_flatMap]
  cases files.lookup path with
  | found place e => cases e <;> simp [Text.ofBytes?_eq_some_iff]
  | free place => simp
  | nowhere => simp

theorem holds_iff {files : Files ι} {path : String} {r : Record} :
    Holds files path r ↔ Record.ofFile files path = .ok r := by
  unfold Record.ofFile Record.ofFileText?
  constructor
  · intro h
    cases h with
    | absent h => rw [if_neg (mt present_iff.mpr h)]
    | blank h hblank =>
      have htext := hasText_iff.mp h
      rw [Files.exists?_of_readText? htext, htext]
      simp [blank_iff.mp hblank]
    | written h hblank hr =>
      have htext := hasText_iff.mp h
      rw [Files.exists?_of_readText? htext, htext]
      simp [mt blank_iff.mpr hblank, hr]
  · intro h
    split at h
    · split at h
      · cases h
      · rename_i text htext
        split at h
        · rename_i r' hr
          cases h
          split at hr
          · rename_i hblank
            cases hr
            exact .blank (hasText_iff.mpr htext) (blank_iff.mpr hblank)
          · rename_i hblank
            exact .written (hasText_iff.mpr htext) (mt blank_iff.mp hblank) hr
        · cases h
    · rename_i habsent
      cases h
      exact .absent (mt present_iff.mp habsent)

theorem unreadable_iff {files : Files ι} {path : String} :
    Unreadable files path ↔ ∃ f, Record.ofFile files path = .error f := by
  unfold Unreadable Record.ofFile Record.ofFileText?
  simp only [present_iff, hasText_iff]
  cases files.exists? path with
  | false => simp
  | true =>
    cases files.readText? path with
    | none => simp
    | some text =>
      by_cases hblank : Text.allBlank text = true
      · simp [blank_iff, hblank]
      · cases hread : Record.ofText? text <;> simp [blank_iff, hblank, hread]

theorem Holds.unique {files : Files ι} {path : String} {r r' : Record} (h : Holds files path r)
    (h' : Holds files path r') : r = r' := by
  rw [holds_iff] at h h'
  exact Except.ok.inj (h.symm.trans h')

theorem Holds.not_unreadable {files : Files ι} {path : String} {r : Record} (h : Holds files path r) :
    ¬ Unreadable files path := by
  rw [unreadable_iff, holds_iff.mp h]
  simp

theorem userPath_eq (e : Environment) : userPath e = userFile e := by
  have hhome : homeDirectory e = ((e.path? "HOME").filter (· ≠ "")).getD "/root" := by
    unfold homeDirectory
    cases e.path? "HOME" with
    | none => rfl
    | some home => by_cases hempty : home = "" <;> simp [Option.filter, hempty]
  unfold userPath configDirectory userFile
  rw [hhome, e.pathIn?_eq, e.pathIn?_eq]
  cases (e.path? "XDG_CONFIG_HOME").filter Host.Path.isAbsolute <;> rfl

/-! ## Sources -/

def recordSource (name : String) (r : Record) : Source where
  name := name
  value?
    | .serviceId => r.serviceId
    | .telemetryId => r.telemetryId
    | .sharedSecret => r.sharedSecret
  debug? := r.debug

/-- Only variables that are texts say anything, and an empty one only something about debug mode. -/
def environmentSource (e : Environment) : Source where
  name := "env"
  value?
    | .serviceId => (e.textIn? "NATIVEKEYS_SERVICE_APP_ID").filter (· ≠ "")
    | .telemetryId => (e.textIn? "NATIVEKEYS_TELEMETRY_APP_ID").filter (· ≠ "")
    | .sharedSecret => (e.textIn? "NATIVEKEYS_SHARED_SECRET").filter (· ≠ "")
  debug? := (e.textIn? "NATIVEKEYS_DEBUG_BUILD").map fun text => text = "1" ∨ text.toLower = "true"

theorem ofRecord_eq (name : String) (r : Record) : Source.ofRecord name r = recordSource name r := by
  have hvalue : r.value? = (recordSource name r).value? := by
    funext s
    cases s <;> rfl
  rw [Source.ofRecord, hvalue]
  rfl

theorem ofEnvironment_eq (e : Environment) : Source.ofEnvironment e = environmentSource e := by
  have hvalue : (Source.ofEnvironment e).value? = (environmentSource e).value? := by
    funext s
    cases s <;> rfl
  have hdebug : (Source.ofEnvironment e).debug? = (environmentSource e).debug? := by
    have hswitch : Host.isOn = fun text => decide (text = "1" ∨ text.toLower = "true") := by
      funext text
      rw [Bool.eq_iff_iff]
      simp [Host.isOn]
    show (e.text? "NATIVEKEYS_DEBUG_BUILD").map Host.isOn = _
    rw [hswitch]
    rfl
  show Source.mk "env" (Source.ofEnvironment e).value? (Source.ofEnvironment e).debug? = _
  rw [hvalue, hdebug]
  rfl

end Credentials.Fallback
