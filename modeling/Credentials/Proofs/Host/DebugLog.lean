import Credentials.Host.DebugLog
import Credentials.Proofs.Host.Files

/-!
# The debug log is settled once

Events happen in a process while its environment changes and time goes by (`Happening`). What the log makes
of them is known from the first one: a log that is off stays off (`follow_off`), one that is on appends a
record of each event from its threshold on and touches no other place (`at?_follow_on`), and one that no
event has reached becomes either at the first event, by the environment of that moment (`follow_event`).

What variables say, the lines of the log file, its levels and their names are written out here
(`Environment.textIn?`, `Moment.line`, `levelsFrom`, `levelNamed?`), as someone who reads the file knows them.
-/

namespace Credentials.Host

variable {ι : Type}

/-- What happens in a process. -/
inductive Happening where
  | event (e : Event)
  | setVariable (name : String) (value : Option (List UInt8))
  | tick (clock : String)

/-- An event in the environment and at the time of day in which it happens. -/
structure Moment where
  environment : Environment
  clock : String
  event : Event

/-- The events of what happens, each in its moment. -/
def moments (e : Environment) (clock : String) : List Happening → List Moment
  | [] => []
  | .event event :: rest => ⟨e, clock, event⟩ :: moments e clock rest
  | .setVariable name value :: rest =>
    moments ⟨fun n => if n = name then value else e.bytes? n⟩ clock rest
  | .tick clock :: rest => moments e clock rest

/-! ## Variables -/

namespace Environment

/-- The text in a variable, if its bytes are the UTF-8 form of one. -/
def textIn? (e : Environment) (name : String) : Option String :=
  (e.bytes? name).bind fun bytes => String.fromUTF8? ⟨bytes.toArray⟩

/-- The path in a variable, which is its text. Bytes that are no text are read for display. -/
def pathIn? (e : Environment) (name : String) : Option String :=
  (e.bytes? name).map fun bytes => (String.fromUTF8? ⟨bytes.toArray⟩).getD (Text.ofBytesLossy bytes)

theorem textIn?_eq (e : Environment) (name : String) : e.textIn? name = e.text? name := rfl

theorem pathIn?_eq (e : Environment) (name : String) : e.pathIn? name = e.path? name := by
  have hshown : ∀ bytes, (Text.ofBytes? bytes).getD (Text.ofBytesLossy bytes) = Text.ofBytesLossy bytes := by
    intro bytes
    cases htext : Text.ofBytes? bytes with
    | none => rfl
    | some text =>
      rw [Text.ofBytes?_eq_some_iff.mp htext, Text.ofBytesLossy_toBytes]
      rfl
  exact congrArg (fun f => (e.bytes? name).map f) (funext hshown)

end Environment

/-! ## Lines and levels -/

/-- The word for a level, five characters wide. -/
def levelWord : Log.Level → String
  | .trace => "TRACE"
  | .debug => "DEBUG"
  | .info => "INFO "
  | .warn => "WARN "
  | .error => "ERROR"

/-- The line for an event: the time of day, the level and the module in brackets, and the text. -/
def Moment.line (m : Moment) : String :=
  let parts := ["[" ++ m.clock ++ "]", "[" ++ levelWord m.event.level ++ "]", "[" ++ m.event.module ++ "]",
    m.event.text]
  " ".intercalate parts ++ "\n"

/-- The levels that weigh as much as a threshold or more. -/
def levelsFrom (threshold : Log.Level) : List Log.Level :=
  [.trace, .debug, .info, .warn, .error].dropWhile (· ≠ threshold)

/-- The level that a name stands for, in any case. -/
def levelNamed? (name : String) : Option Log.Level :=
  [("trace", .trace), ("debug", .debug), ("info", .info), ("warn", .warn), ("warning", .warn),
    ("error", .error)].lookup name.toLower

/-- The lines for the moments whose events are of a threshold's level or a heavier one, in UTF-8. -/
def recordsFrom (threshold : Log.Level) (ms : List Moment) : List UInt8 :=
  (ms.filter fun m => m.event.level ∈ levelsFrom threshold).flatMap fun m =>
    m.line.toList.flatMap String.utf8EncodeChar

theorem record_eq_line (m : Moment) : DebugLog.record m.clock m.event = m.line := by
  have hword : m.event.level.padded = levelWord m.event.level := by cases m.event.level <;> rfl
  rw [← String.toList_inj]
  simp [DebugLog.record, Moment.line, hword]

theorem mem_levelsFrom {level threshold : Log.Level} :
    level ∈ levelsFrom threshold ↔ level.reaches threshold = true := by
  cases level <;> cases threshold <;> decide

theorem levelNamed?_eq (name : String) : levelNamed? name = Log.Level.ofName? name := by
  unfold levelNamed? Log.Level.ofName?
  simp only [List.lookup_cons, List.lookup_nil]
  repeat' split
  all_goals simp_all

theorem recordsFrom_cons (threshold : Log.Level) (m : Moment) (ms : List Moment) :
    recordsFrom threshold (m :: ms) =
      (if m.event.level.reaches threshold then Text.toBytes (DebugLog.record m.clock m.event) else []) ++
        recordsFrom threshold ms := by
  unfold recordsFrom
  rw [record_eq_line, Text.toBytes_eq_flatMap]
  by_cases h : m.event.level.reaches threshold <;> simp [mem_levelsFrom, h]

/-- The place and the files of a log that an environment turns on, if its file can be opened. -/
def DebugLog.opening? (t : Files ι) (e : Environment) : Option (Location × Files ι) :=
  if isWanted e then t.openAppend? (path e) else none

theorem isWanted_iff {e : Environment} :
    DebugLog.isWanted e = true ↔
      ∃ text, e.textIn? "NATIVEKEYS_DEBUG" = some text ∧ (text = "1" ∨ text.toLower = "true") := by
  rw [e.textIn?_eq]
  unfold DebugLog.isWanted
  cases e.text? "NATIVEKEYS_DEBUG" <;> simp [isOn]

theorem opening?_eq_some_iff {t : Files ι} {e : Environment} {r : Location × Files ι} :
    DebugLog.opening? t e = some r ↔
      DebugLog.isWanted e = true ∧ t.openAppend? (DebugLog.path e) = some r := by
  unfold DebugLog.opening?
  cases DebugLog.isWanted e <;> simp

theorem opening?_eq_none_iff {t : Files ι} {e : Environment} :
    DebugLog.opening? t e = none ↔
      ¬ DebugLog.isWanted e = true ∨ t.openAppend? (DebugLog.path e) = none := by
  unfold DebugLog.opening?
  cases DebugLog.isWanted e <;> simp

namespace System

def meet (s : System ι) : Happening → System ι
  | .event e => s.report e
  | .setVariable name value => { s with environment := s.environment.set name value }
  | .tick clock => { s with clock }

/-- What one thing after the other does to the system. -/
def follow (s : System ι) (hs : List Happening) : System ι := hs.foldl meet s

theorem follow_cons (s : System ι) (h : Happening) (hs : List Happening) :
    s.follow (h :: hs) = (s.meet h).follow hs := rfl

theorem follow_append (s : System ι) (hs hs' : List Happening) :
    s.follow (hs ++ hs') = (s.follow hs).follow hs' := List.foldl_append

/-! ## One event -/

theorem settleLog_environment (s : System ι) : s.settleLog.environment = s.environment := by
  unfold settleLog
  repeat' split
  all_goals rfl

theorem settleLog_clock (s : System ι) : s.settleLog.clock = s.clock := by
  unfold settleLog
  repeat' split
  all_goals rfl

theorem settleLog_of_untouched {s : System ι} (h : s.debugLog = .untouched) :
    s.settleLog =
      match DebugLog.opening? s.files s.environment with
      | some (place, files) =>
        { s with files, debugLog := .on place (DebugLog.threshold s.environment) }
      | none => { s with debugLog := .off } := by
  unfold settleLog DebugLog.opening?
  rw [h]
  cases DebugLog.isWanted s.environment with
  | true => rfl
  | false => rfl

theorem settleLog_of_settled {s : System ι} (h : s.debugLog ≠ .untouched) : s.settleLog = s := by
  unfold settleLog
  split
  · exact absurd ‹_› h
  · rfl

theorem settleLog_settled (s : System ι) : s.settleLog.debugLog ≠ .untouched := by
  by_cases h : s.debugLog = .untouched
  · rw [settleLog_of_untouched h]
    split <;> exact DebugLog.noConfusion
  · rwa [settleLog_of_settled h]

theorem report_settleLog (s : System ι) (e : Event) : s.settleLog.report e = s.report e := by
  rw [report, settleLog_of_settled s.settleLog_settled]
  rfl

theorem report_off {s : System ι} (h : s.debugLog = .off) (e : Event) : s.report e = s := by
  rw [report, settleLog_of_settled (by rw [h]; exact DebugLog.noConfusion)]
  simp only [h]

theorem report_on {s : System ι} {place : Location} {threshold : Log.Level}
    (h : s.debugLog = .on place threshold) (e : Event) :
    s.report e =
      if e.level.reaches threshold then
        { s with files := s.files.append place (Text.toBytes (DebugLog.record s.clock e)) }
      else s := by
  rw [report, settleLog_of_settled (by rw [h]; exact DebugLog.noConfusion)]
  simp only [h]

theorem report_frame (s : System ι) (e : Event) :
    (s.report e).environment = s.environment ∧ (s.report e).clock = s.clock := by
  rw [← report_settleLog, ← settleLog_environment s, ← settleLog_clock s]
  cases h : s.settleLog.debugLog with
  | untouched => exact absurd h s.settleLog_settled
  | off => rw [report_off h]; exact ⟨rfl, rfl⟩
  | on place threshold =>
    rw [report_on h]
    split <;> exact ⟨rfl, rfl⟩

theorem at?_settleLog (s : System ι) {p : Location} (h : ∀ threshold, s.settleLog.debugLog ≠ .on p threshold) :
    s.settleLog.files.at? p = s.files.at? p := by
  by_cases hlog : s.debugLog = .untouched
  · rw [settleLog_of_untouched hlog] at h ⊢
    cases hopening : DebugLog.opening? s.files s.environment with
    | none => rfl
    | some r =>
      obtain ⟨place, opened⟩ := r
      rw [hopening] at h
      have hp : p ≠ place := by
        rintro rfl
        exact h _ rfl
      exact (Files.at?_of_openAppend? (opening?_eq_some_iff.mp hopening).2 p).trans (if_neg hp)
  · rw [settleLog_of_settled hlog]

theorem at?_report (s : System ι) (e : Event) {p : Location}
    (h : ∀ threshold, (s.report e).debugLog ≠ .on p threshold) :
    (s.report e).files.at? p = s.files.at? p := by
  rw [← report_settleLog] at h ⊢
  cases hlog : s.settleLog.debugLog with
  | untouched => exact absurd hlog s.settleLog_settled
  | off =>
    rw [report_off hlog] at h ⊢
    exact s.at?_settleLog h
  | on place threshold =>
    -- the log that the first event turned on is still on at the same place, so `p` is another one
    have hkept : (s.settleLog.report e).debugLog = .on place threshold := by
      rw [report_on hlog]
      split <;> exact hlog
    have hp : p ≠ place := by
      rintro rfl
      exact h threshold hkept
    have hsettled : s.settleLog.files.at? p = s.files.at? p := by
      apply s.at?_settleLog
      intro threshold' hp'
      rw [hlog] at hp'
      cases hp'
      exact hp rfl
    rw [report_on hlog, ← hsettled]
    split
    · rw [Files.at?_append, if_neg hp]
    · rfl

/-! ## What happens after the settings are made -/

theorem follow_off (hs : List Happening) :
    ∀ {s : System ι}, s.debugLog = .off → (s.follow hs).files = s.files := by
  induction hs with
  | nil => intro s h; rfl
  | cons h hs ih =>
    intro s hoff
    rw [follow_cons]
    cases h with
    | event e => rw [meet, report_off hoff, ih hoff]
    | setVariable name value => exact ih hoff
    | tick clock => exact ih hoff

theorem at?_follow_on {place : Location} {threshold : Log.Level} (p : Location) (hs : List Happening) :
    ∀ {s : System ι}, s.debugLog = .on place threshold →
      (s.follow hs).files.at? p =
        if p = place then
          (s.files.at? p).map
            (·.extended (recordsFrom threshold (moments s.environment s.clock hs)))
        else s.files.at? p := by
  induction hs with
  | nil => intro s h; simp [follow, moments, recordsFrom]
  | cons h hs ih =>
    intro s hon
    rw [follow_cons]
    cases h with
    | event e =>
      rw [meet, report_on hon, moments, recordsFrom_cons]
      by_cases he : e.level.reaches threshold
      · -- the record that is appended now stands before those of the rest
        rw [if_pos he, if_pos he, ih (by exact hon), Files.at?_append]
        split
        · rw [Option.map_map]
          congr 1
          funext entry
          exact extended_extended entry _ _
        · rfl
      · rw [if_neg he, if_neg he, ih hon, List.nil_append]
    | setVariable name value => exact ih hon
    | tick clock => exact ih hon

/-! ## A log that no event has reached -/

theorem follow_of_no_moments (hs : List Happening) : ∀ {s : System ι},
    moments s.environment s.clock hs = [] → (s.follow hs).files = s.files := by
  induction hs with
  | nil => intro s h; rfl
  | cons h hs ih =>
    intro s hnone
    rw [follow_cons]
    cases h with
    | event e => cases hnone
    | setVariable name value => exact ih (s := s.meet (.setVariable name value)) hnone
    | tick clock => exact ih (s := s.meet (.tick clock)) hnone

/-- The first event settles the log before anything else comes of it. -/
theorem follow_event (s : System ι) (e : Event) (hs : List Happening) :
    s.follow (.event e :: hs) = s.settleLog.follow (.event e :: hs) := by
  rw [follow_cons, follow_cons, meet, meet, report_settleLog]

theorem follow_of_moments_cons {first : Moment} {rest : List Moment} (hs : List Happening) :
    ∀ {s : System ι}, moments s.environment s.clock hs = first :: rest →
      ∃ later, moments first.environment first.clock later = rest ∧
        s.follow hs = { s with environment := first.environment, clock := first.clock }.follow
          (.event first.event :: later) := by
  induction hs with
  | nil => intro s hmoments; cases hmoments
  | cons h hs ih =>
    intro s hmoments
    cases h with
    | event e =>
      cases hmoments
      exact ⟨hs, rfl, rfl⟩
    | setVariable name value => exact ih (s := s.meet (.setVariable name value)) hmoments
    | tick clock => exact ih (s := s.meet (.tick clock)) hmoments

section FirstEvent

variable {s : System ι} {first : Moment} {rest : List Moment} {hs : List Happening}

theorem files_of_not_opening (hlog : s.debugLog = .untouched)
    (hmoments : moments s.environment s.clock hs = first :: rest)
    (hopening : DebugLog.opening? s.files first.environment = none) : (s.follow hs).files = s.files := by
  obtain ⟨later, -, hfollow⟩ := follow_of_moments_cons hs hmoments
  rw [hfollow, follow_event, settleLog_of_untouched (by exact hlog), hopening]
  exact follow_off _ rfl

theorem files_of_opening {place : Location} {opened : Files ι} (p : Location)
    (hlog : s.debugLog = .untouched) (hmoments : moments s.environment s.clock hs = first :: rest)
    (hopening : DebugLog.opening? s.files first.environment = some (place, opened)) :
    (s.follow hs).files.at? p =
      if p = place then
        some (((s.files.at? p).getD (.file [])).extended
          (recordsFrom (DebugLog.threshold first.environment) (first :: rest)))
      else s.files.at? p := by
  obtain ⟨later, hlater, hfollow⟩ := follow_of_moments_cons hs hmoments
  have hopened := Files.at?_of_openAppend? (opening?_eq_some_iff.mp hopening).2 p
  rw [hfollow, follow_event, settleLog_of_untouched (by exact hlog), hopening, at?_follow_on p _ rfl, hopened]
  rw [moments, hlater]
  split <;> rfl

end FirstEvent

end System

end Credentials.Host
