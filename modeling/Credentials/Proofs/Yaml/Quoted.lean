import Credentials.Yaml.Writer

/-!
# Quoted text is read back

A text that was written in single or in double quotes is scanned as that text, and what follows the closing
quote is left over (`scanSingle_written`, `scanDouble_written`). In single quotes the spaces and separators
between two words are collected as a gap; they survive because a space never stands beside a break, where it
would be taken for indentation. In double quotes every break is an escape, so that a gap holds only spaces.
-/

namespace Credentials.Yaml

/-! ## Characters -/

variable {c : Char}

theorem eq_of_isBreak (h : isBreak c = true) :
    c = '\n' ∨ c = '\r' ∨ c = '\u0085' ∨ c = '\u2028' ∨ c = '\u2029' := by
  simpa [isBreak, or_assoc] using h

theorem eq_of_isBlank (h : isBlank c = true) : c = ' ' ∨ c = '\t' := by
  simpa [isBlank] using h

theorem isBreak_of_isSimple (h : isSimple c = true) : isBreak c = false := by
  rw [← Bool.not_eq_true]
  intro hbreak
  rcases eq_of_isBreak hbreak with rfl | rfl | rfl | rfl | rfl <;> exact absurd h (by decide)

theorem isBlank_of_isSimple (h : isSimple c = true) (hspace : c ≠ ' ') : isBlank c = false := by
  rw [← Bool.not_eq_true]
  intro hblank
  rcases eq_of_isBlank hblank with rfl | rfl
  · exact hspace rfl
  · exact absurd h (by decide)

theorem eq_of_isKeptBreak (h : isKeptBreak c = true) : c = '\n' ∨ c = '\u2028' ∨ c = '\u2029' := by
  simpa [isKeptBreak, or_assoc] using h

theorem isSimple_or_isKeptBreak (h : isUnescaped c = true) : isSimple c = true ∨ isKeptBreak c = true := by
  simpa [isUnescaped] using h

theorem isBreak_of_isKeptBreak (h : isKeptBreak c = true) : isBreak c = true := by
  rcases eq_of_isKeptBreak h with rfl | rfl | rfl <;> decide

theorem isBlank_of_isKeptBreak (h : isKeptBreak c = true) : isBlank c = false := by
  rcases eq_of_isKeptBreak h with rfl | rfl | rfl <;> decide

theorem normalBreak_of_isKeptBreak (h : isKeptBreak c = true) : normalBreak c = c := by
  rcases eq_of_isKeptBreak h with rfl | rfl | rfl <;> decide

theorem ne_return_of_isSimple (h : isSimple c = true) : c ≠ '\r' := by
  rintro rfl
  exact absurd h (by decide)

theorem ne_return_of_isKeptBreak (h : isKeptBreak c = true) : c ≠ '\r' := by
  rcases eq_of_isKeptBreak h with rfl | rfl | rfl <;> decide

/-! ## Gaps and places -/

theorem atDocumentMarker_of_column {column : Nat} (h : 0 < column) (cs : List Char) :
    atDocumentMarker column cs = false := by
  have hcolumn : (column == 0) = false := beq_false_of_ne (Nat.ne_of_gt h)
  rw [atDocumentMarker, hcolumn, Bool.false_and]

@[simp] theorem column_skip (at_ : Cursor) (n : Nat) : (at_.skip n).column = at_.column + n := rfl

@[simp] theorem skip_skip (at_ : Cursor) (m n : Nat) : (at_.skip m).skip n = at_.skip (m + n) := by
  simp [Cursor.skip, Nat.add_assoc]

abbrev Gap.ofBlanks (blanks : List Char) : Gap := { blanks }

/-- A gap of breaks. -/
abbrev Gap.ofBreaks (breaks : List Char) : Gap := { breaks, broken := true }

@[simp] theorem addBlank_ofBlanks (blanks : List Char) :
    (Gap.ofBlanks blanks).addBlank c = .ofBlanks (c :: blanks) := rfl

@[simp] theorem addBlank_ofBreaks (breaks : List Char) :
    (Gap.ofBreaks breaks).addBlank c = .ofBreaks breaks := rfl

@[simp] theorem addBreak_ofBlanks (blanks : List Char) :
    (Gap.ofBlanks blanks).addBreak c = .ofBreaks [c] := rfl

@[simp] theorem addBreak_ofBreaks (breaks : List Char) :
    (Gap.ofBreaks breaks).addBreak c = .ofBreaks (c :: breaks) := rfl

@[simp] theorem text_ofBlanks (blanks : List Char) : (Gap.ofBlanks blanks).text = blanks.reverse := rfl

@[simp] theorem text_empty : ({} : Gap).text = [] := rfl

theorem text_ofBreaks {breaks : List Char} (h : '\n' ∉ breaks) :
    (Gap.ofBreaks breaks).text = breaks.reverse := by
  have hfold : ∀ l : List Char, '\n' ∉ l → Gap.fold l = l := by
    intro l hl
    unfold Gap.fold
    split
    · exact absurd (by simp) hl
    · exact absurd (by simp) hl
    · rfl
  exact hfold breaks.reverse (by simpa using h)

/-! ## Single quotes -/

variable {at_ : Cursor} {gap : Gap} {text rest : List Char}

theorem scanSingle_break (h : isKeptBreak c = true) :
    scanSingle at_ gap text (c :: rest) = scanSingle (at_.newLine 1 []) (gap.addBreak c) text rest := by
  rw [scanSingle, isBlank_of_isKeptBreak h, isBreak_of_isKeptBreak h, normalBreak_of_isKeptBreak h]
  · rfl
  · exact fun _ hreturn => absurd hreturn (ne_return_of_isKeptBreak h)

theorem scanSingle_simple (h : isSimple c = true) (hspace : c ≠ ' ') (hquote : c ≠ '\'')
    (hcolumn : 0 < at_.column) :
    scanSingle at_ gap text (c :: rest) =
      scanSingle (at_.skip 1) {} (c :: (gap.text.reverse ++ text)) rest := by
  rw [scanSingle, isBlank_of_isSimple h hspace, isBreak_of_isSimple h, atDocumentMarker_of_column hcolumn]
  · simp [hquote]
  · exact fun _ hreturn => absurd hreturn (ne_return_of_isSimple h)

theorem scanSingle_doubled (hcolumn : 0 < at_.column) :
    scanSingle at_ gap text ('\'' :: '\'' :: rest) =
      scanSingle (at_.skip 2) {} ('\'' :: (gap.text.reverse ++ text)) rest := by
  rw [scanSingle, atDocumentMarker_of_column hcolumn]
  · simp [isBlank, isBreak]
  · simp

theorem scanSingle_end (hcolumn : 0 < at_.column) (hrest : rest.head? ≠ some '\'') :
    scanSingle at_ gap text ('\'' :: rest) =
      some (text.reverse ++ gap.text, { at_.skip 1 with rest }) := by
  rw [scanSingle, atDocumentMarker_of_column hcolumn]
  · cases rest with
    | nil => simp [isBlank, isBreak]
    | cons d more =>
      have hd : d ≠ '\'' := by
        rintro rfl
        exact hrest rfl
      simp [isBlank, isBreak, hd]
  · simp

theorem scanSingle_word (gap : Gap) (text rest : List Char) (h : isSimple c = true) (hspace : c ≠ ' ')
    (hcolumn : 0 < at_.column) :
    ∃ next : Cursor, 0 < next.column ∧
      scanSingle at_ gap text ((if c = '\'' then ['\'', '\''] else [c]) ++ rest) =
        scanSingle next {} (c :: (gap.text.reverse ++ text)) rest := by
  by_cases hquote : c = '\''
  · subst hquote
    exact ⟨at_.skip 2, by simp, scanSingle_doubled hcolumn⟩
  · rw [if_neg hquote]
    exact ⟨at_.skip 1, by simp, scanSingle_simple h hspace hquote hcolumn⟩

theorem scanSingle_indent {breaks : List Char} :
    scanSingle at_ (.ofBreaks breaks) text (' ' :: ' ' :: rest) =
      scanSingle (at_.skip 2) (.ofBreaks breaks) text rest := by
  rw [scanSingle_space, scanSingle_space]
  simp

theorem singleQuotedLines_break {fresh : Bool} {cs : List Char} (h : isBreak c = true) :
    singleQuotedLines fresh (c :: cs) = c :: singleQuotedLines true cs := by
  rw [singleQuotedLines, if_pos h]

theorem singleQuotedLines_inside {cs : List Char} (h : isBreak c = false) :
    singleQuotedLines false (c :: cs) =
      (if c = '\'' then ['\'', '\''] else [c]) ++ singleQuotedLines false cs := by
  simp [singleQuotedLines, h]

theorem singleQuotedLines_fresh {cs : List Char} (h : isBreak c = false) :
    singleQuotedLines true (c :: cs) =
      ' ' :: ' ' :: ((if c = '\'' then ['\'', '\''] else [c]) ++ singleQuotedLines false cs) := by
  simp [singleQuotedLines, h]

theorem spaceMeetsBreak_tail {cs : List Char} (h : spaceMeetsBreak (c :: cs) = false) :
    spaceMeetsBreak cs = false := by
  cases cs with
  | nil => rfl
  | cons d rest =>
    simp only [spaceMeetsBreak, Bool.or_eq_false_iff] at h
    exact h.2

theorem head_after_space {cs : List Char} (h : spaceMeetsBreak (' ' :: cs) = false) :
    ∀ d ∈ cs.head?, isBreak d = false := by
  intro d hd
  cases cs with
  | nil => cases hd
  | cons e rest =>
    cases hd
    simp only [spaceMeetsBreak, Bool.or_eq_false_iff] at h
    simpa using h.1.1

theorem head_after_break {cs : List Char} (hbreak : isBreak c = true) (h : spaceMeetsBreak (c :: cs) = false) :
    cs.head? ≠ some ' ' := by
  intro hspace
  cases cs with
  | nil => cases hspace
  | cons e rest =>
    cases hspace
    simp [spaceMeetsBreak, hbreak] at h

/-- A scan has found a text, and the rest is left over. -/
def Finds (found : Option (List Char × Cursor)) (text rest : List Char) : Prop :=
  ∃ after : Cursor, found = some (text, after) ∧ after.rest = rest

/-- The lines of a text in single quotes, from inside a line, with the blanks before this place, and from the
start of a line, with the breaks before it. -/
theorem scanSingle_lines (hrest : rest.head? ≠ some '\'') (cs : List Char)
    (hcs : ∀ c ∈ cs, isUnescaped c = true ∧ c ≠ '\n') (hmeet : spaceMeetsBreak cs = false) :
    (∀ (at_ : Cursor) (blanks text : List Char), 0 < at_.column →
        (blanks ≠ [] → ∀ c ∈ cs.head?, isBreak c = false) →
        Finds (scanSingle at_ (.ofBlanks blanks) text (singleQuotedLines false cs ++ rest))
          (text.reverse ++ blanks.reverse ++ cs) rest) ∧
      ∀ (at_ : Cursor) (breaks text : List Char), '\n' ∉ breaks → cs.head? ≠ some ' ' →
        Finds (scanSingle at_ (.ofBreaks breaks) text (singleQuotedLines true cs ++ rest))
          (text.reverse ++ breaks.reverse ++ cs) rest := by
  induction cs with
  | nil =>
    constructor
    · intro at_ blanks text hcolumn hblanks
      refine ⟨{ at_.skip 1 with rest }, (scanSingle_end hcolumn hrest).trans ?_, rfl⟩
      simp
    · intro at_ breaks text hbreaks hhead
      refine ⟨{ (at_.skip 2).skip 1 with rest }, ?_, rfl⟩
      show scanSingle at_ (.ofBreaks breaks) text (' ' :: ' ' :: '\'' :: rest) = _
      rw [scanSingle_indent, scanSingle_end (by simp) hrest, text_ofBreaks hbreaks]
      simp
  | cons c cs ih =>
    obtain ⟨ihInside, ihFresh⟩ := ih (fun d hd => hcs d (List.mem_cons_of_mem c hd)) (spaceMeetsBreak_tail hmeet)
    obtain ⟨hunescaped, hfeed⟩ := hcs c List.mem_cons_self
    rcases isSimple_or_isKeptBreak hunescaped with hsimple | hkept
    · have hbreak : isBreak c = false := isBreak_of_isSimple hsimple
      constructor
      · intro at_ blanks text hcolumn hblanks
        rw [singleQuotedLines_inside hbreak]
        by_cases hspace : c = ' '
        · subst hspace
          show Finds (scanSingle at_ (.ofBlanks blanks) text (' ' :: (singleQuotedLines false cs ++ rest))) _ _
          rw [scanSingle_space, addBlank_ofBlanks]
          have := ihInside (at_.skip 1) (' ' :: blanks) text (by simp) fun _ => head_after_space hmeet
          simpa using this
        · obtain ⟨next, hnext, hscan⟩ := scanSingle_word (.ofBlanks blanks) text
            (singleQuotedLines false cs ++ rest) hsimple hspace hcolumn
          rw [List.append_assoc, hscan]
          have := ihInside next [] (c :: ((Gap.ofBlanks blanks).text.reverse ++ text)) hnext (absurd rfl)
          simpa using this
      · intro at_ breaks text hbreaks hhead
        have hspace : c ≠ ' ' := fun hc => hhead (congrArg some hc)
        have hcolumn : 0 < (at_.skip 2).column := by simp
        obtain ⟨next, hnext, hscan⟩ := scanSingle_word (.ofBreaks breaks) text
          (singleQuotedLines false cs ++ rest) hsimple hspace hcolumn
        rw [singleQuotedLines_fresh hbreak, List.cons_append, List.cons_append, scanSingle_indent,
          List.append_assoc, hscan, text_ofBreaks hbreaks]
        have := ihInside next [] (c :: (breaks.reverse.reverse ++ text)) hnext (absurd rfl)
        simpa using this
    · have hbreak : isBreak c = true := isBreak_of_isKeptBreak hkept
      have hhead : cs.head? ≠ some ' ' := head_after_break hbreak hmeet
      constructor
      · intro at_ blanks text hcolumn hblanks
        have hblanks : blanks = [] := by
          refine Classical.byContradiction fun hne => ?_
          exact absurd hbreak (by rw [hblanks hne c rfl]; decide)
        subst hblanks
        rw [singleQuotedLines_break hbreak, List.cons_append, scanSingle_break hkept, addBreak_ofBlanks]
        have := ihFresh (at_.newLine 1 []) [c] text (by simpa using Ne.symm hfeed) hhead
        simpa using this
      · intro at_ breaks text hbreaks _
        rw [singleQuotedLines_break hbreak, List.cons_append, scanSingle_break hkept, addBreak_ofBreaks]
        have := ihFresh (at_.newLine 1 []) (c :: breaks) text (by simp [Ne.symm hfeed, hbreaks]) hhead
        simpa using this

theorem scanSingle_written {cs : List Char} (hcs : isSingleText cs = true) (hfeed : '\n' ∉ cs)
    (hcolumn : 0 < at_.column) (hrest : rest.head? ≠ some '\'') :
    Finds (scanSingle at_ {} [] (singleQuotedLines false cs ++ rest)) cs rest := by
  obtain ⟨hunescaped, hmeet⟩ : (∀ c ∈ cs, isUnescaped c = true) ∧ spaceMeetsBreak cs = false := by
    simpa [isSingleText] using hcs
  have hchars : ∀ c ∈ cs, isUnescaped c = true ∧ c ≠ '\n' := fun c hc =>
    ⟨hunescaped c hc, fun hc' => hfeed (hc' ▸ hc)⟩
  exact (scanSingle_lines hrest cs hchars hmeet).1 at_ [] [] hcolumn (absurd rfl)

/-! ## Escapes -/

theorem hexValue?_hexChar : ∀ d < 16, hexValue? (hexChar d) = some d := by decide

theorem hexChar_ne : ∀ d < 16, hexChar d ≠ '\\' ∧ hexChar d ≠ '\r' := by decide

theorem length_hexChars (width n : Nat) : (hexChars width n).length = width := by
  induction width generalizing n with
  | zero => rfl
  | succ width ih => rw [hexChars, List.length_append, ih, List.length_singleton]

theorem ne_of_mem_hexChars (width n : Nat) : ∀ d ∈ hexChars width n, d ≠ '\\' ∧ d ≠ '\r' := by
  induction width generalizing n with
  | zero => simp [hexChars]
  | succ width ih =>
    intro d hd
    rcases List.mem_append.mp hd with hd | hd
    · exact ih (n / 16) d hd
    · rw [List.mem_singleton.mp hd]
      exact hexChar_ne _ (Nat.mod_lt _ (by decide))

theorem hexNumber?_hexChars {width n : Nat} (h : n < Nat.pow 16 width) :
    hexNumber? (hexChars width n) = some n := by
  induction width generalizing n with
  | zero =>
    have hn : n = 0 := Nat.lt_one_iff.mp h
    rw [hn]
    rfl
  | succ width ih =>
    have hdiv : n / 16 < Nat.pow 16 width := Nat.div_lt_of_lt_mul (by rwa [Nat.mul_comm])
    have hmod : n % 16 < 16 := Nat.mod_lt _ (by decide)
    have hprefix := ih hdiv
    unfold hexNumber? at hprefix ⊢
    rw [hexChars, List.foldl_append, hprefix]
    simp [hexValue?_hexChar _ hmod, Nat.div_add_mod']

theorem charOfCode?_toNat (c : Char) : charOfCode? c.toNat = some c := by
  have hvalid : c.toNat < 0xD800 ∨ (0xDFFF < c.toNat ∧ c.toNat ≤ 0x10FFFF) := by
    rcases c.valid with h | ⟨h, h'⟩
    · exact .inl h
    · exact .inr ⟨h, Nat.le_of_lt_succ h'⟩
  rw [charOfCode?, if_pos hvalid, Char.ofNat_toNat]

theorem codeEscape?_hexChars {width : Nat} (h : c.toNat < Nat.pow 16 width) :
    codeEscape? width (hexChars width c.toNat ++ rest) = some c := by
  have htake : (hexChars width c.toNat ++ rest).take width = hexChars width c.toNat :=
    List.take_left' (length_hexChars width c.toNat)
  simp [codeEscape?, htake, length_hexChars, hexNumber?_hexChars h, charOfCode?_toNat]

theorem letterEscape?_of_escapeLetter? {e : Char} (h : escapeLetter? c = some e) :
    letterEscape? e = some c ∧ isSimple e = true := by
  have hcase : ∀ {d letter : Char} {other : Option Char}, (if c = d then some letter else other) = some e →
      (c = d ∧ letter = e) ∨ other = some e := by
    intro d letter other hif
    by_cases hd : c = d
    · exact .inl ⟨hd, by simpa [hd] using hif⟩
    · exact .inr (by simpa [hd] using hif)
  unfold escapeLetter? at h
  repeat
    rcases hcase h with ⟨rfl, rfl⟩ | h
    · decide
  cases h

/-! ## Double quotes -/

theorem scanDouble_letter {e : Char} (hletter : letterEscape? e = some c) (hbreak : isBreak e = false) :
    scanDouble at_ 0 gap text ('\\' :: e :: rest) =
      scanDouble (at_.skip 2) 0 {} (c :: (gap.text.reverse ++ text)) rest := by
  rw [scanDouble]
  · simp [hletter, hbreak]
  · rintro _ rfl
    exact absurd hbreak (by decide)

theorem scanDouble_hidden {digits : List Char} (h : ∀ d ∈ digits, d ≠ '\\' ∧ d ≠ '\r') (at_ : Cursor)
    (gap : Gap) (text rest : List Char) :
    scanDouble at_ digits.length gap text (digits ++ rest) =
      scanDouble (at_.skip digits.length) 0 gap text rest := by
  induction digits generalizing at_ with
  | nil => rfl
  | cons d digits ih =>
    obtain ⟨hescape, hreturn⟩ := h d List.mem_cons_self
    rw [List.cons_append, scanDouble]
    · rw [if_pos (by simp), List.length_cons, Nat.add_sub_cancel,
        ih (fun other hother => h other (List.mem_cons_of_mem d hother)), skip_skip, Nat.add_comm]
    · exact fun _ hd => absurd hd hescape
    · exact fun _ _ hd => absurd hd hescape
    · exact fun _ hd => absurd hd hreturn

theorem scanDouble_code {e : Char} (hletter : letterEscape? e = none) (hbreak : isBreak e = false)
    (hwidth : codeLength e ≠ 0) (h : c.toNat < Nat.pow 16 (codeLength e)) :
    scanDouble at_ 0 gap text ('\\' :: e :: (hexChars (codeLength e) c.toNat ++ rest)) =
      scanDouble (at_.skip (2 + codeLength e)) 0 {} (c :: (gap.text.reverse ++ text)) rest := by
  rw [scanDouble]
  · simp only [ne_eq, not_true_eq_false, if_false, hbreak, Bool.false_eq_true, hletter, hwidth,
      codeEscape?_hexChars h]
    have hhidden := scanDouble_hidden (ne_of_mem_hexChars (codeLength e) c.toNat) (at_.skip 2) {}
      (c :: (gap.text.reverse ++ text)) rest
    rwa [length_hexChars, skip_skip] at hhidden
  · rintro _ rfl
    exact absurd hbreak (by decide)

theorem scanDouble_simple (h : isSimple c = true) (hspace : c ≠ ' ') (hquote : c ≠ '"') (hescape : c ≠ '\\')
    (hcolumn : 0 < at_.column) :
    scanDouble at_ 0 gap text (c :: rest) =
      scanDouble (at_.skip 1) 0 {} (c :: (gap.text.reverse ++ text)) rest := by
  rw [scanDouble, isBlank_of_isSimple h hspace, isBreak_of_isSimple h, atDocumentMarker_of_column hcolumn]
  · simp [hquote, hescape]
  · exact fun _ hc => absurd hc hescape
  · exact fun _ _ hc => absurd hc hescape
  · exact fun _ hc => absurd hc (ne_return_of_isSimple h)

theorem scanDouble_end (hcolumn : 0 < at_.column) :
    scanDouble at_ 0 gap text ('"' :: rest) = some (text.reverse ++ gap.text, { at_.skip 1 with rest }) := by
  rw [scanDouble, atDocumentMarker_of_column hcolumn]
  · simp [isBlank, isBreak]
  all_goals simp

theorem scanDouble_word (gap : Gap) (text rest : List Char) (hspace : c ≠ ' ') (hcolumn : 0 < at_.column) :
    ∃ next : Cursor, 0 < next.column ∧
      scanDouble at_ 0 gap text (doubleQuotedChar c ++ rest) =
        scanDouble next 0 {} (c :: (gap.text.reverse ++ text)) rest := by
  unfold doubleQuotedChar
  cases hletter : escapeLetter? c with
  | some e =>
    obtain ⟨he, hsimple⟩ := letterEscape?_of_escapeLetter? hletter
    exact ⟨at_.skip 2, by simp, scanDouble_letter he (isBreak_of_isSimple hsimple)⟩
  | none =>
    by_cases hsimple : isSimple c = true
    · have hquote : c ≠ '"' := by
        rintro rfl
        exact absurd hletter (by decide)
      have hescape : c ≠ '\\' := by
        rintro rfl
        exact absurd hletter (by decide)
      rw [if_pos hsimple]
      exact ⟨at_.skip 1, by simp, scanDouble_simple hsimple hspace hquote hescape hcolumn⟩
    · -- the number of digits is that of the smallest width that is wide enough
      rw [if_neg hsimple]
      by_cases hx : c.toNat ≤ 0xFF
      · rw [if_pos hx]
        exact ⟨at_.skip 4, by simp,
          scanDouble_code (e := 'x') (by decide) (by decide) (by decide) (Nat.lt_succ_of_le hx)⟩
      · rw [if_neg hx]
        by_cases hu : c.toNat ≤ 0xFFFF
        · rw [if_pos hu]
          exact ⟨at_.skip 6, by simp,
            scanDouble_code (e := 'u') (by decide) (by decide) (by decide) (Nat.lt_succ_of_le hu)⟩
        · have hU : c.toNat < Nat.pow 16 8 := by
            have := c.val.toNat_lt
            exact Nat.lt_of_lt_of_eq this (by decide)
          rw [if_neg hu]
          exact ⟨at_.skip 10, by simp,
            scanDouble_code (e := 'U') (by decide) (by decide) (by decide) hU⟩

theorem scanDouble_line (cs : List Char) (at_ : Cursor) (blanks text : List Char) (hcolumn : 0 < at_.column) :
    Finds (scanDouble at_ 0 (.ofBlanks blanks) text (cs.flatMap doubleQuotedChar ++ '"' :: rest))
      (text.reverse ++ blanks.reverse ++ cs) rest := by
  induction cs generalizing at_ blanks text with
  | nil =>
    refine ⟨{ at_.skip 1 with rest }, (scanDouble_end hcolumn).trans ?_, rfl⟩
    simp
  | cons c cs ih =>
    rw [List.flatMap_cons, List.append_assoc]
    by_cases hspace : c = ' '
    · subst hspace
      show Finds (scanDouble at_ 0 (.ofBlanks blanks) text
        (' ' :: (cs.flatMap doubleQuotedChar ++ '"' :: rest))) _ _
      rw [scanDouble_space, addBlank_ofBlanks]
      have := ih (at_.skip 1) (' ' :: blanks) text (by simp)
      simpa using this
    · obtain ⟨next, hnext, hscan⟩ := scanDouble_word (.ofBlanks blanks) text
        (cs.flatMap doubleQuotedChar ++ '"' :: rest) hspace hcolumn
      rw [hscan]
      have := ih next [] (c :: ((Gap.ofBlanks blanks).text.reverse ++ text)) hnext
      simpa using this

theorem scanDouble_written (cs : List Char) (hcolumn : 0 < at_.column) :
    Finds (scanDouble at_ 0 {} [] (cs.flatMap doubleQuotedChar ++ '"' :: rest)) cs rest :=
  scanDouble_line cs at_ [] [] hcolumn

end Credentials.Yaml
