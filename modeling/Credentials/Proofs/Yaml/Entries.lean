import Credentials.Proofs.Yaml.Literal
import Credentials.Yaml.Document

/-!
# Entries are read back

The text of a block mapping is one entry after the other, each with its key at the margin. Three turns of the
scanner take it over an entry, from the start of one line to the start of the next one (`run_entry`): over the
key, which becomes a candidate, over the colon, which makes it a key, and over the value in whatever style it is
written. The tokens are then read as the keys and values they came from (`Document.ofText?_entries`).
-/

namespace Credentials.Yaml

variable {cs more rest : List Char} {c : Char} {style : Style}

/-! ## Entries -/

def Suits (cs : List Char) : Style → Prop
  | .plain => isPlainText cs = true
  | .singleQuoted => isSingleText cs = true ∧ '\n' ∉ cs
  | .doubleQuoted => True
  | .literal => (∀ c ∈ cs, isUnescaped c = true) ∧ cs ≠ []
  | .folded => False

theorem suits_styleOf (s : String) : Suits s.toList (styleOf s) := by
  unfold styleOf
  by_cases hfeed : s.toList.contains '\n' = true
  · simp only [hfeed, if_true]
    by_cases hliteral : isLiteralText s.toList = true
    · obtain ⟨hcs, -⟩ := Bool.and_eq_true_iff.mp hliteral
      rw [if_pos hliteral]
      refine ⟨List.all_eq_true.mp hcs, ?_⟩
      intro hempty
      rw [hempty] at hfeed
      cases hfeed
    · rw [if_neg hliteral]
      trivial
  · simp only [hfeed, Bool.false_eq_true, if_false]
    have hnofeed : '\n' ∉ s.toList := by simpa using hfeed
    by_cases hsingle : isSingleText s.toList = true
    · rw [hsingle, Bool.not_true, if_neg Bool.false_ne_true]
      by_cases hplain : (isTyped s || !isPlainText s.toList) = true
      · rw [if_pos hplain]
        exact ⟨hsingle, hnofeed⟩
      · rw [if_neg hplain]
        simp only [Bool.or_eq_true, Bool.not_eq_true', not_or, Bool.not_eq_false] at hplain
        exact hplain.2
    · rw [Bool.not_eq_true] at hsingle
      rw [hsingle, Bool.not_false, if_pos rfl]
      trivial

theorem isTyped_of_styleOf {s : String} (h : styleOf s = .plain) : isTyped s = false := by
  rw [← Bool.not_eq_true]
  intro htyped
  unfold styleOf at h
  simp only [htyped, Bool.true_or, if_true] at h
  repeat' split at h
  all_goals cases h

/-- An entry of a block mapping, with the style of its value. -/
structure Entry where
  key : String
  text : String
  style : Style

namespace Entry

def chars (e : Entry) : List Char :=
  e.key.toList ++ ':' :: ' ' :: written e.text.toList e.style

def tokens (e : Entry) : List Token :=
  [.key, .scalar e.key .plain, .value, .scalar e.text e.style]

/-- An entry that is read back: its key is simple and within reach of its colon, and its style suits its
text. -/
structure Fits (e : Entry) : Prop where
  key : ∀ c ∈ e.key.toList, isKeyChar c = true
  nonempty : e.key.toList ≠ []
  reach : e.key.toList.length ≤ keyReach
  text : Suits e.text.toList e.style

theorem Fits.startsEntry {e : Entry} (h : e.Fits) (more : List Char) : StartsEntry (e.chars ++ more) := by
  intro c hc
  obtain ⟨first, others, hkey⟩ := List.exists_cons_of_ne_nil h.nonempty
  simp only [chars, hkey, List.cons_append, List.head?_cons, Option.mem_some_iff] at hc
  subst hc
  exact h.key first (by rw [hkey]; simp)

end Entry

theorem startsEntry_flatMap {es : List Entry} (h : ∀ e ∈ es, e.Fits) : StartsEntry (es.flatMap Entry.chars) := by
  cases es with
  | nil => exact startsEntry_nil
  | cons e es =>
    rw [List.flatMap_cons]
    exact (h e List.mem_cons_self).startsEntry _

/-! ## Turns of the scanner -/

namespace Scanner

variable {s t : Scanner} {at_ next : Cursor} {indents : List Nat} {tokens : List Token}

theorem run_token {n : Nat} (happroach : s.approach = some t) (hrest : t.at_.rest = c :: rest) :
    run (n + 1) s = (t.token c rest).bind (run n) := by
  rw [run, happroach]
  simp only [hrest]

theorem run_end {n : Nat} (happroach : s.approach = some t) (hrest : t.at_.rest = []) :
    run (n + 1) s = t.endBlocks.map (·.tokens.reverse) := by
  rw [run, happroach]
  simp only [hrest]

theorem approach_eq {keyAllowed : Bool}
    (hskip : skipSpace s.inFlow s.keyAllowed false s.at_ s.at_.rest = (keyAllowed, next))
    (hflow : s.enclosing = []) (hreach : ∀ c ∈ s.candidate, outOfReach c next = false)
    (hindents : ∀ n ∈ s.indents, n ≤ next.column) :
    s.approach = some { s with keyAllowed, at_ := next } := by
  have hcandidate : dropCandidate next s.candidate = some s.candidate := by
    cases hc : s.candidate with
    | none => rfl
    | some c => simp [dropCandidate, hreach c hc]
  have hclosed : s.indents.takeWhile (next.column < ·) = [] ∧
      s.indents.dropWhile (next.column < ·) = s.indents := by
    cases hs : s.indents with
    | nil => exact ⟨rfl, rfl⟩
    | cons n rest =>
      have hn : ¬ next.column < n := Nat.not_lt.mpr (hindents n (by rw [hs]; simp))
      simp [hn]
  unfold approach
  rw [hskip]
  simp [dropCandidates, hcandidate, hflow, closeBlocks, inFlow, hclosed.1, hclosed.2]

/-! ### Where a line starts -/

theorem skipSpace_stop {inFlow keyAllowed : Bool} (hgap : isGap c = false) (hhash : c ≠ '#')
    (hmark : c ≠ '\uFEFF') :
    skipSpace inFlow keyAllowed false at_ (c :: rest) = (keyAllowed, { at_ with rest := c :: rest }) := by
  obtain ⟨hblank, hbreak⟩ := Bool.or_eq_false_iff.mp hgap
  have hspace : c ≠ ' ' := by
    rintro rfl
    cases hblank
  have htab : c ≠ '\t' := by
    rintro rfl
    cases hblank
  rw [skipSpace, hbreak]
  · simp [hspace, hhash, htab, hmark]
  · rintro _ rfl
    cases hbreak

theorem isGap_of_isSimple (h : isSimple c = true) (hspace : c ≠ ' ') : isGap c = false := by
  rw [isGap, isBlank_of_isSimple h hspace, isBreak_of_isSimple h, Bool.false_or]

theorem ne_mark_of_isSimple (h : isSimple c = true) : c ≠ '\uFEFF' := by
  rintro rfl
  exact absurd h (by decide)

theorem skipSpace_margin {inFlow keyAllowed : Bool} (hmore : StartsEntry more) :
    skipSpace inFlow keyAllowed false at_ more = (keyAllowed, { at_ with rest := more }) := by
  cases more with
  | nil => rfl
  | cons c rest =>
    have hc : isKeyChar c = true := hmore c rfl
    have hsimple : isSimple c = true := isSimple_of_isKeyChar hc
    exact skipSpace_stop (isGap_of_isSimple hsimple (ne_of_isKeyChar hc (by decide)))
      (ne_of_isKeyChar hc (by decide)) (ne_mark_of_isSimple hsimple)

/-- The scanner comes to the start of a line, outside of flow collections, with nothing that could be a key
behind it. -/
def AtLine (s : Scanner) (indents : List Nat) (tokens : List Token) (rest : List Char) : Prop :=
  ∃ at_ : Cursor, s.approach = some { at_, indents, tokens } ∧ at_.rest = rest ∧ at_.column = 0

theorem atLine_margin (hmore : StartsEntry more) (hrest : at_.rest = more) (hcolumn : at_.column = 0)
    (hindents : ∀ n ∈ indents, n = 0) : AtLine { at_, indents, tokens } indents tokens more := by
  refine ⟨{ at_ with rest := more }, ?_, rfl, hcolumn⟩
  refine approach_eq ?_ rfl (by simp) (fun n hn => by simp [hindents n hn])
  show skipSpace false true false at_ at_.rest = _
  rw [hrest]
  exact skipSpace_margin hmore

theorem atLine_break (hmore : StartsEntry more) (hrest : at_.rest = '\n' :: more)
    (hindents : ∀ n ∈ indents, n = 0) :
    AtLine { at_, indents, keyAllowed := false, tokens } indents tokens more := by
  refine ⟨{ at_.newLine 1 [] with rest := more }, ?_, rfl, rfl⟩
  refine approach_eq ?_ rfl (by simp) (fun n hn => by simp [hindents n hn])
  show skipSpace false false false at_ at_.rest = _
  rw [hrest, skipSpace]
  · exact skipSpace_margin hmore
  · simp

/-! ### Keys -/

theorem token_plain (hflow : s.inFlow = false) (hmarker : atDocumentMarker s.at_.column (c :: rest) = false)
    (hhard : isHardIndicator c = false) (hgap : isGap c = false)
    (hsoft : c = '-' ∨ c = '?' ∨ c = ':' → atGap rest = false) : s.token c rest = s.plain := by
  rw [atDocumentMarker, Bool.and_or_distrib_left, Bool.or_eq_false_iff] at hmarker
  obtain ⟨hstart, hend⟩ := hmarker
  by_cases hmild : c = '-' ∨ c = '?' ∨ c = ':'
  · have hrest : atGap rest = false := hsoft hmild
    rcases hmild with rfl | rfl | rfl <;> simp [token, hstart, hend, hrest, hflow, startsPlain]
  · have hindicator : isIndicator c = false := by
      have hmild : (c == '-' || c == '?' || c == ':') = false := by
        simpa [and_assoc] using hmild
      rwa [isHardIndicator, hmild, Bool.not_false, Bool.and_true] at hhard
    have hplain : startsPlain s.inFlow c rest = true := by
      simp [startsPlain, hgap, hindicator]
    simp only [isIndicator, Bool.or_eq_false_iff] at hindicator
    simp [token, hstart, hend, hplain, hindicator]

theorem plain_eq {found : PlainScan} (hremember : s.remember = some t)
    (hscan : scanPlain ⟨s.inFlow, s.inner⟩ s.at_ {} [] s.at_.rest = some found) :
    s.plain = some { t.emitAt (.scalar (String.ofList found.text) .plain) found.after with
      keyAllowed := found.broken } := by
  rw [plain, hremember, hscan]

/-- The scanner before the colon of an entry, with the key behind it as a candidate. -/
def beforeColon (at_ : Cursor) (key rest : List Char) (indents : List Nat) (tokens : List Token) : Scanner where
  at_ := { at_.skip key.length with rest := ':' :: ' ' :: rest }
  indents
  keyAllowed := false
  candidate := some ⟨tokens.length, indents.head? == some at_.column, at_.index, at_.line, at_.column⟩
  tokens := .scalar (String.ofList key) .plain :: tokens

/-- The scanner after the colon of an entry. -/
def afterColon (at_ : Cursor) (tokens : List Token) : Scanner :=
  { at_, indents := [0], keyAllowed := false, tokens }

/-- The tokens before an entry. The first one is at the place where the mapping is indented. -/
def opened (indents : List Nat) (tokens : List Token) : List Token :=
  if indents = [] then .mappingIndent :: tokens else tokens

theorem plain_key {key : List Char} (hkey : ∀ c ∈ key, isKeyChar c = true)
    (hrest : at_.rest = key ++ ':' :: ' ' :: rest) :
    plain { at_, indents, tokens } = some (beforeColon at_ key rest indents tokens) := by
  have hremember : remember { at_, indents, tokens } =
      some { beforeColon at_ key rest indents tokens with at_, keyAllowed := true, tokens } := by
    simp [remember, forget, inFlow, beforeColon]
  have hscan : scanPlain ⟨false, inner { at_, indents, tokens }⟩ at_ {} [] at_.rest =
      some ⟨key, (beforeColon at_ key rest indents tokens).at_, false⟩ := by
    rw [hrest]
    exact scanPlain_key hkey rfl
  exact plain_eq (s := { at_, indents, tokens }) hremember hscan

theorem run_name {key : List Char} (hkey : ∀ c ∈ key, isKeyChar c = true) (hsome : key ≠ [])
    (happroach : s.approach = some { at_, indents, tokens }) (hrest : at_.rest = key ++ ':' :: ' ' :: rest)
    (n : Nat) : run (n + 1) s = run n (beforeColon at_ key rest indents tokens) := by
  obtain ⟨c, others, rfl⟩ := List.exists_cons_of_ne_nil hsome
  have hc : isKeyChar c = true := hkey c List.mem_cons_self
  have hgap : isGap c = false := isGap_of_isSimple (isSimple_of_isKeyChar hc) (ne_of_isKeyChar hc (by decide))
  have hhard : isHardIndicator c = false := by
    rw [isHardIndicator, isIndicator_of_isKeyChar hc, Bool.false_and]
  have hsoft : c = '-' ∨ c = '?' ∨ c = ':' → atGap (others ++ ':' :: ' ' :: rest) = false := by
    rintro (rfl | rfl | rfl) <;> exact absurd hc (by decide)
  have hstart : at_.rest = c :: (others ++ ':' :: ' ' :: rest) := hrest
  rw [run_token happroach hstart, token_plain rfl (atDocumentMarker_of_isKeyChar hc _ _) hhard hgap hsoft,
    plain_key hkey hrest, Option.bind_some]

theorem approach_beforeColon {key : List Char} (hreach : key.length ≤ keyReach)
    (hindents : indents = [] ∨ indents = [0]) :
    (beforeColon at_ key rest indents tokens).approach = some (beforeColon at_ key rest indents tokens) := by
  have hskip : skipSpace false false false (beforeColon at_ key rest indents tokens).at_ (':' :: ' ' :: rest) =
      (false, (beforeColon at_ key rest indents tokens).at_) :=
    skipSpace_stop (by decide) (by decide) (by decide)
  refine approach_eq hskip rfl ?_ ?_
  · intro c hc
    cases hc
    simp [outOfReach, Cursor.skip]
    omega
  · rcases hindents with rfl | rfl <;> simp [beforeColon]

theorem value_beforeColon {key : List Char} (hcolumn : at_.column = 0) (hindents : indents = [] ∨ indents = [0]) :
    (beforeColon at_ key rest indents tokens).value =
      some (afterColon ((beforeColon at_ key rest indents tokens).at_.skip 1)
        (.value :: .scalar (String.ofList key) .plain :: .key :: opened indents tokens)) := by
  have hone : ∀ n : Nat, n + 1 - n = 1 := fun n => by omega
  have htwo : ∀ n : Nat, n + 1 + 1 - n = 2 := fun n => by omega
  rcases hindents with rfl | rfl
  · simp [value, beforeColon, insert, openBlock, inFlow, inner, emitAt, opened, afterColon, hcolumn, hone, htwo]
  · simp [value, beforeColon, insert, openBlock, inFlow, inner, emitAt, opened, afterColon, hcolumn, hone]

theorem token_colon (s : Scanner) (rest : List Char) : s.token ':' (' ' :: rest) = s.value := by
  have hmarker : ∀ mark, mark ≠ ':' → threefold mark (':' :: ' ' :: rest) = false :=
    fun mark hmark => threefold_of_ne hmark.symm _
  simp [token, hmarker, atGap, isGap, isBlank]

theorem run_key {key : List Char} (hkey : ∀ c ∈ key, isKeyChar c = true) (hsome : key ≠ [])
    (hreach : key.length ≤ keyReach) (hindents : indents = [] ∨ indents = [0])
    (h : s.AtLine indents tokens (key ++ ':' :: ' ' :: rest)) :
    ∃ at_ : Cursor, at_.rest = ' ' :: rest ∧ ∀ n, run (n + 2) s =
      run n (afterColon at_ (.value :: .scalar (String.ofList key) .plain :: .key :: opened indents tokens)) := by
  obtain ⟨at_, happroach, hrest, hcolumn⟩ := h
  refine ⟨(beforeColon at_ key rest indents tokens).at_.skip 1, rfl, ?_⟩
  intro n
  rw [run_name hkey hsome happroach hrest (n + 1), run_token (approach_beforeColon hreach hindents) rfl,
    token_colon, value_beforeColon hcolumn hindents, Option.bind_some]

/-! ### Values -/

/-- The value of an entry is found in one turn, which ends at the start of the next line. -/
def FindsValue (at_ : Cursor) (tokens : List Token) (t : Token) (more : List Char) : Prop :=
  ∃ s : Scanner, s.AtLine [0] (t :: tokens) more ∧ ∀ n, run (n + 1) (afterColon at_ tokens) = run n s

theorem rest_skip_space (hrest : at_.rest = ' ' :: rest) : (at_.skip 1).rest = rest := by
  rw [Cursor.skip, hrest]
  rfl

theorem approach_afterColon (hrest : at_.rest = ' ' :: c :: rest) (hgap : isGap c = false) (hhash : c ≠ '#')
    (hmark : c ≠ '\uFEFF') : (afterColon at_ tokens).approach = some (afterColon (at_.skip 1) tokens) := by
  have hskip : skipSpace false false false at_ at_.rest = (false, at_.skip 1) := by
    rw [hrest, skipSpace]
    · exact (skipSpace_stop hgap hhash hmark).trans (by rw [← rest_skip_space hrest])
    · simp
  exact approach_eq hskip rfl (by simp [afterColon]) (by simp [afterColon])

theorem findsValue_of_token {t : Token} (hrest : at_.rest = ' ' :: c :: rest) (hgap : isGap c = false)
    (hhash : c ≠ '#') (hmark : c ≠ '\uFEFF') (htoken : (afterColon (at_.skip 1) tokens).token c rest = some s)
    (hs : s.AtLine [0] (t :: tokens) more) : FindsValue at_ tokens t more := by
  refine ⟨s, hs, ?_⟩
  intro n
  rw [run_token (approach_afterColon hrest hgap hhash hmark) (rest_skip_space hrest), htoken, Option.bind_some]

theorem findsValue_quoted {found : Option (List Char × Cursor)} (hrest : at_.rest = ' ' :: c :: rest)
    (hquote : c = '\'' ∨ c = '"')
    (htoken : (afterColon (at_.skip 1) tokens).token c rest = (afterColon (at_.skip 1) tokens).quoted style found)
    (hfound : Finds found cs ('\n' :: more)) (hmore : StartsEntry more) :
    FindsValue at_ tokens (.scalar (String.ofList cs) style) more := by
  obtain ⟨after, rfl, hafter⟩ := hfound
  have hs : (afterColon after (.scalar (String.ofList cs) style :: tokens)).AtLine [0]
      (.scalar (String.ofList cs) style :: tokens) more := atLine_break hmore hafter (by simp)
  rcases hquote with rfl | rfl
  · exact findsValue_of_token hrest (by decide) (by decide) (by decide) htoken hs
  · exact findsValue_of_token hrest (by decide) (by decide) (by decide) htoken hs

theorem findsValue_single (hcs : isSingleText cs = true) (hfeed : '\n' ∉ cs) (hmore : StartsEntry more)
    (hrest : at_.rest = ' ' :: (written cs .singleQuoted ++ more)) :
    FindsValue at_ tokens (.scalar (String.ofList cs) .singleQuoted) more := by
  have hstart : at_.rest = ' ' :: '\'' :: (singleQuotedLines false cs ++ '\n' :: more) := by
    rw [hrest]
    simp [written]
  have hfound : Finds (scanSingle ((at_.skip 1).skip 1) {} [] (singleQuotedLines false cs ++ '\n' :: more)) cs
      ('\n' :: more) := scanSingle_written hcs hfeed (by simp) (by simp)
  exact findsValue_quoted hstart (.inl rfl) (by simp [token, afterColon]) hfound hmore

theorem findsValue_double (hmore : StartsEntry more)
    (hrest : at_.rest = ' ' :: (written cs .doubleQuoted ++ more)) :
    FindsValue at_ tokens (.scalar (String.ofList cs) .doubleQuoted) more := by
  have hstart : at_.rest = ' ' :: '"' :: (cs.flatMap doubleQuotedChar ++ '"' :: '\n' :: more) := by
    rw [hrest]
    simp [written]
  have hfound : Finds (scanDouble ((at_.skip 1).skip 1) 0 {} [] (cs.flatMap doubleQuotedChar ++ '"' :: '\n' :: more))
      cs ('\n' :: more) := scanDouble_written cs (by simp)
  exact findsValue_quoted hstart (.inr rfl) (by simp [token, afterColon]) hfound hmore

theorem findsValue_literal (hcs : ∀ c ∈ cs, isUnescaped c = true) (hne : cs ≠ []) (hmore : StartsEntry more)
    (hrest : at_.rest = ' ' :: (written cs .literal ++ more)) :
    FindsValue at_ tokens (.scalar (String.ofList cs) .literal) more := by
  have hstart : at_.rest = ' ' :: '|' ::
      (literalIndent cs ++ literalSign cs.reverse ++ '\n' :: (literalLines true cs ++ more)) := by
    rw [hrest]
    simp [written]
  have hbody : (at_.skip 2).rest =
      literalIndent cs ++ literalSign cs.reverse ++ '\n' :: (literalLines true cs ++ more) := by
    rw [Cursor.skip, hstart]
    rfl
  obtain ⟨after, hscan, hafter, hcolumn⟩ := scanBlock_written hcs hne hmore hbody
  have hblock : (afterColon (at_.skip 1) tokens).block false =
      some { at_ := after, indents := [0], tokens := .scalar (String.ofList cs) .literal :: tokens } := by
    simp [block, forget, afterColon, inner, emitAt, hscan]
  refine findsValue_of_token hstart (by decide) (by decide) (by decide) ?_
    (atLine_margin hmore hafter hcolumn (by simp))
  rw [← hblock]
  simp [token, afterColon, inFlow]

theorem findsValue_plain (hcs : isPlainText cs = true) (hmore : StartsEntry more)
    (hrest : at_.rest = ' ' :: (written cs .plain ++ more)) :
    FindsValue at_ tokens (.scalar (String.ofList cs) .plain) more := by
  obtain ⟨c, others, rfl⟩ : ∃ c others, cs = c :: others := by
    cases cs with
    | nil => cases hcs
    | cons c others => exact ⟨c, others, rfl⟩
  obtain ⟨hsimple, hspace, -, hhard, hsoft, -⟩ := isPlainText_cons hcs
  have hc : isSimple c = true := hsimple c List.mem_cons_self
  have hgap : isGap c = false := isGap_of_isSimple hc hspace
  have hhash : c ≠ '#' := by
    rintro rfl
    exact absurd hhard (by decide)
  have hstart : at_.rest = ' ' :: c :: (others ++ '\n' :: more) := by
    rw [hrest]
    simp [written]
  have hends : c = '-' ∨ c = '?' ∨ c = ':' → atGap (others ++ '\n' :: more) = false := by
    rwa [atGap_append_break]
  have hplace : 0 < (at_.skip 1).column := by simp
  obtain ⟨after, hscan, hafter, hcolumn⟩ :=
    scanPlain_written (k := ⟨false, 1⟩) hcs rfl (by decide) hplace hmore
  have hplain : (afterColon (at_.skip 1) tokens).plain =
      some { at_ := after, indents := [0], tokens := .scalar (String.ofList (c :: others)) .plain :: tokens } := by
    have hhere : scanPlain ⟨false, 1⟩ (at_.skip 1) {} [] (at_.skip 1).rest =
        some ⟨c :: others, after, true⟩ := by
      rw [rest_skip_space hstart]
      exact hscan
    exact plain_eq (s := afterColon (at_.skip 1) tokens) rfl hhere
  refine findsValue_of_token hstart hgap hhash (ne_mark_of_isSimple hc) ?_
    (atLine_margin hmore hafter hcolumn (by simp))
  rw [← hplain]
  exact token_plain rfl (atDocumentMarker_of_column hplace _) hhard hgap hends

theorem findsValue_written (hsuits : Suits cs style) (hmore : StartsEntry more)
    (hrest : at_.rest = ' ' :: (written cs style ++ more)) :
    FindsValue at_ tokens (.scalar (String.ofList cs) style) more := by
  cases style with
  | plain => exact findsValue_plain hsuits hmore hrest
  | singleQuoted => exact findsValue_single hsuits.1 hsuits.2 hmore hrest
  | doubleQuoted => exact findsValue_double hmore hrest
  | literal => exact findsValue_literal hsuits.1 hsuits.2 hmore hrest
  | folded => cases hsuits

/-! ### Entries -/

/-- Three turns take the scanner over an entry, from the start of its line to the start of the next one. -/
theorem run_entry {e : Entry} (he : e.Fits) (hindents : indents = [] ∨ indents = [0]) (hmore : StartsEntry more)
    (h : s.AtLine indents tokens (e.chars ++ more)) :
    ∃ t : Scanner, t.AtLine [0] (e.tokens.reverse ++ opened indents tokens) more ∧
      ∀ n, run (n + 3) s = run n t := by
  have hline : s.AtLine indents tokens (e.key.toList ++ ':' :: ' ' :: (written e.text.toList e.style ++ more)) := by
    simpa [Entry.chars] using h
  obtain ⟨at_, hrest, hkey⟩ := run_key he.key he.nonempty he.reach hindents hline
  obtain ⟨t, ht, htext⟩ := findsValue_written he.text hmore hrest
  rw [String.ofList_toList] at hkey
  refine ⟨t, by simpa [Entry.tokens] using ht, ?_⟩
  intro n
  rw [hkey (n + 1), htext n]

theorem run_nil (h : s.AtLine [0] tokens []) (n : Nat) : run (n + 1) s = some (tokens.reverse ++ [.dedent]) := by
  obtain ⟨at_, happroach, hrest, -⟩ := h
  rw [run_end happroach hrest]
  simp [endBlocks, closeBlocks, inFlow, forget]

theorem run_entries {es : List Entry} (hes : ∀ e ∈ es, e.Fits) (h : s.AtLine [0] tokens (es.flatMap Entry.chars))
    {n : Nat} (hn : 3 * es.length < n) :
    run n s = some (tokens.reverse ++ (es.flatMap Entry.tokens ++ [.dedent])) := by
  induction es generalizing s tokens n with
  | nil =>
    obtain ⟨m, rfl⟩ := Nat.exists_eq_add_of_lt hn
    simpa using run_nil h _
  | cons e es ih =>
    obtain ⟨he, hothers⟩ := List.forall_mem_cons.mp hes
    rw [List.flatMap_cons] at h
    obtain ⟨t, ht, hturn⟩ := run_entry he (.inr rfl) (startsEntry_flatMap hothers) h
    rw [List.length_cons] at hn
    obtain ⟨m, rfl⟩ : ∃ m, n = m + 3 := ⟨n - 3, by omega⟩
    rw [hturn, ih hothers ht (by omega)]
    simp [opened]

end Scanner

end Credentials.Yaml
