import Credentials.Proofs.Yaml.Plain

/-!
# Literal text is read back

The lines of a literal block give back what was written and a break at the end if there was none
(`scanLines_written`). Between the lines the scan holds back the breaks after the last line of text, so that the
sign in the header can take away what is too much (`scanBlock_written`).
-/

namespace Credentials.Yaml

variable {c : Char} {at_ : Cursor} {rest : List Char}

/-! ## Lines -/

namespace BlockText

/-- The state at the start of a line. The text read so far does not end with a break, and what comes after it
is nothing but breaks; before the first line of text no break has ended one. -/
structure Settled (b : BlockText) : Prop where
  text : ∀ c ∈ b.text.head?, isBreak c = false
  breaks : ∀ c ∈ b.trailing ++ b.lead.toList, isBreak c = true
  lead : b.lead = none → b.text = []

structure InLine (b : BlockText) : Prop where
  text : ∀ c ∈ b.text.head?, isBreak c = false
  lead : b.lead = none
  trailing : b.trailing = []

theorem settled_start : Settled {} := by
  refine ⟨?_, ?_, fun _ => rfl⟩
  · intro c hc
    cases hc
  · intro c hc
    cases hc

theorem Settled.emptyLine {b : BlockText} (h : b.Settled) (hc : isBreak c = true) : (b.emptyLine c).Settled := by
  refine ⟨h.text, ?_, h.lead⟩
  intro d hd
  rcases List.mem_cons.mp hd with rfl | hd
  · exact hc
  · exact h.breaks d hd

theorem InLine.endLine {b : BlockText} (h : b.InLine) (hc : isBreak c = true) : (b.endLine c).Settled := by
  refine ⟨h.text, ?_, fun hlead => by cases hlead⟩
  simpa [BlockText.endLine] using hc

theorem InLine.add {b : BlockText} (h : b.InLine) (hc : isBreak c = false) : (b.add c).InLine :=
  ⟨by simpa [BlockText.add] using hc, h.lead, h.trailing⟩

theorem inLine_startLine (b : BlockText) (hc : isBreak c = false) : (b.startLine false c).InLine :=
  ⟨by simpa [startLine] using hc, rfl, rfl⟩

theorem finish_emptyLine (b : BlockText) : (b.emptyLine c).finish .keep = b.finish .keep ++ [c] := by
  simp [finish, emptyLine]

theorem InLine.finish_endLine {b : BlockText} (h : b.InLine) :
    (b.endLine c).finish .keep = b.finish .keep ++ [c] := by
  simp [finish, BlockText.endLine, h.lead, h.trailing]

theorem InLine.finish_add {b : BlockText} (h : b.InLine) : (b.add c).finish .keep = b.finish .keep ++ [c] := by
  simp [finish, BlockText.add, h.lead, h.trailing]

theorem finish_startLine (b : BlockText) : (b.startLine false c).finish .keep = b.finish .keep ++ [c] := by
  simp [finish, startLine]

end BlockText

/-- The break that a text of lines gets at its end if it has none. -/
def lastBreak (fresh : Bool) : List Char → List Char
  | [] => if fresh then [] else ['\n']
  | c :: rest => lastBreak (isBreak c) rest

theorem lastBreak_append (fresh : Bool) (cs : List Char) (d : Char) :
    lastBreak fresh (cs ++ [d]) = if isBreak d then [] else ['\n'] := by
  induction cs generalizing fresh with
  | nil => rfl
  | cons c cs ih => exact ih (isBreak c)

/-- The scan of the lines of a block has come to the margin and has found a text. -/
def FindsLines (found : Option (BlockText × Cursor)) (text more : List Char) : Prop :=
  ∃ (b : BlockText) (after : Cursor), found = some (b, after) ∧ after.rest = more ∧ after.column = 0 ∧
    b.Settled ∧ b.finish .keep = text

variable {b : BlockText} {more : List Char}

theorem scanLines_margin (at_ : Cursor) (hmore : StartsEntry more) (hcolumn : at_.column = 0) (hb : b.Settled) :
    FindsLines (scanLines false 2 at_ false b more) (b.finish .keep) more := by
  cases more with
  | nil => exact ⟨b, { at_ with rest := [] }, rfl, rfl, hcolumn, hb, rfl⟩
  | cons c rest =>
    have hc : isKeyChar c = true := hmore c rfl
    have hsimple : isSimple c = true := isSimple_of_isKeyChar hc
    refine ⟨b, { at_ with rest := c :: rest }, ?_, rfl, hcolumn, hb, rfl⟩
    rw [scanLines, isBreak_of_isSimple hsimple]
    · simp [hcolumn, ne_of_isKeyChar (d := ' ') hc (by decide), ne_of_isKeyChar (d := '\t') hc (by decide)]
    · exact fun _ hreturn => absurd hreturn (ne_return_of_isSimple hsimple)

theorem scanLines_break {inLine : Bool} (h : isKeptBreak c = true) :
    scanLines false 2 at_ inLine b (c :: rest) =
      scanLines false 2 (at_.newLine 1 []) false (if inLine then b.endLine c else b.emptyLine c) rest := by
  rw [scanLines, isBreak_of_isKeptBreak h, normalBreak_of_isKeptBreak h]
  · rfl
  · exact fun _ hreturn => absurd hreturn (ne_return_of_isKeptBreak h)

theorem scanLines_inside (h : isSimple c = true) :
    scanLines false 2 at_ true b (c :: rest) = scanLines false 2 (at_.skip 1) true (b.add c) rest := by
  rw [scanLines, isBreak_of_isSimple h]
  · rfl
  · exact fun _ hreturn => absurd hreturn (ne_return_of_isSimple h)

theorem scanLines_indented (h : isSimple c = true) (hcolumn : at_.column = 2) :
    scanLines false 2 at_ false b (c :: rest) =
      scanLines false 2 (at_.skip 1) true (b.startLine false c) rest := by
  rw [scanLines, isBreak_of_isSimple h]
  · simp [hcolumn]
  · exact fun _ hreturn => absurd hreturn (ne_return_of_isSimple h)

theorem scanLines_fresh (h : isSimple c = true) (hcolumn : at_.column = 0) :
    scanLines false 2 at_ false b (' ' :: ' ' :: c :: rest) =
      scanLines false 2 (at_.skip 3) true (b.startLine false c) rest := by
  have hblank : ∀ {place : Cursor} {cs : List Char}, place.column < 2 →
      scanLines false 2 place false b (' ' :: cs) = scanLines false 2 (place.skip 1) false b cs := by
    intro place cs hplace
    rw [scanLines]
    · simp [isBreak, hplace]
    · simp
  rw [hblank (by omega), hblank (by simp [hcolumn]), scanLines_indented h (by simp [hcolumn])]
  simp

theorem scanLines_written (hmore : StartsEntry more) (cs : List Char) (hcs : ∀ c ∈ cs, isUnescaped c = true) :
    (∀ (at_ : Cursor) (b : BlockText), b.InLine →
        FindsLines (scanLines false 2 at_ true b (literalLines false cs ++ more))
          (b.finish .keep ++ (cs ++ lastBreak false cs)) more) ∧
      ∀ (at_ : Cursor) (b : BlockText), at_.column = 0 → b.Settled →
        FindsLines (scanLines false 2 at_ false b (literalLines true cs ++ more))
          (b.finish .keep ++ (cs ++ lastBreak true cs)) more := by
  induction cs with
  | nil =>
    constructor
    · intro at_ b hb
      have hmargin := scanLines_margin (at_.newLine 1 []) hmore rfl (hb.endLine (c := '\n') (by decide))
      rw [hb.finish_endLine] at hmargin
      show FindsLines (scanLines false 2 at_ true b ('\n' :: more)) _ _
      rwa [scanLines_break (by decide)]
    · intro at_ b hcolumn hb
      simpa [lastBreak, literalLines] using scanLines_margin at_ hmore hcolumn hb
  | cons c cs ih =>
    obtain ⟨ihInside, ihFresh⟩ := ih fun d hd => hcs d (List.mem_cons_of_mem c hd)
    rcases isSimple_or_isKeptBreak (hcs c List.mem_cons_self) with hsimple | hkept
    · have hbreak : isBreak c = false := isBreak_of_isSimple hsimple
      constructor
      · intro at_ b hb
        have hline := ihInside (at_.skip 1) (b.add c) (hb.add hbreak)
        rw [hb.finish_add] at hline
        simpa [literalLines, lastBreak, hbreak, scanLines_inside hsimple] using hline
      · intro at_ b hcolumn hb
        have hline := ihInside (at_.skip 3) (b.startLine false c) (b.inLine_startLine hbreak)
        rw [b.finish_startLine] at hline
        simpa [literalLines, lastBreak, hbreak, scanLines_fresh hsimple hcolumn] using hline
    · have hbreak : isBreak c = true := isBreak_of_isKeptBreak hkept
      constructor
      · intro at_ b hb
        have hline := ihFresh (at_.newLine 1 []) (b.endLine c) rfl (hb.endLine hbreak)
        rw [hb.finish_endLine] at hline
        simpa [literalLines, lastBreak, hbreak, scanLines_break hkept] using hline
      · intro at_ b hcolumn hb
        have hline := ihFresh (at_.newLine 1 []) (b.emptyLine c) rfl (hb.emptyLine hbreak)
        rw [b.finish_emptyLine] at hline
        simpa [literalLines, lastBreak, hbreak, scanLines_break hkept] using hline

/-! ## The header -/

def Ending.sign : Ending → List Char
  | .strip => ['-']
  | .clip => []
  | .keep => ['+']

/-- If only one break stands at the end, it is the one after the last line of text. -/
theorem BlockText.Settled.split {d : Char} (hb : b.Settled)
    (hback : b.trailing ++ (b.lead.toList ++ b.text) = d :: rest) (hrest : atBreak rest = false) :
    b.trailing = [] ∧ b.lead = some d ∧ b.text = rest := by
  obtain ⟨text, lead, trailing, leadBlank⟩ := b
  obtain ⟨-, hbreaks, hlead⟩ := hb
  have hmany : ∀ {c : Char} {cs : List Char}, isBreak c = true → atBreak (c :: cs) ≠ false := by
    intro c cs hc hbreak
    rw [atBreak, hc] at hbreak
    cases hbreak
  cases lead with
  | none =>
    -- without a line of text all is trailing
    have hempty : text = [] := hlead rfl
    subst hempty
    cases trailing with
    | nil => cases hback
    | cons t trailing =>
      simp only [Option.toList_none, List.append_nil, List.cons.injEq] at hback hbreaks
      obtain ⟨rfl, rfl⟩ := hback
      cases trailing with
      | nil => cases hrest
      | cons u more => exact absurd hrest (hmany (hbreaks u (by simp)))
  | some e =>
    cases trailing with
    | nil =>
      simp only [Option.toList_some, List.nil_append, List.singleton_append, List.cons.injEq] at hback
      exact ⟨rfl, congrArg some hback.1, hback.2⟩
    | cons t trailing =>
      simp only [Option.toList_some, List.cons_append, List.cons.injEq] at hback
      obtain ⟨rfl, rfl⟩ := hback
      cases trailing with
      | nil => exact absurd hrest (hmany (hbreaks e (by simp)))
      | cons u more => exact absurd hrest (hmany (hbreaks u (by simp)))

theorem finish_keep_reverse : (b.finish .keep).reverse = b.trailing ++ (b.lead.toList ++ b.text) := by
  simp [BlockText.finish]

theorem exists_ending {cs : List Char} (hcs : cs ≠ []) :
    ∃ e : Ending, literalSign cs.reverse = e.sign ∧
      ∀ b : BlockText, b.Settled → b.finish .keep = cs ++ lastBreak true cs → b.finish e = cs := by
  obtain ⟨last, first, hreverse⟩ := List.exists_cons_of_ne_nil (mt List.reverse_eq_nil_iff.mp hcs)
  have hsplit : cs = first.reverse ++ [last] := by
    rw [← List.reverse_reverse cs, hreverse, List.reverse_cons]
  have hlines : lastBreak true cs = if isBreak last then [] else ['\n'] := by
    rw [hsplit, lastBreak_append]
  rw [hreverse, hlines]
  by_cases hlast : isBreak last = true
  · rw [if_pos hlast, List.append_nil]
    by_cases hfirst : atBreak first = true
    · exact ⟨.keep, by simp [literalSign, hlast, hfirst, Ending.sign], fun _ _ h => h⟩
    · refine ⟨.clip, by simp [literalSign, hlast, hfirst, Ending.sign], ?_⟩
      intro b hb hfinish
      have hback : b.trailing ++ (b.lead.toList ++ b.text) = last :: first := by
        rw [← finish_keep_reverse, hfinish, hreverse]
      obtain ⟨-, hlead, htext⟩ := hb.split hback (Bool.not_eq_true _ ▸ hfirst)
      rw [BlockText.finish, hlead, htext, hsplit]
      simp
  · have hword : atBreak cs.reverse = false := by
      rw [hreverse]
      exact Bool.not_eq_true _ ▸ hlast
    rw [if_neg hlast]
    refine ⟨.strip, by simp [literalSign, hlast, Ending.sign], ?_⟩
    intro b hb hfinish
    have hback : b.trailing ++ (b.lead.toList ++ b.text) = '\n' :: cs.reverse := by
      rw [← finish_keep_reverse, hfinish, List.reverse_append]
      rfl
    obtain ⟨-, -, htext⟩ := hb.split hback hword
    rw [BlockText.finish, htext, List.reverse_reverse]

theorem scan_header {body : List Char} (indented : Bool) (e : Ending)
    (hrest : at_.rest = (if indented then ['2'] else []) ++ e.sign ++ '\n' :: body) :
    ∃ next : Cursor, BlockHeader.scan at_ = (⟨e, if indented then some 2 else none⟩, next) ∧
      next.rest = '\n' :: body := by
  unfold BlockHeader.scan
  rw [hrest]
  cases indented <;> cases e
  · exact ⟨at_.skip 1, rfl, by simp [Cursor.skip, hrest, Ending.sign]⟩
  · exact ⟨at_, rfl, hrest⟩
  · exact ⟨at_.skip 1, rfl, by simp [Cursor.skip, hrest, Ending.sign]⟩
  · exact ⟨at_.skip 2, rfl, by simp [Cursor.skip, hrest, Ending.sign]⟩
  · exact ⟨at_.skip 1, rfl, by simp [Cursor.skip, hrest, Ending.sign]⟩
  · exact ⟨at_.skip 2, rfl, by simp [Cursor.skip, hrest, Ending.sign]⟩

theorem finishLine?_break {body : List Char} (hrest : at_.rest = '\n' :: body) :
    ∃ next : Cursor, at_.finishLine? = some next ∧ next.rest = body ∧ next.column = 0 := by
  refine ⟨at_.newLine 1 body, ?_, rfl, rfl⟩
  have hblanks : at_.skipWhile isBlank = at_ := by
    rw [Cursor.skipWhile, hrest]
    rfl
  have hcomment : at_.skipComment = at_ := by
    simp [Cursor.skipComment, hrest]
  simp [Cursor.finishLine?, hblanks, hcomment, hrest, atBreak, isBreak, Cursor.skipBreak, Cursor.break?]

theorem scanFirstLines_spaces (hcolumn : at_.column = 0) (hspace : c ≠ ' ') (h : isSimple c = true) :
    scanFirstLines at_ 0 [] (' ' :: ' ' :: c :: rest) =
      some (2, [], { at_.skip 2 with rest := c :: rest }) := by
  have htab : c ≠ '\t' := by
    rintro rfl
    exact absurd h (by decide)
  rw [scanFirstLines, scanFirstLines, scanFirstLines, isBreak_of_isSimple h]
  · simp [hspace, htab, hcolumn]
  · exact fun _ hreturn => absurd hreturn (ne_return_of_isSimple h)
  all_goals simp

/-- The header shows the indentation if the first line does not. -/
theorem exists_indented {cs : List Char} (hcs : cs ≠ []) :
    ∃ indented : Bool, literalIndent cs = (if indented then ['2'] else []) ∧
      (indented = false → ∃ c rest, cs = c :: rest ∧ c ≠ ' ' ∧ isBreak c = false) := by
  cases cs with
  | nil => exact absurd rfl hcs
  | cons c rest =>
    refine ⟨c == ' ' || isBreak c, rfl, ?_⟩
    intro hplain
    obtain ⟨hspace, hbreak⟩ := Bool.or_eq_false_iff.mp hplain
    exact ⟨c, rest, rfl, by simpa using hspace, hbreak⟩

/-- A literal block is read back, and the next entry is left over. -/
theorem scanBlock_written {cs : List Char} (hcs : ∀ c ∈ cs, isUnescaped c = true) (hne : cs ≠ [])
    (hmore : StartsEntry more) (hrest : at_.rest =
      literalIndent cs ++ literalSign cs.reverse ++ '\n' :: (literalLines true cs ++ more)) :
    ∃ after : Cursor, scanBlock false 1 at_ = some (cs, after) ∧ after.rest = more ∧ after.column = 0 := by
  obtain ⟨e, hsign, hending⟩ := exists_ending hne
  obtain ⟨indented, hindent, hfirst⟩ := exists_indented hne
  rw [hindent, hsign] at hrest
  obtain ⟨header, hheader, hline⟩ := scan_header indented e hrest
  obtain ⟨start, hstart, hbody, hcolumn⟩ := finishLine?_break hline
  -- whether the indentation is given or found, the lines are scanned with it
  have hlines : ∃ lines : Option (BlockText × Cursor), FindsLines lines (cs ++ lastBreak true cs) more ∧
      scanBlock false 1 at_ = lines.map fun found => (found.1.finish e, found.2) := by
    unfold scanBlock
    rw [hheader]
    simp only [hstart]
    cases indented with
    | true =>
      refine ⟨_, ?_, rfl⟩
      rw [hbody]
      exact (scanLines_written hmore cs hcs).2 start {} hcolumn BlockText.settled_start
    | false =>
      obtain ⟨c, rest, rfl, hspace, hbreak⟩ := hfirst rfl
      obtain ⟨hc, hothers⟩ := List.forall_mem_cons.mp hcs
      have hsimple : isSimple c = true := by
        rcases isSimple_or_isKeptBreak hc with hsimple | hkept
        · exact hsimple
        · rw [isBreak_of_isKeptBreak hkept] at hbreak
          cases hbreak
      have hlines : literalLines true (c :: rest) ++ more = ' ' :: ' ' :: c :: (literalLines false rest ++ more) := by
        simp [literalLines, hbreak]
      refine ⟨_, ?_, rfl⟩
      rw [hbody, hlines]
      simp only [Bool.false_eq_true, if_false, scanFirstLines_spaces hcolumn hspace hsimple]
      show FindsLines (scanLines false 2 { start.skip 2 with rest := c :: (literalLines false rest ++ more) } false {}
        (c :: (literalLines false rest ++ more))) _ _
      rw [scanLines_indented hsimple (by simp [hcolumn])]
      have hline := (scanLines_written hmore rest hothers).1
        (({ start.skip 2 with rest := c :: (literalLines false rest ++ more) } : Cursor).skip 1) _
        (BlockText.inLine_startLine {} hbreak)
      rw [BlockText.finish_startLine] at hline
      simpa [lastBreak, hbreak, BlockText.finish] using hline
  obtain ⟨lines, ⟨b, after, hfound, hafter, hmargin, hb, hfinish⟩, hscan⟩ := hlines
  refine ⟨after, ?_, hafter, hmargin⟩
  rw [hscan, hfound, Option.map_some]
  simp only [hending b hb hfinish]

end Credentials.Yaml
