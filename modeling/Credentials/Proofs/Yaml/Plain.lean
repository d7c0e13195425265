import Credentials.Proofs.Yaml.Quoted

/-!
# Plain text is read back

A text that was written plainly ends with its line if the next line starts at the margin (`scanPlain_written`).
Until then it goes on over spaces, because none of them is before a hash or at the end, and over colons, because
none is before a gap. A plain key ends at its colon (`scanPlain_key`).
-/

namespace Credentials.Yaml

variable {c : Char} {at_ : Cursor} {text rest : List Char}

/-! ## Keys -/

/-- A character of a simple key: a small letter or an underscore. -/
def isKeyChar (c : Char) : Bool :=
  let n := c.toNat
  (0x61 ≤ n && n ≤ 0x7A) || n == 0x5F

theorem ne_of_isKeyChar {d : Char} (h : isKeyChar c = true) (hd : isKeyChar d = false) : c ≠ d := by
  rintro rfl
  rw [h] at hd
  cases hd

theorem toNat_of_isKeyChar (h : isKeyChar c = true) : 0x5F ≤ c.toNat ∧ c.toNat ≤ 0x7A := by
  simp only [isKeyChar, Bool.or_eq_true, Bool.and_eq_true, decide_eq_true_eq, beq_iff_eq] at h
  omega

theorem isSimple_of_isKeyChar (h : isKeyChar c = true) : isSimple c = true := by
  obtain ⟨hlow, hhigh⟩ := toNat_of_isKeyChar h
  simp only [isSimple, Bool.or_eq_true, Bool.and_eq_true, decide_eq_true_eq]
  omega

theorem isIndicator_of_isKeyChar (h : isKeyChar c = true) : isIndicator c = false := by
  rw [← Bool.not_eq_true]
  intro hindicator
  simp only [isIndicator, Bool.or_eq_true, beq_iff_eq, or_assoc] at hindicator
  repeat
    rcases hindicator with rfl | hindicator
    · exact absurd h (by decide)

theorem threefold_of_ne {mark : Char} (h : c ≠ mark) (rest : List Char) : threefold mark (c :: rest) = false := by
  unfold threefold
  split
  · rename_i hcons
    cases hcons
    rw [beq_false_of_ne h, Bool.false_and, Bool.false_and, Bool.false_and]
  · rfl

theorem atDocumentMarker_of_isKeyChar (h : isKeyChar c = true) (column : Nat) (rest : List Char) :
    atDocumentMarker column (c :: rest) = false := by
  have hdash : c ≠ '-' := ne_of_isKeyChar h (by decide)
  have hdot : c ≠ '.' := ne_of_isKeyChar h (by decide)
  rw [atDocumentMarker, threefold_of_ne hdash, threefold_of_ne hdot, Bool.or_false, Bool.and_false]

/-- What may follow an entry: another one, or nothing. -/
def StartsEntry (more : List Char) : Prop := ∀ c ∈ more.head?, isKeyChar c = true

theorem startsEntry_nil : StartsEntry [] := by
  intro c hc
  cases hc

/-! ## Values -/

variable {k : PlainContext} {blanks : List Char}

theorem scanPlain_space :
    scanPlain k at_ (.ofBlanks blanks) text (' ' :: rest) =
      scanPlain k (at_.skip 1) (.ofBlanks (' ' :: blanks)) text rest := by
  rw [scanPlain]
  · rfl
  · simp

theorem scanPlain_word (blanks : List Char) (h : isSimple c = true) (hspace : c ≠ ' ')
    (hhash : blanks ≠ [] → c ≠ '#') (hflow : k.inFlow = false) (hends : (c == ':' && atGap rest) = false)
    (hmarker : atDocumentMarker at_.column (c :: rest) = false) :
    scanPlain k at_ (.ofBlanks blanks) text (c :: rest) =
      scanPlain k (at_.skip 1) {} (c :: (blanks ++ text)) rest := by
  have hcomment : (c == '#' && !(Gap.ofBlanks blanks).isEmpty) = false := by
    cases blanks with
    | nil => simp [Gap.isEmpty]
    | cons b blanks => simp [hhash (by simp)]
  rw [scanPlain, isBlank_of_isSimple h hspace, isBreak_of_isSimple h, hmarker, hcomment, endsPlain, hends, hflow]
  · simp
  · exact fun _ hreturn => absurd hreturn (ne_return_of_isSimple h)

theorem scanPlain_margin (at_ : Cursor) (text : List Char) (hflow : k.inFlow = false) (hindent : 0 < k.indent)
    (hcolumn : at_.column = 0) (hmore : StartsEntry rest) :
    ∃ after : Cursor, scanPlain k at_ (.ofBreaks ['\n']) text rest = some ⟨text.reverse, after, true⟩ ∧
      after.rest = rest ∧ after.column = 0 := by
  cases rest with
  | nil => exact ⟨{ at_ with rest := [] }, rfl, rfl, hcolumn⟩
  | cons c rest =>
    have hc : isKeyChar c = true := hmore c rfl
    have hsimple : isSimple c = true := isSimple_of_isKeyChar hc
    refine ⟨{ at_ with rest := c :: rest }, ?_, rfl, hcolumn⟩
    rw [scanPlain, isBlank_of_isSimple hsimple (ne_of_isKeyChar hc (by decide)), isBreak_of_isSimple hsimple]
    · simp [hflow, hcolumn, hindent]
    · exact fun _ hreturn => absurd hreturn (ne_return_of_isSimple hsimple)

theorem continuesPlain_cons (h : continuesPlain (c :: rest) = true) :
    (c == ':' && atGap rest) = false ∧ (c = ' ' → rest.head? ≠ some '#') ∧ continuesPlain rest = true := by
  simp only [continuesPlain, Bool.and_eq_true, Bool.not_eq_true'] at h
  obtain ⟨⟨hcolon, hhash⟩, hrest⟩ := h
  refine ⟨hcolon, ?_, hrest⟩
  rintro rfl
  simpa using hhash

theorem atGap_append_break (cs more : List Char) : atGap (cs ++ '\n' :: more) = atGap cs := by
  cases cs <;> rfl

/-- The scan of a plain text, with the blanks before this place, comes to the end of its line. -/
theorem scanPlain_line (hflow : k.inFlow = false) (more : List Char) (cs : List Char)
    (hsimple : ∀ c ∈ cs, isSimple c = true) (hgo : continuesPlain cs = true) (hlast : cs.getLast? ≠ some ' ')
    (at_ : Cursor) (blanks text : List Char) (hcolumn : 0 < at_.column) (hempty : blanks ≠ [] → cs ≠ [])
    (hhash : blanks ≠ [] → cs.head? ≠ some '#') :
    ∃ next : Cursor, scanPlain k at_ (.ofBlanks blanks) text (cs ++ '\n' :: more) =
      scanPlain k next {} (cs.reverse ++ (blanks ++ text)) ('\n' :: more) := by
  induction cs generalizing at_ blanks text with
  | nil =>
    have hblanks : blanks = [] := Classical.byContradiction fun hne => hempty hne rfl
    subst hblanks
    exact ⟨at_, rfl⟩
  | cons c cs ih =>
    obtain ⟨hcolon, hafter, hrest⟩ := continuesPlain_cons hgo
    have hsimples : ∀ d ∈ cs, isSimple d = true := fun d hd => hsimple d (List.mem_cons_of_mem c hd)
    have hlasts : cs.getLast? ≠ some ' ' := by
      intro hend
      apply hlast
      rw [List.getLast?_cons, hend]
      rfl
    by_cases hspace : c = ' '
    · subst hspace
      have hne : cs ≠ [] := by
        rintro rfl
        exact hlast rfl
      obtain ⟨next, hscan⟩ := ih hsimples hrest hlasts (at_.skip 1) (' ' :: blanks) text (by simp)
        (fun _ => hne) (fun _ => hafter rfl)
      refine ⟨next, ?_⟩
      rw [List.cons_append, scanPlain_space, hscan]
      simp
    · obtain ⟨next, hscan⟩ := ih hsimples hrest hlasts (at_.skip 1) [] (c :: (blanks ++ text)) (by simp)
        (absurd rfl) (absurd rfl)
      have hnohash : blanks ≠ [] → c ≠ '#' := fun hne hc => hhash hne (congrArg some hc)
      refine ⟨next, ?_⟩
      rw [List.cons_append, scanPlain_word blanks (hsimple c List.mem_cons_self) hspace hnohash hflow
        (by rw [atGap_append_break, hcolon]) (atDocumentMarker_of_column hcolumn _), hscan]
      simp

theorem isPlainText_cons (h : isPlainText (c :: rest) = true) :
    (∀ d ∈ c :: rest, isSimple d = true) ∧ c ≠ ' ' ∧ (c :: rest).getLast? ≠ some ' ' ∧
      isHardIndicator c = false ∧ ((c = '-' ∨ c = '?' ∨ c = ':') → atGap rest = false) ∧
      continuesPlain (c :: rest) = true := by
  simp only [isPlainText, Bool.and_eq_true, Bool.not_eq_true', decide_eq_true_eq, List.all_eq_true,
    ne_eq, Bool.and_eq_false_imp, Bool.or_eq_true, beq_iff_eq, or_assoc] at h
  obtain ⟨⟨⟨⟨⟨⟨⟨hsimple, hspace⟩, hlast⟩, hhard⟩, hgap⟩, -⟩, -⟩, hgo⟩ := h
  exact ⟨hsimple, hspace, hlast, hhard, hgap, hgo⟩

theorem scanPlain_written {cs more : List Char} (hcs : isPlainText cs = true) (hflow : k.inFlow = false)
    (hindent : 0 < k.indent) (hcolumn : 0 < at_.column) (hmore : StartsEntry more) :
    ∃ after : Cursor, scanPlain k at_ {} [] (cs ++ '\n' :: more) = some ⟨cs, after, true⟩ ∧
      after.rest = more ∧ after.column = 0 := by
  cases cs with
  | nil => cases hcs
  | cons c rest =>
    obtain ⟨hsimple, -, hlast, -, -, hgo⟩ := isPlainText_cons hcs
    obtain ⟨next, hline⟩ := scanPlain_line hflow more (c :: rest) hsimple hgo hlast at_ [] [] hcolumn
      (absurd rfl) (absurd rfl)
    obtain ⟨after, hmargin, hafter⟩ := scanPlain_margin (next.newLine 1 []) (c :: rest).reverse hflow hindent
      rfl hmore
    refine ⟨after, ?_, hafter⟩
    have hbreak : scanPlain k next {} (c :: rest).reverse ('\n' :: more) =
        scanPlain k (next.newLine 1 []) (.ofBreaks ['\n']) (c :: rest).reverse more := by
      rw [scanPlain]
      · rfl
      · simp
    rw [hline, List.append_nil, List.append_nil, hbreak, hmargin, List.reverse_reverse]

theorem scanPlain_key {key : List Char} (hkey : ∀ c ∈ key, isKeyChar c = true) (hflow : k.inFlow = false) :
    scanPlain k at_ {} text (key ++ ':' :: ' ' :: rest) =
      some ⟨text.reverse ++ key, { at_.skip key.length with rest := ':' :: ' ' :: rest }, false⟩ := by
  induction key generalizing at_ text with
  | nil =>
    rw [List.nil_append, scanPlain]
    · simp [isBlank, isBreak, endsPlain, atGap, isGap, Cursor.skip]
    · simp
  | cons c key ih =>
    obtain ⟨hc, hothers⟩ := List.forall_mem_cons.mp hkey
    have hcolon : (c == ':' && atGap (key ++ ':' :: ' ' :: rest)) = false := by
      simp [ne_of_isKeyChar (d := ':') hc (by decide)]
    rw [List.cons_append, scanPlain_word [] (isSimple_of_isKeyChar hc)
      (ne_of_isKeyChar hc (by decide)) (absurd rfl) hflow hcolon (atDocumentMarker_of_isKeyChar hc _ _),
      ih hothers]
    simp [Cursor.skip, Nat.add_comm, Nat.add_left_comm]

end Credentials.Yaml
