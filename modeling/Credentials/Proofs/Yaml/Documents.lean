import Credentials.Proofs.Yaml.Entries

/-!
# Documents are read back

A text of entries is a stream of permitted characters, in whatever style each value is written. Its tokens are
read as a mapping from the keys to the values (`Document.ofText?_entries`).
-/

namespace Credentials.Yaml

variable {c : Char} {cs rest : List Char}

/-! ## Permitted characters -/

theorem isPermitted_of_isSimple (h : isSimple c = true) : isPermitted c = true := by
  have hvalid : c.toNat < 0xD800 ∨ 0xDFFF < c.toNat := by
    rcases c.valid with hlow | ⟨hhigh, -⟩
    · exact .inl hlow
    · exact .inr hhigh
  simp only [isSimple, Bool.or_eq_true, Bool.and_eq_true, decide_eq_true_eq] at h
  simp only [isPermitted, Bool.or_eq_true, Bool.and_eq_true, decide_eq_true_eq, beq_iff_eq]
  omega

theorem isPermitted_of_isUnescaped (h : isUnescaped c = true) : isPermitted c = true := by
  rcases isSimple_or_isKeptBreak h with hsimple | hkept
  · exact isPermitted_of_isSimple hsimple
  · rcases eq_of_isKeptBreak hkept with rfl | rfl | rfl <;> decide

def Permitted (cs : List Char) : Prop := ∀ c ∈ cs, isPermitted c = true

@[simp] theorem permitted_nil : Permitted [] := by simp [Permitted]

@[simp] theorem permitted_cons : Permitted (c :: cs) ↔ isPermitted c = true ∧ Permitted cs := by simp [Permitted]

@[simp] theorem permitted_append : Permitted (cs ++ rest) ↔ Permitted cs ∧ Permitted rest := by
  simp [Permitted, or_imp, forall_and]

theorem permitted_singleQuotedLines (h : Permitted cs) (fresh : Bool) : Permitted (singleQuotedLines fresh cs) := by
  have hspace : isPermitted ' ' = true := by decide
  have hquote : isPermitted '\'' = true := by decide
  induction cs generalizing fresh with
  | nil => cases fresh <;> simp [singleQuotedLines, hspace, hquote]
  | cons c cs ih =>
    obtain ⟨hc, hcs⟩ := permitted_cons.mp h
    have hquoted : Permitted (if c = '\'' then ['\'', '\''] else [c]) := by
      split <;> simp [hc, hquote]
    by_cases hbreak : isBreak c = true
    · rw [singleQuotedLines_break hbreak]
      exact permitted_cons.mpr ⟨hc, ih hcs true⟩
    · have hword : Permitted ((if c = '\'' then ['\'', '\''] else [c]) ++ singleQuotedLines false cs) :=
        permitted_append.mpr ⟨hquoted, ih hcs false⟩
      rw [Bool.not_eq_true] at hbreak
      cases fresh with
      | false => rwa [singleQuotedLines_inside hbreak]
      | true =>
        rw [singleQuotedLines_fresh hbreak]
        exact permitted_cons.mpr ⟨hspace, permitted_cons.mpr ⟨hspace, hword⟩⟩

theorem permitted_literalLines (h : Permitted cs) (fresh : Bool) : Permitted (literalLines fresh cs) := by
  have hspace : isPermitted ' ' = true := by decide
  have hfeed : isPermitted '\n' = true := by decide
  induction cs generalizing fresh with
  | nil => cases fresh <;> simp [literalLines, hfeed]
  | cons c cs ih =>
    obtain ⟨hc, hcs⟩ := permitted_cons.mp h
    unfold literalLines
    split
    · simp [hc, ih hcs]
    · split <;> simp [hspace, hc, ih hcs]

theorem permitted_hexChars (width n : Nat) : Permitted (hexChars width n) := by
  have hdigits : ∀ d < 16, isPermitted (hexChar d) = true := by decide
  induction width generalizing n with
  | zero => simp [hexChars]
  | succ width ih => simp [hexChars, ih, hdigits _ (Nat.mod_lt n (by decide))]

theorem permitted_doubleQuotedChar (c : Char) : Permitted (doubleQuotedChar c) := by
  have hmarks : ∀ d ∈ ['\\', 'x', 'u', 'U'], isPermitted d = true :=
    List.all_eq_true.mp (by decide)
  unfold doubleQuotedChar
  cases hletter : escapeLetter? c with
  | some e =>
    obtain ⟨-, hsimple⟩ := letterEscape?_of_escapeLetter? hletter
    simp [hmarks, isPermitted_of_isSimple hsimple]
  | none =>
    by_cases hsimple : isSimple c = true
    · simp [hsimple, isPermitted_of_isSimple hsimple]
    · simp only [hsimple, Bool.false_eq_true, if_false]
      split
      · simp [hmarks, permitted_hexChars]
      · split <;> simp [hmarks, permitted_hexChars]

theorem permitted_of_suits {style : Style} (h : Suits cs style) : Permitted (written cs style) := by
  have hmarks : ∀ d ∈ ['\n', '\'', '"', '|', '2', '-', '+'], isPermitted d = true :=
    List.all_eq_true.mp (by decide)
  cases style with
  | plain =>
    cases cs with
    | nil => cases h
    | cons c rest =>
      obtain ⟨hsimple, -⟩ := isPlainText_cons h
      have hcs : Permitted (c :: rest) := fun d hd => isPermitted_of_isSimple (hsimple d hd)
      rw [written]
      exact permitted_append.mpr ⟨hcs, by simp [hmarks]⟩
  | singleQuoted =>
    have hcs : Permitted cs := by
      intro c hc
      exact isPermitted_of_isUnescaped (List.all_eq_true.mp (Bool.and_eq_true_iff.mp h.1).1 c hc)
    simp [written, hmarks, permitted_singleQuotedLines hcs]
  | doubleQuoted =>
    have hcs : Permitted (cs.flatMap doubleQuotedChar) := by
      intro d hd
      obtain ⟨c, -, hc⟩ := List.mem_flatMap.mp hd
      exact permitted_doubleQuotedChar c d hc
    simp [written, hmarks, hcs]
  | literal =>
    have hcs : Permitted cs := fun c hc => isPermitted_of_isUnescaped (h.1 c hc)
    have hindent : Permitted (literalIndent cs) := by
      unfold literalIndent
      repeat' split
      all_goals simp [hmarks]
    have hsign : Permitted (literalSign cs.reverse) := by
      unfold literalSign
      repeat' split
      all_goals simp [hmarks]
    simp [written, hmarks, hindent, hsign, permitted_literalLines hcs]
  | folded => cases h

theorem permitted_chars {e : Entry} (h : e.Fits) : Permitted e.chars := by
  have hmarks : ∀ d ∈ [':', ' '], isPermitted d = true :=
    List.all_eq_true.mp (by decide)
  have hkey : Permitted e.key.toList := fun c hc => isPermitted_of_isSimple (isSimple_of_isKeyChar (h.key c hc))
  simp [Entry.chars, hmarks, hkey, permitted_of_suits h.text]

/-! ## Tokens -/

theorem three_le_length_chars {e : Entry} (h : e.Fits) : 3 ≤ e.chars.length := by
  have hkey : 0 < e.key.toList.length := List.length_pos_iff.mpr h.nonempty
  simp only [Entry.chars, List.length_append, List.length_cons]
  omega

theorem length_entries_le {es : List Entry} (h : ∀ e ∈ es, e.Fits) :
    3 * es.length ≤ (es.flatMap Entry.chars).length := by
  induction es with
  | nil => simp
  | cons e es ih =>
    obtain ⟨he, hothers⟩ := List.forall_mem_cons.mp h
    have hfirst := three_le_length_chars he
    have hrest := ih hothers
    rw [List.flatMap_cons, List.length_append, List.length_cons]
    omega

/-- The tokens of the text of some entries. -/
theorem Token.ofText?_entries {es : List Entry} (hes : ∀ e ∈ es, e.Fits) (hsome : es ≠ []) :
    Token.ofText? (String.ofList (es.flatMap Entry.chars)) =
      some (.mappingIndent :: (es.flatMap Entry.tokens ++ [.dedent])) := by
  have hpermitted : (es.flatMap Entry.chars).all isPermitted = true := by
    rw [List.all_eq_true]
    intro c hc
    obtain ⟨e, he, hchar⟩ := List.mem_flatMap.mp hc
    exact permitted_chars (hes e he) c hchar
  have hlength := length_entries_le hes
  unfold Token.ofText?
  simp only [String.toList_ofList, hpermitted, if_true]
  cases es with
  | nil => exact absurd rfl hsome
  | cons e es =>
    obtain ⟨he, hothers⟩ := List.forall_mem_cons.mp hes
    have hstart : Scanner.AtLine { at_ := { rest := (e :: es).flatMap Entry.chars } } [] []
        (e.chars ++ es.flatMap Entry.chars) :=
      Scanner.atLine_margin (he.startsEntry _) rfl rfl (by simp)
    -- the first entry opens the mapping, and the others are in it
    obtain ⟨s, hs, hturn⟩ := Scanner.run_entry he (.inl rfl) (startsEntry_flatMap hothers) hstart
    rw [List.length_cons] at hlength
    obtain ⟨n, hn⟩ : ∃ n, ((e :: es).flatMap Entry.chars).length + 1 = n + 3 :=
      ⟨((e :: es).flatMap Entry.chars).length - 2, by omega⟩
    rw [hn, hturn, Scanner.run_entries hothers hs (by omega)]
    simp [Scanner.opened]

/-! ## Nodes -/

def Entry.nodes {ρ : Type} (e : Entry) : Node ρ × Node ρ :=
  (.scalar none { text := e.key }, .scalar none { text := e.text, style := e.style })

theorem readPart_scalar (h : Handles) (text : String) (style : Style) (rest : List Token) (n : Nat) :
    readPart h (n + 3) .entry [.key, .value, .dedent] (.scalar text style :: rest) =
      some (.scalar none { text, style }, rest) := by
  have hnext : nextIs [.key, .value, .dedent] (.scalar text style :: rest) = false := by
    simp [nextIs]
  rw [readPart, hnext, if_neg Bool.false_ne_true]
  simp [readNode, readProperties, readContent]

theorem readEntries_entry (h : Handles) (e : Entry) (rest : List Token) (n : Nat) :
    readEntries h (n + 5) (e.tokens ++ rest) =
      (readEntries h (n + 4) rest).map fun (entries, rest) => (e.nodes :: entries, rest) := by
  have hvalue : readValue h (n + 4) .entry [.key, .value, .dedent] (.value :: .scalar e.text e.style :: rest) =
      some (.scalar none { text := e.text, style := e.style }, rest) := by
    rw [readValue]
    exact readPart_scalar h e.text e.style rest n
  show readEntries h (n + 5) (.key :: .scalar e.key .plain :: .value :: .scalar e.text e.style :: rest) = _
  rw [readEntries, readPart_scalar h e.key .plain _ (n + 1)]
  simp only [hvalue]
  rfl

theorem readEntries_entries (h : Handles) (es : List Entry) (rest : List Token) {n : Nat}
    (hn : es.length + 4 < n) :
    readEntries h n (es.flatMap Entry.tokens ++ .dedent :: rest) = some (es.map Entry.nodes, rest) := by
  obtain ⟨m, rfl⟩ : ∃ m, n = m + 5 := ⟨n - 5, by omega⟩
  induction es generalizing m with
  | nil => simp [readEntries]
  | cons e es ih =>
    rw [List.length_cons] at hn
    obtain ⟨m, rfl⟩ : ∃ k, m = k + 1 := ⟨m - 1, by omega⟩
    rw [List.flatMap_cons, List.append_assoc, readEntries_entry, ih m (by omega)]
    rfl

theorem resolveEntries_entries (es : List Entry) (a : Anchors) :
    Node.resolveEntries a (es.map Entry.nodes) = some (es.map Entry.nodes, a) := by
  induction es with
  | nil => rfl
  | cons e es ih =>
    simp only [List.map_cons, Node.resolveEntries, Node.resolve, Entry.nodes, Anchors.note] at ih ⊢
    rw [ih]

theorem length_flatMap_tokens (es : List Entry) : (es.flatMap Entry.tokens).length = 4 * es.length := by
  induction es with
  | nil => rfl
  | cons e es ih =>
    rw [List.flatMap_cons, List.length_append, ih, List.length_cons, Entry.tokens]
    simp only [List.length_cons, List.length_nil]
    omega

/-- What is written entry by entry is read as the mapping from the keys to the values. -/
theorem Document.ofText?_entries {es : List Entry} (hes : ∀ e ∈ es, e.Fits) (hsome : es ≠ []) :
    Document.ofText? (String.ofList (es.flatMap Entry.chars)) =
      some ⟨.mapping none (es.map Entry.nodes), {}⟩ := by
  let tokens : List Token := es.flatMap Entry.tokens ++ [.dedent]
  have hlength : tokens.length = 4 * es.length + 1 := by
    rw [List.length_append, length_flatMap_tokens]
    rfl
  have hread : readRoot (.mappingIndent :: tokens) = some (.mapping none (es.map Entry.nodes), []) := by
    have hfuel : steps (.mappingIndent :: tokens) = 4 * tokens.length + 6 + 2 := by
      simp only [steps, List.length_cons]
      omega
    have hstart : hasStart (.mappingIndent :: tokens) = false := rfl
    rw [readRoot, hstart, if_neg Bool.false_ne_true, hfuel, readNode]
    · simp only [readProperties, readContent]
      rw [readEntries_entries standardHandles es [] (by omega)]
      rfl
    · simp
  rw [Document.ofText?, Token.ofText?_entries hes hsome, Option.bind_some]
  show Document.ofTokens? (.mappingIndent :: tokens) = _
  rw [Document.ofTokens?, if_neg (List.cons_ne_nil _ _), hread]
  simp [Node.resolve, Anchors.note, resolveEntries_entries]

end Credentials.Yaml
