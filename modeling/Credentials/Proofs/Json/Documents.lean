import Credentials.Proofs.Json.Tokens

/-!
# Documents read back

A document that was written, with any space between its tokens (`Spaced`), is read back whole
(`ofChars?_of_spaced`); the compact text is the case without space (`ofString?_toText`). Strings may be of
any kind, numbers have to be well-formed numerals. The reader's number of steps is an artefact: a step is
enough for a token, and no token is empty.
-/

namespace Credentials.Json

open Decimal (Numeral)

/-! ## Well-formed documents -/

mutual

/-- Every number of a document is a well-formed numeral. -/
def WellFormed : Json → Prop
  | number n => n.WellFormed
  | array items => WellFormedItems items
  | object members => WellFormedMembers members
  | _ => True

def WellFormedItems : List Json → Prop
  | [] => True
  | j :: rest => WellFormed j ∧ WellFormedItems rest

def WellFormedMembers : List (Option String × Json) → Prop
  | [] => True
  | (_, j) :: rest => WellFormed j ∧ WellFormedMembers rest

end

/-! ## Tokens -/

mutual

def tokens : Json → List (List Char)
  | null => [['n', 'u', 'l', 'l']]
  | bool true => [['t', 'r', 'u', 'e']]
  | bool false => [['f', 'a', 'l', 's', 'e']]
  | number n => [n.write true]
  | string s => [writeString s]
  | array [] => [['['], [']']]
  | array (j :: rest) => ['['] :: (tokens j ++ itemTokens rest)
  | object [] => [['\x7b'], ['\x7d']]
  | object ((key, j) :: rest) => ['\x7b'] :: writeString key :: [':'] :: (tokens j ++ memberTokens rest)

/-- The tokens of the items after the first one, and of the closing bracket. -/
def itemTokens : List Json → List (List Char)
  | [] => [[']']]
  | j :: rest => [','] :: (tokens j ++ itemTokens rest)

/-- The tokens of the members after the first one, and of the closing brace. -/
def memberTokens : List (Option String × Json) → List (List Char)
  | [] => [['\x7d']]
  | (key, j) :: rest => [','] :: writeString key :: [':'] :: (tokens j ++ memberTokens rest)

end

mutual

theorem flatten_tokens : ∀ j : Json, (tokens j).flatten = write j
  | null => rfl
  | bool true => rfl
  | bool false => rfl
  | number _ => by simp [tokens, write]
  | string _ => by simp [tokens, write]
  | array [] => rfl
  | array (j :: rest) => by simp [tokens, write, flatten_tokens j, flatten_itemTokens rest]
  | object [] => rfl
  | object ((key, j) :: rest) => by
    simp [tokens, write, flatten_tokens j, flatten_memberTokens rest]

theorem flatten_itemTokens : ∀ items : List Json, (itemTokens items).flatten = writeItems items
  | [] => rfl
  | j :: rest => by simp [itemTokens, writeItems, flatten_tokens j, flatten_itemTokens rest]

theorem flatten_memberTokens : ∀ members : List (Option String × Json),
    (memberTokens members).flatten = writeMembers members
  | [] => rfl
  | (key, j) :: rest => by
    simp [memberTokens, writeMembers, flatten_tokens j, flatten_memberTokens rest]

end

/-- The token does not begin with a space or a closing bracket, so it can begin a value. -/
def Begins (t : List Char) : Prop := ∃ c cs, t = c :: cs ∧ isSpace c = false ∧ c ≠ ']'

theorem Begins.isSpace {c : Char} {cs : List Char} (h : Begins (c :: cs)) : isSpace c = false := by
  obtain ⟨_, _, ⟨⟩, hspace, -⟩ := h
  exact hspace

theorem begins_of_number {c : Char} (h : c = '-' ∨ (digit? c).isSome) (cs : List Char) :
    Begins (c :: cs) := by
  refine ⟨c, cs, rfl, ?_⟩
  rcases h with rfl | hdigit
  · decide
  · constructor
    · cases hspace : isSpace c with
      | false => rfl
      | true => simp [(ends_of_isSpace hspace).1] at hdigit
    · rintro rfl
      cases hdigit

theorem begins_tokens {j : Json} (h : j.WellFormed) : ∃ t ts, tokens j = t :: ts ∧ Begins t := by
  cases j with
  | null => exact ⟨_, _, rfl, 'n', _, rfl, by decide⟩
  | bool b => cases b <;> exact ⟨_, _, rfl, _, _, rfl, by decide⟩
  | number n =>
    obtain ⟨c, cs, hcs, hc⟩ := write_eq_cons h
    exact ⟨_, _, rfl, by rw [hcs]; exact begins_of_number hc cs⟩
  | string s => exact ⟨_, _, rfl, '"', _, writeString_eq_cons s, by decide⟩
  | array items => cases items <;> exact ⟨_, _, rfl, '[', _, rfl, by decide⟩
  | object members =>
    cases members with
    | nil => exact ⟨_, _, rfl, '\x7b', _, rfl, by decide⟩
    | cons m rest => exact ⟨_, _, rfl, '\x7b', _, rfl, by decide⟩

/-! ## Space between tokens -/

/-- The text is these tokens with any space before, between and after them. -/
inductive Spaced : List (List Char) → List Char → Prop where
  | done {space : List Char} (h : ∀ c ∈ space, isSpace c) : Spaced [] space
  | token {space t : List Char} {ts : List (List Char)} {rest : List Char}
    (h : ∀ c ∈ space, isSpace c) (hrest : Spaced ts rest) : Spaced (t :: ts) (space ++ (t ++ rest))

theorem Spaced.cons {ts : List (List Char)} {rest : List Char} (t : List Char) (h : Spaced ts rest) :
    Spaced (t :: ts) (t ++ rest) :=
  @Spaced.token [] t ts rest (by simp) h

theorem spaced_flatten (ts : List (List Char)) : Spaced ts ts.flatten := by
  induction ts with
  | nil => exact .done (by simp)
  | cons t ts ih => exact .cons t ih

theorem spaced_flatMap {space : List Char} (h : ∀ c ∈ space, isSpace c) (ts : List (List Char)) :
    Spaced ts (ts.flatMap (space ++ ·)) := by
  induction ts with
  | nil => exact .done (by simp)
  | cons t ts ih =>
    rw [List.flatMap_cons, List.append_assoc]
    exact .token h ih

theorem skipSpace_append {space : List Char} (h : ∀ c ∈ space, isSpace c) (rest : List Char) :
    skipSpace (space ++ rest) = skipSpace rest :=
  List.dropWhile_append_of_pos h

theorem Spaced.skip {c : Char} {t : List Char} {ts : List (List Char)} {cs : List Char}
    (h : Spaced ((c :: t) :: ts) cs) (hc : isSpace c = false) :
    ∃ rest, skipSpace cs = c :: (t ++ rest) ∧ Spaced ts rest := by
  cases h with
  | @token space _ _ rest hspace hrest =>
    refine ⟨rest, ?_, hrest⟩
    rw [skipSpace_append hspace]
    simp [skipSpace, hc]

/-- What follows a value ends a number that stands there. -/
def Ends (ts : List (List Char)) : Prop := ∀ t ∈ ts.head?, t ≠ [] ∧ NumberEnds t

theorem Spaced.numberEnds {ts : List (List Char)} {cs : List Char} (h : Spaced ts cs) (hts : Ends ts) :
    NumberEnds cs := by
  have hspace : ∀ space rest : List Char, (∀ c ∈ space, isSpace c) → NumberEnds rest →
      NumberEnds (space ++ rest) := by
    intro space rest hall hrest
    cases space with
    | nil => exact hrest
    | cons c space =>
      rintro _ ⟨⟩
      exact ends_of_isSpace (hall c (by simp))
  cases h with
  | done hall => simpa using hspace _ [] hall (by simp [NumberEnds])
  | @token space t ts rest hall =>
    obtain ⟨hne, hends⟩ := hts t rfl
    obtain ⟨c, cs, rfl⟩ := List.exists_cons_of_ne_nil hne
    exact hspace _ _ hall hends

theorem spaced_skipSpace {j : Json} {ts : List (List Char)} {cs : List Char} (hj : j.WellFormed)
    (h : Spaced (tokens j ++ ts) cs) :
    ∃ c rest, skipSpace cs = c :: rest ∧ c ≠ ']' ∧ Spaced (tokens j ++ ts) (c :: rest) := by
  obtain ⟨t, ts', htokens, c, t, rfl, hspace, hne⟩ := begins_tokens hj
  rw [htokens] at h ⊢
  obtain ⟨rest, hskip, hrest⟩ := h.skip hspace
  exact ⟨c, t ++ rest, hskip, hne, hrest.cons (c :: t)⟩

theorem ends_itemTokens (items : List Json) (ts : List (List Char)) : Ends (itemTokens items ++ ts) := by
  cases items <;> rintro _ ⟨⟩ <;> exact ⟨by simp, by rintro _ ⟨⟩; decide⟩

theorem ends_memberTokens (members : List (Option String × Json)) (ts : List (List Char)) :
    Ends (memberTokens members ++ ts) := by
  cases members <;> rintro _ ⟨⟩ <;> exact ⟨by simp, by rintro _ ⟨⟩; decide⟩

/-! ## Reading -/

theorem readValue_number {c : Char} {cs rest : List Char} (n : Nat)
    (hskip : skipSpace cs = c :: rest) (hc : c = '-' ∨ (digit? c).isSome) :
    readValue (n + 1) cs = (readNumeral (c :: rest)).map fun (m, r) => (.number m, r) := by
  have hne : c ∉ ['n', 't', 'f', '"', '[', '\x7b'] := by
    rcases hc with rfl | hc
    · decide
    · intro hmem
      simp only [List.mem_cons, List.not_mem_nil, or_false] at hmem
      rcases hmem with rfl | rfl | rfl | rfl | rfl | rfl <;> cases hc
  rw [readValue, hskip]
  split <;> simp_all

theorem readValue_items {cs r r' : List Char} {c : Char} (n : Nat) (hopen : skipSpace cs = '[' :: r)
    (hskip : skipSpace r = c :: r') (hne : c ≠ ']') :
    readValue (n + 1) cs = (readItems n (c :: r')).map fun (items, r) => (.array items, r) := by
  rw [readValue, hopen]
  simp only [hskip]
  split
  · simp_all
  · rfl

theorem readValue_members {cs r r' : List Char} {c : Char} (n : Nat)
    (hopen : skipSpace cs = '\x7b' :: r) (hskip : skipSpace r = c :: r') (hne : c ≠ '\x7d') :
    readValue (n + 1) cs = (readMembers n (c :: r')).map fun (members, r) => (.object members, r) := by
  rw [readValue, hopen]
  simp only [hskip]
  split
  · simp_all
  · rfl

/-- What the readers make of a document with at most so many tokens. -/
structure ReadsBack (n : Nat) : Prop where
  value : ∀ {j : Json} {ts : List (List Char)} {cs : List Char}, j.WellFormed →
    (tokens j).length ≤ n → Ends ts → Spaced (tokens j ++ ts) cs →
    ∃ rest, readValue n cs = some (j, rest) ∧ Spaced ts rest
  items : ∀ {j : Json} {items : List Json} {ts : List (List Char)} {cs : List Char}, j.WellFormed →
    WellFormedItems items → (tokens j ++ itemTokens items).length ≤ n →
    Spaced (tokens j ++ (itemTokens items ++ ts)) cs →
    ∃ rest, readItems n cs = some (j :: items, rest) ∧ Spaced ts rest
  members : ∀ {key : Option String} {j : Json} {members : List (Option String × Json)}
    {ts : List (List Char)} {cs : List Char}, j.WellFormed → WellFormedMembers members →
    (writeString key :: [':'] :: (tokens j ++ memberTokens members)).length ≤ n →
    Spaced (writeString key :: [':'] :: (tokens j ++ (memberTokens members ++ ts))) cs →
    ∃ rest, readMembers n cs = some ((key, j) :: members, rest) ∧ Spaced ts rest

theorem readsBack_zero : ReadsBack 0 where
  value hj hlen := by
    obtain ⟨t, ts, htokens, -⟩ := begins_tokens hj
    simp [htokens] at hlen
  items hj _ hlen := by
    obtain ⟨t, ts, htokens, -⟩ := begins_tokens hj
    simp [htokens] at hlen
  members _ _ hlen := by simp at hlen

theorem ReadsBack.value_succ {n : Nat} (ih : ReadsBack n) {j : Json} {ts : List (List Char)}
    {cs : List Char} (hj : j.WellFormed) (hlen : (tokens j).length ≤ n + 1) (hts : Ends ts)
    (h : Spaced (tokens j ++ ts) cs) :
    ∃ rest, readValue (n + 1) cs = some (j, rest) ∧ Spaced ts rest := by
  cases j with
  | null =>
    obtain ⟨rest, hskip, hrest⟩ := h.skip (by decide)
    exact ⟨rest, by rw [readValue, hskip]; rfl, hrest⟩
  | bool b =>
    cases b <;> obtain ⟨rest, hskip, hrest⟩ := h.skip (by decide) <;>
      exact ⟨rest, by rw [readValue, hskip]; rfl, hrest⟩
  | number m =>
    obtain ⟨c, w, hw, hc⟩ := write_eq_cons hj
    rw [tokens, hw] at h
    obtain ⟨rest, hskip, hrest⟩ := h.skip (begins_of_number hc w).isSpace
    refine ⟨rest, ?_, hrest⟩
    rw [readValue_number n hskip hc, ← List.cons_append, ← hw,
      readNumeral_append hj (hrest.numberEnds hts)]
    rfl
  | string s =>
    rw [tokens, writeString_eq_cons] at h
    obtain ⟨rest, hskip, hrest⟩ := h.skip (by decide)
    refine ⟨rest, ?_, hrest⟩
    rw [readValue, hskip]
    simp only [readString_append, Option.map_some]
  | array items =>
    cases items with
    | nil =>
      obtain ⟨r, hskip, hr⟩ := h.skip (by decide)
      obtain ⟨rest, hclose, hrest⟩ := hr.skip (by decide)
      exact ⟨rest, by rw [readValue, hskip]; simp [hclose], hrest⟩
    | cons j items =>
      obtain ⟨hj, hitems⟩ := hj
      simp only [tokens, List.length_cons, Nat.add_le_add_iff_right] at hlen
      simp only [tokens, List.cons_append, List.append_assoc] at h
      obtain ⟨r, hopen, hr⟩ := h.skip (by decide)
      obtain ⟨c, r', hskip, hne, hr'⟩ := spaced_skipSpace hj hr
      obtain ⟨rest, hread, hrest⟩ := ih.items hj hitems hlen hr'
      exact ⟨rest, by rw [readValue_items n hopen hskip hne, hread]; rfl, hrest⟩
  | object members =>
    cases members with
    | nil =>
      obtain ⟨r, hskip, hr⟩ := h.skip (by decide)
      obtain ⟨rest, hclose, hrest⟩ := hr.skip (by decide)
      exact ⟨rest, by rw [readValue, hskip]; simp [hclose], hrest⟩
    | cons m members =>
      obtain ⟨key, j⟩ := m
      obtain ⟨hj, hmembers⟩ := hj
      simp only [tokens, List.length_cons, Nat.add_le_add_iff_right] at hlen
      simp only [tokens, List.cons_append, List.append_assoc] at h
      obtain ⟨r, hopen, hr⟩ := h.skip (by decide)
      rw [writeString_eq_cons] at hr
      obtain ⟨r', hskip, hr'⟩ := hr.skip (by decide)
      have hstring := hr'.cons ('"' :: (writeString key).tail)
      rw [← writeString_eq_cons] at hstring
      obtain ⟨rest, hread, hrest⟩ := ih.members hj hmembers hlen hstring
      rw [writeString_eq_cons, List.cons_append] at hread
      exact ⟨rest, by rw [readValue_members n hopen hskip (by decide), hread]; rfl, hrest⟩

theorem ReadsBack.items_succ {n : Nat} (ih : ReadsBack n) {j : Json} {items : List Json}
    {ts : List (List Char)} {cs : List Char} (hj : j.WellFormed) (hitems : WellFormedItems items)
    (hlen : (tokens j ++ itemTokens items).length ≤ n + 1)
    (h : Spaced (tokens j ++ (itemTokens items ++ ts)) cs) :
    ∃ rest, readItems (n + 1) cs = some (j :: items, rest) ∧ Spaced ts rest := by
  rw [List.length_append] at hlen
  cases items with
  | nil =>
    rw [itemTokens, List.length_singleton] at hlen
    obtain ⟨r, hvalue, hr⟩ := ih.value hj (by omega) (ends_itemTokens [] ts) h
    obtain ⟨rest, hskip, hrest⟩ := hr.skip (by decide)
    exact ⟨rest, by simp [readItems, hvalue, hskip], hrest⟩
  | cons j' items =>
    rw [itemTokens, List.length_cons] at hlen
    obtain ⟨r, hvalue, hr⟩ := ih.value hj (by omega) (ends_itemTokens (j' :: items) ts) h
    rw [itemTokens, List.cons_append, List.append_assoc] at hr
    obtain ⟨r', hskip, hr'⟩ := hr.skip (by decide)
    obtain ⟨rest, hread, hrest⟩ := ih.items hitems.1 hitems.2 (by omega) hr'
    exact ⟨rest, by simp [readItems, hvalue, hskip, hread], hrest⟩

theorem ReadsBack.members_succ {n : Nat} (ih : ReadsBack n) {key : Option String} {j : Json}
    {members : List (Option String × Json)} {ts : List (List Char)} {cs : List Char}
    (hj : j.WellFormed) (hmembers : WellFormedMembers members)
    (hlen : (writeString key :: [':'] :: (tokens j ++ memberTokens members)).length ≤ n + 1)
    (h : Spaced (writeString key :: [':'] :: (tokens j ++ (memberTokens members ++ ts))) cs) :
    ∃ rest, readMembers (n + 1) cs = some ((key, j) :: members, rest) ∧ Spaced ts rest := by
  rw [List.length_cons, List.length_cons, List.length_append] at hlen
  rw [writeString_eq_cons] at h
  obtain ⟨r₁, hquote, hr₁⟩ := h.skip (by decide)
  obtain ⟨r₂, hcolon, hr₂⟩ := hr₁.skip (by decide)
  obtain ⟨r₃, hvalue, hr₃⟩ := ih.value hj (by omega) (ends_memberTokens members ts) hr₂
  cases members with
  | nil =>
    obtain ⟨rest, hskip, hrest⟩ := hr₃.skip (by decide)
    exact ⟨rest, by simp [readMembers, hquote, readString_append, hcolon, hvalue, hskip], hrest⟩
  | cons m members =>
    obtain ⟨key', j'⟩ := m
    simp only [memberTokens, List.length_cons] at hlen
    simp only [memberTokens, List.cons_append, List.append_assoc] at hr₃
    obtain ⟨r₄, hskip, hr₄⟩ := hr₃.skip (by decide)
    obtain ⟨rest, hread, hrest⟩ :=
      ih.members hmembers.1 hmembers.2 (by simp only [List.length_cons]; omega) hr₄
    refine ⟨rest, ?_, hrest⟩
    simp [readMembers, hquote, readString_append, hcolon, hvalue, hskip, hread]

theorem readsBack (n : Nat) : ReadsBack n := by
  induction n with
  | zero => exact readsBack_zero
  | succ n ih => exact ⟨ih.value_succ, ih.items_succ, ih.members_succ⟩

/-! ## Whole documents -/

theorem Spaced.length_le {ts : List (List Char)} {cs : List Char} (h : Spaced ts cs)
    (hne : [] ∉ ts) : ts.length ≤ cs.length := by
  induction h with
  | done => simp
  | @token space t ts rest _ _ ih =>
    rw [List.mem_cons, not_or] at hne
    have hrest := ih hne.2
    have ht := List.length_pos_iff.mpr (Ne.symm hne.1)
    simp only [List.length_cons, List.length_append]
    omega

mutual

theorem nil_notMem_tokens : ∀ {j : Json}, j.WellFormed → [] ∉ tokens j
  | null, _ => by simp [tokens]
  | bool true, _ => by simp [tokens]
  | bool false, _ => by simp [tokens]
  | number n, h => by
    obtain ⟨c, cs, hcs, -⟩ := write_eq_cons h
    simp [tokens, hcs]
  | string s, _ => by simp [tokens, writeString_ne_nil]
  | array [], _ => by simp [tokens]
  | array (j :: rest), h => by
    simp [tokens, nil_notMem_tokens h.1, nil_notMem_itemTokens h.2]
  | object [], _ => by simp [tokens]
  | object ((key, j) :: rest), h => by
    simp [tokens, writeString_ne_nil, nil_notMem_tokens h.1, nil_notMem_memberTokens h.2]

theorem nil_notMem_itemTokens : ∀ {items : List Json}, WellFormedItems items → [] ∉ itemTokens items
  | [], _ => by simp [itemTokens]
  | j :: rest, h => by
    simp [itemTokens, nil_notMem_tokens h.1, nil_notMem_itemTokens h.2]

theorem nil_notMem_memberTokens : ∀ {members : List (Option String × Json)},
    WellFormedMembers members → [] ∉ memberTokens members
  | [], _ => by simp [memberTokens]
  | (key, j) :: rest, h => by
    simp [memberTokens, writeString_ne_nil, nil_notMem_tokens h.1, nil_notMem_memberTokens h.2]

end

/-- A document is read back from its tokens, with any space around them. -/
theorem ofChars?_of_spaced {j : Json} {cs : List Char} (hj : j.WellFormed)
    (h : Spaced (tokens j) cs) : ofChars? cs = some j := by
  have hlen := h.length_le (nil_notMem_tokens hj)
  rw [← List.append_nil (tokens j)] at h
  obtain ⟨rest, hread, hrest⟩ :=
    (readsBack (2 * cs.length + 2)).value hj (by omega) (by simp [Ends]) h
  have hend : skipSpace rest = [] := by
    cases hrest with
    | done hspace => simpa [skipSpace] using skipSpace_append hspace []
  simp [ofChars?, hread, hend]

theorem ofString?_toText {j : Json} (hj : j.WellFormed) : ofString? j.toText = some j := by
  rw [ofString?, toText, String.toList_ofList, ← flatten_tokens]
  exact ofChars?_of_spaced hj (spaced_flatten _)

end Credentials.Json
