import Credentials.Json.Reader
import Credentials.Json.Writer
import Credentials.Proofs.Decimal.Numerals

/-!
# Numbers and strings read back

The reader takes a number or a string that was written, whatever follows, and stops where it ends. A
number has to end there (`NumberEnds`): it would go on through a digit, a point or an exponent mark. A
string ends at its closing quote.
-/

namespace Credentials.Json

open Decimal (Numeral digitChar natChars digitsOf ofDigitList)

/-! ## Digits -/

theorem digit?_digitChar {d : Nat} (h : d < 10) : digit? (digitChar d) = some d := by
  have hall : ∀ d < 10, digit? (digitChar d) = some d := by decide
  exact hall d h

theorem digitChar_ne {d : Nat} {c : Char} (hd : d < 10) (hc : digit? c = none) :
    digitChar d ≠ c := by
  rintro rfl
  rw [digit?_digitChar hd] at hc
  cases hc

/-- The text does not begin with a digit. -/
def DigitsEnd (cs : List Char) : Prop := ∀ c ∈ cs.head?, digit? c = none

theorem takeDigits_of_digitsEnd {cs : List Char} (h : DigitsEnd cs) : takeDigits cs = ([], cs) := by
  cases cs with
  | nil => rfl
  | cons c rest => simp [takeDigits, h c rfl]

theorem takeDigits_append {ds : List Nat} {rest : List Char} (hds : ∀ d ∈ ds, d < 10)
    (hrest : DigitsEnd rest) : takeDigits (ds.map digitChar ++ rest) = (ds, rest) := by
  induction ds with
  | nil => exact takeDigits_of_digitsEnd hrest
  | cons d ds ih =>
    have htail := ih fun d' hd' => hds d' (by simp [hd'])
    simp only [List.map_cons, List.cons_append, takeDigits, digit?_digitChar (hds d (by simp)), htail]

/-! ## Numbers -/

/-- A number does not go on at the front of the text. -/
def NumberEnds (cs : List Char) : Prop :=
  ∀ c ∈ cs.head?, digit? c = none ∧ c ≠ '.' ∧ c ≠ 'e' ∧ c ≠ 'E'

theorem ends_of_isSpace {c : Char} (h : isSpace c) :
    digit? c = none ∧ c ≠ '.' ∧ c ≠ 'e' ∧ c ≠ 'E' := by
  have hcases : ((c = ' ' ∨ c = '\n') ∨ c = '\t') ∨ c = '\r' := by simpa [isSpace] using h
  rcases hcases with ((rfl | rfl) | rfl) | rfl <;> decide

theorem NumberEnds.digitsEnd {cs : List Char} (h : NumberEnds cs) : DigitsEnd cs :=
  fun c hc => (h c hc).1

theorem readExponentDigits_natChars (negative : Bool) (n : Nat) {rest : List Char}
    (hrest : DigitsEnd rest) :
    readExponentDigits negative (natChars n ++ rest)
      = some (some (if negative then -Int.ofNat n else Int.ofNat n), rest) := by
  have htake : takeDigits (natChars n ++ rest) = (digitsOf n, rest) :=
    takeDigits_append (fun _ => Decimal.lt_of_mem_digitsOf) hrest
  obtain ⟨d, ds, hds⟩ := List.exists_cons_of_ne_nil (Decimal.digitsOf_ne_nil n)
  rw [hds] at htake
  simp only [readExponentDigits, htake]
  rw [← hds, Decimal.ofDigitList_digitsOf]

theorem readExponent_append (exponent : Option Int) {rest : List Char} (hrest : NumberEnds rest) :
    readExponent (Numeral.exponentChars true exponent ++ rest) = some (exponent, rest) := by
  cases exponent with
  | none =>
    cases rest with
    | nil => rfl
    | cons c rest =>
      obtain ⟨-, -, he, hE⟩ := hrest c rfl
      simp [Numeral.exponentChars, readExponent, he, hE]
  | some e =>
    by_cases h : 0 ≤ e
    · have hint : Decimal.intChars e = natChars e.natAbs := by
        rw [Decimal.intChars, if_neg (by omega)]
      simp only [Numeral.exponentChars, h, hint, decide_true, Bool.and_self, if_true,
        List.cons_append, List.nil_append, readExponent, true_or]
      rw [readExponentDigits_natChars _ _ hrest.digitsEnd]
      simp only [Bool.false_eq_true, if_false, Int.ofNat_eq_natCast, Int.natAbs_of_nonneg h]
    · have hint : Decimal.intChars e = '-' :: natChars e.natAbs := by
        rw [Decimal.intChars, if_pos (by omega)]
      simp only [Numeral.exponentChars, h, hint, decide_false, Bool.false_and, Bool.false_eq_true,
        if_false, List.cons_append, List.nil_append, readExponent, true_or, if_true]
      rw [readExponentDigits_natChars _ _ hrest.digitsEnd]
      have : -Int.ofNat e.natAbs = e := by simp only [Int.ofNat_eq_natCast]; omega
      simp only [this, if_true]

def fractionChars (fraction : List Nat) : List Char :=
  if fraction = [] then [] else '.' :: fraction.map digitChar

theorem readFraction_append {fraction : List Nat} {rest : List Char} (hlt : ∀ d ∈ fraction, d < 10)
    (hrest : DigitsEnd rest) (hpoint : '.' ∉ rest.head?) :
    readFraction (fractionChars fraction ++ rest) = some (fraction, rest) := by
  cases fraction with
  | nil =>
    unfold fractionChars readFraction
    split
    · simp_all
    · simp
  | cons d ds =>
    have htake := takeDigits_append hlt hrest
    simp only [fractionChars, reduceCtorEq, if_false, List.cons_append, readFraction, htake]

theorem digitsEnd_exponentChars (exponent : Option Int) {rest : List Char} (hrest : NumberEnds rest) :
    DigitsEnd (Numeral.exponentChars true exponent ++ rest) := by
  cases exponent with
  | none => exact hrest.digitsEnd
  | some e =>
    rintro c ⟨⟩
    decide

theorem readUnsigned_append {n : Numeral} (h : n.WellFormed) {rest : List Char}
    (hrest : NumberEnds rest) :
    readUnsigned n.negative (n.whole.map digitChar ++
      (fractionChars n.fraction ++ (Numeral.exponentChars true n.exponent ++ rest))) = some (n, rest) := by
  have hexponent := readExponent_append n.exponent hrest
  have hfraction := readFraction_append h.fraction_lt (digitsEnd_exponentChars n.exponent hrest)
    (by
      cases n.exponent with
      | none => exact fun hpoint => (hrest '.' hpoint).2.1 rfl
      | some e => simp [Numeral.exponentChars])
  have hend : DigitsEnd (fractionChars n.fraction ++ (Numeral.exponentChars true n.exponent ++ rest)) := by
    unfold fractionChars
    split
    · exact digitsEnd_exponentChars n.exponent hrest
    · rintro c ⟨⟩
      decide
  have hwhole := takeDigits_append h.whole_lt hend
  unfold readUnsigned
  rw [hwhole]
  split
  · rename_i heq
    exact absurd (congrArg Prod.fst heq) h.whole_ne_nil
  · rename_i d ds r heq
    have hlist : n.whole = 0 :: d :: ds := congrArg Prod.fst heq
    have hzero := h.leading_zero (by rw [hlist]; rfl)
    rw [hlist] at hzero
    cases hzero
  · rename_i heq
    cases heq
    simp only [hfraction, hexponent]

theorem write_eq_cons {n : Numeral} (h : n.WellFormed) :
    ∃ c cs, n.write true = c :: cs ∧ (c = '-' ∨ (digit? c).isSome) := by
  cases hneg : n.negative with
  | true => exact ⟨'-', _, by rw [Numeral.write, hneg]; rfl, .inl rfl⟩
  | false =>
    obtain ⟨d, ds, hds⟩ := List.exists_cons_of_ne_nil h.whole_ne_nil
    have hd : d < 10 := h.whole_lt d (by simp [hds])
    exact ⟨digitChar d, _, by rw [Numeral.write, hneg, hds]; rfl, .inr (by simp [digit?_digitChar hd])⟩

theorem readNumeral_append {n : Numeral} (h : n.WellFormed) {rest : List Char}
    (hrest : NumberEnds rest) : readNumeral (n.write true ++ rest) = some (n, rest) := by
  have hunsigned := readUnsigned_append h hrest
  have hwrite : n.write true ++ rest = (if n.negative then ['-'] else []) ++
      (n.whole.map digitChar ++
        (fractionChars n.fraction ++ (Numeral.exponentChars true n.exponent ++ rest))) := by
    simp [Numeral.write, fractionChars]
  rw [hwrite]
  cases hneg : n.negative with
  | true =>
    rw [hneg] at hunsigned
    exact hunsigned
  | false =>
    rw [hneg] at hunsigned
    obtain ⟨d, ds, hds⟩ := List.exists_cons_of_ne_nil h.whole_ne_nil
    have hne : digitChar d ≠ '-' := digitChar_ne (h.whole_lt d (by simp [hds])) (by decide)
    rw [hds] at hunsigned ⊢
    simp only [Bool.false_eq_true, if_false, List.nil_append, List.map_cons, List.cons_append]
    unfold readNumeral
    split
    · rename_i heq
      exact absurd (List.cons.inj heq).1 hne
    · exact hunsigned

/-! ## Strings -/

theorem hexDigit?_hexChar {k : Nat} (h : k < 16) : hexDigit? (hexChar k) = some k := by
  have hall : ∀ k < 16, hexDigit? (hexChar k) = some k := by decide
  exact hall k h

theorem hex4?_hexChar {k : Nat} (h : k < 0x20) :
    hex4? '0' '0' (hexChar (k / 16)) (hexChar (k % 16)) = some k := by
  have hhigh := hexDigit?_hexChar (k := k / 16) (by omega)
  have hlow := hexDigit?_hexChar (k := k % 16) (by omega)
  have hzero : hexDigit? '0' = some 0 := by decide
  simp only [hex4?, hhigh, hlow, hzero, Option.some.injEq]
  omega

theorem readPieces_shortEscape {e c : Char} (h : shortEscape? e = some c) (rest : List Char) :
    readPieces ('\\' :: e :: rest) = (readPieces rest).map fun (ps, r) => (.char c :: ps, r) := by
  have hu : e ≠ 'u' := by
    rintro rfl
    cases h
  rw [readPieces, h]
  · cases readPieces rest <;> rfl
  · rintro a b c d r rfl
    exact absurd rfl hu

theorem readPieces_control {c : Char} (h : c.toNat < 0x20) (rest : List Char) :
    readPieces ('\\' :: 'u' :: '0' :: '0' :: hexChar (c.toNat / 16) :: hexChar (c.toNat % 16) :: rest)
      = (readPieces rest).map fun (ps, r) => (.char c :: ps, r) := by
  have hunit : Piece.ofUnit c.toNat = .char c := by
    rw [Piece.ofUnit, if_neg (by omega), Char.ofNat_toNat]
  rw [readPieces, hex4?_hexChar h, ← hunit]
  cases readPieces rest <;> rfl

theorem readPieces_plain {c : Char} (hquote : c ≠ '"') (hslash : c ≠ '\\') (h : ¬ c.toNat < 0x20)
    (rest : List Char) :
    readPieces (c :: rest) = (readPieces rest).map fun (ps, r) => (.char c :: ps, r) := by
  rw [readPieces, if_neg (by simp [h, hslash])]
  · cases readPieces rest <;> rfl
  all_goals simp_all

theorem readPieces_escape (c : Char) (rest : List Char) :
    readPieces (escape c ++ rest) = (readPieces rest).map fun (ps, r) => (.char c :: ps, r) := by
  unfold escape
  iterate 7
    split
    · subst_vars
      exact readPieces_shortEscape rfl rest
  split
  · exact readPieces_control ‹_› rest
  · exact readPieces_plain ‹_› ‹_› ‹_› rest

theorem readPieces_append (cs rest : List Char) :
    readPieces (cs.flatMap escape ++ '"' :: rest) = some (cs.map .char, rest) := by
  induction cs with
  | nil => rfl
  | cons c cs ih =>
    rw [List.flatMap_cons, List.append_assoc, readPieces_escape, ih]
    rfl

theorem joinPieces_chars (cs : List Char) : joinPieces (cs.map .char) = some cs := by
  induction cs with
  | nil => rfl
  | cons c cs ih => simp [joinPieces, ih]

theorem readString_append (s : Option String) (rest : List Char) :
    readString ((writeString s).tail ++ rest) = some (s, rest) := by
  cases s with
  | none => rfl
  | some s =>
    simp only [writeString, List.tail_cons, List.append_assoc, List.singleton_append, readString,
      readPieces_append, Option.map_some, joinPieces_chars, String.ofList_toList]

theorem writeString_eq_cons (s : Option String) : writeString s = '"' :: (writeString s).tail := by
  cases s <;> rfl

theorem writeString_ne_nil (s : Option String) : writeString s ≠ [] := by
  rw [writeString_eq_cons]
  exact List.cons_ne_nil _ _

end Credentials.Json
