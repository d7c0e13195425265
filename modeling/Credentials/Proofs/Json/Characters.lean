import Credentials.Proofs.Json.Documents

/-!
# Written documents hold no control characters

Every character below U+0020 is escaped in a string, and nothing else of a document is one. So a document
that was written stands in a text that ends at U+0000, whatever characters its strings are of
(`nul_notMem_toText`).
-/

namespace Credentials.Json

open Decimal (Numeral digitChar)

/-- No character of the text is below U+0020. -/
def ControlFree (cs : List Char) : Prop := ∀ c ∈ cs, 0x20 ≤ c.toNat

-- named, as a statement about all characters could also be decided by going through all of Unicode
instance (cs : List Char) : Decidable (ControlFree cs) :=
  List.decidableBAll (fun c : Char => 0x20 ≤ c.toNat) cs

theorem controlFree_nil : ControlFree [] := by
  intro c hc
  cases hc

theorem controlFree_cons {c : Char} {cs : List Char} (hc : 0x20 ≤ c.toNat) (hcs : ControlFree cs) :
    ControlFree (c :: cs) := by
  intro d hd
  rcases List.mem_cons.mp hd with rfl | hd
  · exact hc
  · exact hcs d hd

theorem controlFree_append {cs ds : List Char} (hcs : ControlFree cs) (hds : ControlFree ds) :
    ControlFree (cs ++ ds) := by
  intro c hc
  rcases List.mem_append.mp hc with hc | hc
  · exact hcs c hc
  · exact hds c hc

/-! ## Numbers -/

theorem controlFree_digits {ds : List Nat} (h : ∀ d ∈ ds, d < 10) : ControlFree (ds.map digitChar) := by
  have hall : ∀ d < 10, 0x20 ≤ (digitChar d).toNat := by decide
  intro c hc
  obtain ⟨d, hd, rfl⟩ := List.mem_map.mp hc
  exact hall d (h d hd)

theorem controlFree_natChars (n : Nat) : ControlFree (Decimal.natChars n) :=
  controlFree_digits fun _ => Decimal.lt_of_mem_digitsOf

theorem controlFree_exponentChars (exponent : Option Int) :
    ControlFree (Numeral.exponentChars true exponent) := by
  cases exponent with
  | none => exact controlFree_nil
  | some e =>
    unfold Numeral.exponentChars Decimal.intChars
    refine controlFree_cons (by decide) (controlFree_append ?_ ?_)
    · split <;> decide
    · split
      · exact controlFree_cons (by decide) (controlFree_natChars _)
      · exact controlFree_natChars _

theorem controlFree_numeral {n : Numeral} (h : n.WellFormed) : ControlFree (n.write true) := by
  unfold Numeral.write
  refine controlFree_append (controlFree_append (controlFree_append ?_ ?_) ?_) ?_
  · split <;> decide
  · exact controlFree_digits h.whole_lt
  · split
    · exact controlFree_nil
    · exact controlFree_cons (by decide) (controlFree_digits h.fraction_lt)
  · exact controlFree_exponentChars n.exponent

/-! ## Strings -/

theorem controlFree_escape (c : Char) : ControlFree (escape c) := by
  have hhex : ∀ n < 32, 0x20 ≤ (hexChar (n / 16)).toNat ∧ 0x20 ≤ (hexChar (n % 16)).toNat := by
    decide
  unfold escape
  iterate 7
    split
    · decide
  split
  · rename_i hcontrol
    have hmark : ControlFree ['\\', 'u', '0', '0'] := by decide
    obtain ⟨hhigh, hlow⟩ := hhex _ hcontrol
    exact controlFree_append hmark (controlFree_cons hhigh (controlFree_cons hlow controlFree_nil))
  · exact controlFree_cons (by omega) controlFree_nil

theorem controlFree_writeString (s : Option String) : ControlFree (writeString s) := by
  cases s with
  | none => decide
  | some s =>
    refine controlFree_cons (by decide) (controlFree_append ?_ ?_)
    · intro c hc
      obtain ⟨d, -, hd⟩ := List.mem_flatMap.mp hc
      exact controlFree_escape d c hd
    · decide

/-! ## Documents -/

mutual

theorem controlFree_write : ∀ {j : Json}, j.WellFormed → ControlFree (write j)
  | null, _ => by decide
  | bool true, _ => by decide
  | bool false, _ => by decide
  | number _, h => controlFree_numeral h
  | string s, _ => controlFree_writeString s
  | array [], _ => by decide
  | array (_ :: _), h =>
    controlFree_cons (by decide) (controlFree_append (controlFree_write h.1) (controlFree_writeItems h.2))
  | object [], _ => by decide
  | object ((key, _) :: _), h =>
    controlFree_cons (by decide) (controlFree_append (controlFree_writeString key)
      (controlFree_cons (by decide)
        (controlFree_append (controlFree_write h.1) (controlFree_writeMembers h.2))))

theorem controlFree_writeItems : ∀ {items : List Json}, WellFormedItems items →
    ControlFree (writeItems items)
  | [], _ => by decide
  | _ :: _, h =>
    controlFree_cons (by decide) (controlFree_append (controlFree_write h.1) (controlFree_writeItems h.2))

theorem controlFree_writeMembers : ∀ {members : List (Option String × Json)},
    WellFormedMembers members → ControlFree (writeMembers members)
  | [], _ => by decide
  | (key, _) :: _, h =>
    controlFree_cons (by decide) (controlFree_append (controlFree_writeString key)
      (controlFree_cons (by decide)
        (controlFree_append (controlFree_write h.1) (controlFree_writeMembers h.2))))

end

theorem nul_notMem_toText {j : Json} (h : j.WellFormed) : '\x00' ∉ j.toText.toList := by
  intro hnul
  rw [toText, String.toList_ofList] at hnul
  exact absurd (controlFree_write h _ hnul) (by decide)

end Credentials.Json
