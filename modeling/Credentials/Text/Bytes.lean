/-!
# Text and its bytes

Strings live in files, environment variables and replies of native libraries as UTF-8. `ofBytes?` is
the strict reading, `toBytes` writes, and `ofBytesLossy` is the reading for display: every maximal
piece that cannot be part of a character becomes U+FFFD, and a text becomes itself
(`ofBytesLossy_toBytes`).
-/

namespace Credentials.Text

/-- The UTF-8 form of a text. -/
def toBytes (s : String) : List UInt8 :=
  s.toUTF8.data.toList

/-- The text that the bytes encode, if they are well-formed UTF-8. -/
def ofBytes? (bytes : List UInt8) : Option String :=
  String.fromUTF8? ⟨bytes.toArray⟩

theorem ofBytes?_toBytes (s : String) : ofBytes? (toBytes s) = some s := by
  have h : (ByteArray.mk s.toByteArray.data).IsValidUTF8 := s.isValidUTF8
  simp [ofBytes?, toBytes, String.fromUTF8?, String.fromUTF8, h]

/-- Only the UTF-8 form of a text is read as that text. -/
theorem toBytes_of_ofBytes? {bytes : List UInt8} {s : String} (h : ofBytes? bytes = some s) :
    toBytes s = bytes := by
  simp only [ofBytes?, String.fromUTF8?] at h
  split at h
  · cases h
    simp [toBytes, String.fromUTF8]
  · cases h

theorem ofBytes?_eq_some_iff {bytes : List UInt8} {s : String} :
    ofBytes? bytes = some s ↔ bytes = toBytes s :=
  ⟨fun h => (toBytes_of_ofBytes? h).symm, fun h => h ▸ ofBytes?_toBytes s⟩

theorem toBytes_eq_flatMap (s : String) : toBytes s = s.toList.flatMap String.utf8EncodeChar := by
  conv => lhs; rw [← String.ofList_toList (s := s)]
  rw [toBytes, String.toUTF8_eq_toByteArray, String.toByteArray_ofList, List.utf8Encode,
    List.data_toByteArray]

theorem zero_mem_utf8EncodeChar {c : Char} (h : 0 ∈ String.utf8EncodeChar c) : c = '\x00' := by
  have hzero : ∀ n, (0 : UInt8) = UInt8.ofNat n ↔ n % 256 = 0 := by
    intro n
    rw [← UInt8.toNat_inj, UInt8.toNat_ofNat']
    exact eq_comm
  have hsize : c.val.toNat = 0 := by
    simp only [String.utf8EncodeChar] at h
    -- the bytes of a longer form have a bit set that marks them
    split at h
    · simp only [List.mem_cons, List.not_mem_nil, or_false, hzero] at h
      omega
    · split at h
      · simp only [List.mem_cons, List.not_mem_nil, or_false, hzero] at h
        omega
      · split at h
        all_goals
          simp only [List.mem_cons, List.not_mem_nil, or_false, hzero] at h
          omega
  exact Char.toNat_inj.mp hsize

theorem zero_notMem_toBytes {s : String} (h : '\x00' ∉ s.toList) : 0 ∉ toBytes s := by
  rw [toBytes_eq_flatMap]
  intro hzero
  obtain ⟨c, hc, hbyte⟩ := List.mem_flatMap.mp hzero
  rw [zero_mem_utf8EncodeChar hbyte] at hc
  exact h hc

/-! ## Reading for display -/

/-- A character that has been begun: how many bytes it still needs, the range the next one must be
in, and the bits collected so far. -/
structure Begun where
  owed : Nat
  low : UInt8
  high : UInt8
  bits : Nat

/-- What the first byte of a character starts: `inl` a complete character, `inr` one that needs
more bytes. A byte that starts nothing stands for U+FFFD. -/
def begin (b : UInt8) : Char ⊕ Begun :=
  if b < 0x80 then .inl (Char.ofNat b.toNat)
  else if 0xC2 ≤ b ∧ b ≤ 0xDF then .inr ⟨1, 0x80, 0xBF, b.toNat % 32⟩
  else if b = 0xE0 then .inr ⟨2, 0xA0, 0xBF, 0⟩
  else if b = 0xED then .inr ⟨2, 0x80, 0x9F, 13⟩
  else if 0xE1 ≤ b ∧ b ≤ 0xEF then .inr ⟨2, 0x80, 0xBF, b.toNat % 16⟩
  else if b = 0xF0 then .inr ⟨3, 0x90, 0xBF, 0⟩
  else if 0xF1 ≤ b ∧ b ≤ 0xF3 then .inr ⟨3, 0x80, 0xBF, b.toNat % 8⟩
  else if b = 0xF4 then .inr ⟨3, 0x80, 0x8F, 4⟩
  else .inl '\uFFFD'

/-- The characters of a byte string, given the character that has been begun, if any. -/
def lossy : Option Begun → List UInt8 → List Char
  | none, [] => []
  | some _, [] => ['\uFFFD']
  | none, b :: rest =>
    match begin b with
    | .inl c => c :: lossy none rest
    | .inr s => lossy (some s) rest
  | some s, b :: rest =>
    if s.low ≤ b ∧ b ≤ s.high then
      let bits := s.bits * 64 + b.toNat % 64
      if s.owed = 1 then Char.ofNat bits :: lossy none rest
      else lossy (some ⟨s.owed - 1, 0x80, 0xBF, bits⟩) rest
    else
      match begin b with
      | .inl c => '\uFFFD' :: c :: lossy none rest
      | .inr t => '\uFFFD' :: lossy (some t) rest

/-- The text to show for bytes that need not be well-formed. -/
def ofBytesLossy (bytes : List UInt8) : String :=
  String.ofList (lossy none bytes)

theorem lossy_last {low high b : UInt8} {bits : Nat} (rest : List UInt8) (h : low ≤ b ∧ b ≤ high) :
    lossy (some ⟨1, low, high, bits⟩) (b :: rest) =
      Char.ofNat (bits * 64 + b.toNat % 64) :: lossy none rest := by
  rw [lossy, if_pos h]
  rfl

theorem lossy_more {low high b : UInt8} {owed bits : Nat} (rest : List UInt8) (h : low ≤ b ∧ b ≤ high) :
    lossy (some ⟨owed + 2, low, high, bits⟩) (b :: rest) =
      lossy (some ⟨owed + 1, 0x80, 0xBF, bits * 64 + b.toNat % 64⟩) rest := by
  rw [lossy, if_pos h]
  exact if_neg (by simp)

theorem lossy_begun {b : UInt8} {s : Begun} (rest : List UInt8) (h : begin b = .inr s) :
    lossy none (b :: rest) = lossy (some s) rest := by
  rw [lossy, h]

/-- A byte after the first one carries six bits. -/
theorem toNat_tail (n : Nat) : (UInt8.ofNat (n % 64 + 128)).toNat % 64 = n % 64 := by
  rw [UInt8.toNat_ofNat']
  omega

theorem within_tail (n : Nat) :
    (0x80 : UInt8) ≤ UInt8.ofNat (n % 64 + 128) ∧ UInt8.ofNat (n % 64 + 128) ≤ 0xBF := by
  simp only [UInt8.le_iff_toNat_le, UInt8.toNat_ofNat', UInt8.reduceToNat]
  omega

theorem begin_two {n : Nat} (h : 0x80 ≤ n) (h' : n ≤ 0x7FF) :
    begin (UInt8.ofNat (n / 64 % 32 + 192)) = .inr ⟨1, 0x80, 0xBF, n / 64⟩ := by
  have hlead : (UInt8.ofNat (n / 64 % 32 + 192)).toNat = n / 64 + 192 := by
    rw [UInt8.toNat_ofNat']
    omega
  generalize UInt8.ofNat (n / 64 % 32 + 192) = b at hlead
  simp only [begin, UInt8.lt_iff_toNat_lt, UInt8.le_iff_toNat_le, hlead, UInt8.reduceToNat]
  rw [if_neg (by omega), if_pos (by omega)]
  congr 2
  omega

theorem begin_three {n : Nat} (h : 0x800 ≤ n) (h' : n ≤ 0xFFFF) (hsurrogate : n < 0xD800 ∨ 0xDFFF < n) :
    ∃ low high, begin (UInt8.ofNat (n / 4096 % 16 + 224)) = .inr ⟨2, low, high, n / 4096⟩ ∧
      low ≤ UInt8.ofNat (n / 64 % 64 + 128) ∧ UInt8.ofNat (n / 64 % 64 + 128) ≤ high := by
  have hlead : (UInt8.ofNat (n / 4096 % 16 + 224)).toNat = n / 4096 + 224 := by
    rw [UInt8.toNat_ofNat']
    omega
  generalize UInt8.ofNat (n / 4096 % 16 + 224) = b at hlead
  simp only [begin, ← UInt8.toNat_inj, UInt8.lt_iff_toNat_lt, UInt8.le_iff_toNat_le, hlead,
    UInt8.toNat_ofNat', UInt8.reduceToNat]
  rw [if_neg (by omega), if_neg (by omega)]
  -- after E0 the next byte rules out what fits into two bytes, after ED it rules out surrogates
  by_cases hE0 : n / 4096 + 224 = 224
  · rw [if_pos hE0]
    refine ⟨0xA0, 0xBF, ?_, ?_⟩
    · congr 2
      omega
    · simp only [UInt8.reduceToNat]
      omega
  by_cases hED : n / 4096 + 224 = 237
  · rw [if_neg hE0, if_pos hED]
    refine ⟨0x80, 0x9F, ?_, ?_⟩
    · congr 2
      omega
    · simp only [UInt8.reduceToNat]
      omega
  · rw [if_neg hE0, if_neg hED, if_pos (by omega)]
    refine ⟨0x80, 0xBF, ?_, ?_⟩
    · congr 2
      omega
    · simp only [UInt8.reduceToNat]
      omega

theorem begin_four {n : Nat} (h : 0x10000 ≤ n) (h' : n < 0x110000) :
    ∃ low high, begin (UInt8.ofNat (n / 262144 % 8 + 240)) = .inr ⟨3, low, high, n / 262144⟩ ∧
      low ≤ UInt8.ofNat (n / 4096 % 64 + 128) ∧ UInt8.ofNat (n / 4096 % 64 + 128) ≤ high := by
  have hlead : (UInt8.ofNat (n / 262144 % 8 + 240)).toNat = n / 262144 + 240 := by
    rw [UInt8.toNat_ofNat']
    omega
  generalize UInt8.ofNat (n / 262144 % 8 + 240) = b at hlead
  simp only [begin, ← UInt8.toNat_inj, UInt8.lt_iff_toNat_lt, UInt8.le_iff_toNat_le, hlead,
    UInt8.toNat_ofNat', UInt8.reduceToNat]
  rw [if_neg (by omega), if_neg (by omega), if_neg (by omega), if_neg (by omega), if_neg (by omega)]
  -- after F0 the next byte rules out what fits into three bytes, after F4 what is no character at all
  by_cases hF0 : n / 262144 + 240 = 240
  · rw [if_pos hF0]
    refine ⟨0x90, 0xBF, ?_, ?_⟩
    · congr 2
      omega
    · simp only [UInt8.reduceToNat]
      omega
  by_cases hF4 : n / 262144 + 240 = 244
  · rw [if_neg hF0, if_neg (by omega), if_pos hF4]
    refine ⟨0x80, 0x8F, ?_, ?_⟩
    · congr 2
      omega
    · simp only [UInt8.reduceToNat]
      omega
  · rw [if_neg hF0, if_pos (by omega)]
    refine ⟨0x80, 0xBF, ?_, ?_⟩
    · congr 2
      omega
    · simp only [UInt8.reduceToNat]
      omega

theorem lossy_utf8EncodeChar (c : Char) (rest : List UInt8) :
    lossy none (String.utf8EncodeChar c ++ rest) = c :: lossy none rest := by
  have hvalid : c.val.toNat < 0xD800 ∨ 0xDFFF < c.val.toNat ∧ c.val.toNat < 0x110000 := c.valid
  have hchar : ∀ {n}, n = c.val.toNat → Char.ofNat n = c := by
    rintro n rfl
    exact Char.ofNat_toNat c
  simp only [String.utf8EncodeChar]
  split
  · rename_i hone
    have hbyte : (UInt8.ofNat c.val.toNat).toNat = c.val.toNat := by
      rw [UInt8.toNat_ofNat']
      omega
    have hbegin : begin (UInt8.ofNat c.val.toNat) = .inl c := by
      rw [begin, if_pos, hbyte, hchar rfl]
      simp only [UInt8.lt_iff_toNat_lt, hbyte, UInt8.reduceToNat]
      omega
    rw [List.singleton_append, lossy, hbegin]
  · split
    · rename_i hone htwo
      simp only [List.cons_append, List.nil_append]
      rw [lossy_begun _ (begin_two (by omega) htwo), lossy_last _ (within_tail _), toNat_tail, hchar]
      omega
    · split
      · rename_i hone htwo hthree
        obtain ⟨low, high, hbegin, hsecond⟩ := begin_three (by omega) hthree (by omega)
        simp only [List.cons_append, List.nil_append]
        rw [lossy_begun _ hbegin, lossy_more _ hsecond, lossy_last _ (within_tail _), toNat_tail, toNat_tail,
          hchar]
        omega
      · rename_i hone htwo hthree
        obtain ⟨low, high, hbegin, hsecond⟩ := begin_four (n := c.val.toNat) (by omega) (by omega)
        simp only [List.cons_append, List.nil_append]
        rw [lossy_begun _ hbegin, lossy_more _ hsecond, lossy_more _ (within_tail _),
          lossy_last _ (within_tail _), toNat_tail, toNat_tail, toNat_tail, hchar]
        omega

/-- A text is shown as it is. -/
theorem ofBytesLossy_toBytes (s : String) : ofBytesLossy (toBytes s) = s := by
  have hchars : ∀ cs : List Char, lossy none (cs.flatMap String.utf8EncodeChar) = cs := by
    intro cs
    induction cs with
    | nil => rfl
    | cons c cs ih => rw [List.flatMap_cons, lossy_utf8EncodeChar, ih]
  rw [ofBytesLossy, toBytes_eq_flatMap, hchars, String.ofList_toList]

end Credentials.Text
