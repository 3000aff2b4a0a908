import Vwfl.Rust.Utf8

namespace Rust

/-- The bytes of one character. -/
def charBytes (char : Char) : List UInt8 :=
  let code := char.toNat
  if code < 0x80 then [UInt8.ofNat code]
  else if code < 0x800 then [UInt8.ofNat (0xC0 + code / 64), UInt8.ofNat (0x80 + code % 64)]
  else if code < 0x10000 then
    [UInt8.ofNat (0xE0 + code / 4096), UInt8.ofNat (0x80 + code / 64 % 64), UInt8.ofNat (0x80 + code % 64)]
  else
    [UInt8.ofNat (0xF0 + code / 262144), UInt8.ofNat (0x80 + code / 4096 % 64), UInt8.ofNat (0x80 + code / 64 % 64),
      UInt8.ofNat (0x80 + code % 64)]

/-- `text.as_bytes()`. -/
def as_bytes (text : String) : List UInt8 := text.toList.flatMap charBytes

private theorem toNat_byte {value : Nat} (h : value < 256) : (UInt8.ofNat value).toNat = value := by
  rw [UInt8.toNat_ofNat']
  exact Nat.mod_eq_of_lt h

private theorem isCont_of_toNat {byte : UInt8} {digit : Nat} (hbyte : byte.toNat = 0x80 + digit) (hdigit : digit < 64) :
    isCont byte = true ∧ cont6 byte = digit := by
  simp only [isCont, cont6, Bool.and_eq_true, decide_eq_true_eq, UInt8.le_iff_toNat_le, UInt8.reduceToNat]
  omega

private theorem decodeChar_two {lead first : UInt8} {high low : Nat} (hlead : lead.toNat = 0xC0 + high)
    (hhigh : 2 ≤ high ∧ high < 32) (hfirst : first.toNat = 0x80 + low) (hlow : low < 64) (rest : List UInt8) :
    decodeChar lead (first :: rest) = (Char.ofNat (high * 64 + low), 2) := by
  obtain ⟨hcont, hdigit⟩ := isCont_of_toNat hfirst hlow
  have hone : ¬ lead < 0x80 := by
    simp only [UInt8.lt_iff_toNat_lt, UInt8.reduceToNat]
    omega
  have htwo : (decide (0xC2 ≤ lead) && decide (lead ≤ 0xDF)) = true := by
    simp only [Bool.and_eq_true, decide_eq_true_eq, UInt8.le_iff_toNat_le, UInt8.reduceToNat]
    omega
  have hmod : lead.toNat % 32 = high := by omega
  unfold decodeChar
  rw [if_neg hone, if_pos htwo]
  change (if isCont first = true then (Char.ofNat (lead.toNat % 32 * 64 + cont6 first), 2) else _) = _
  rw [if_pos hcont, hmod, hdigit]

/-- A three-byte sequence encodes neither a shorter one nor a surrogate. -/
private theorem decodeChar_three {lead first second : UInt8} {high middle low : Nat} (hlead : lead.toNat = 0xE0 + high)
    (hhigh : high < 16) (hfirst : first.toNat = 0x80 + middle) (hmiddle : middle < 64)
    (hsecond : second.toNat = 0x80 + low) (hlow : low < 64) (hlong : high = 0 → 32 ≤ middle)
    (hsurrogate : high = 13 → middle < 32) (rest : List UInt8) :
    decodeChar lead (first :: second :: rest) = (Char.ofNat (high * 4096 + middle * 64 + low), 3) := by
  obtain ⟨_, hdigit1⟩ := isCont_of_toNat hfirst hmiddle
  obtain ⟨hcont2, hdigit2⟩ := isCont_of_toNat hsecond hlow
  have hone : ¬ lead < 0x80 := by
    simp only [UInt8.lt_iff_toNat_lt, UInt8.reduceToNat]
    omega
  have htwo : ¬ (decide (0xC2 ≤ lead) && decide (lead ≤ 0xDF)) = true := by
    simp only [Bool.and_eq_true, decide_eq_true_eq, UInt8.le_iff_toNat_le, UInt8.reduceToNat]
    omega
  have hthree : (decide (0xE0 ≤ lead) && decide (lead ≤ 0xEF)) = true := by
    simp only [Bool.and_eq_true, decide_eq_true_eq, UInt8.le_iff_toNat_le, UInt8.reduceToNat]
    omega
  have hallowed : threeByteSecond lead first = true := by
    simp only [threeByteSecond, isCont, Bool.and_eq_true, Bool.or_eq_true, beq_iff_eq, decide_eq_true_eq,
      UInt8.le_iff_toNat_le, UInt8.reduceToNat, ← UInt8.toNat_inj]
    omega
  have hmod : lead.toNat % 16 = high := by omega
  unfold decodeChar
  rw [if_neg hone, if_neg htwo, if_pos hthree]
  change (if (!threeByteSecond lead first) = true then _ else if (!isCont second) = true then _ else
    (Char.ofNat (lead.toNat % 16 * 4096 + cont6 first * 64 + cont6 second), 3)) = _
  rw [hallowed, hcont2, hmod, hdigit1, hdigit2]
  rfl

private theorem decodeChar_four {lead first second third : UInt8} {high upper middle low : Nat}
    (hlead : lead.toNat = 0xF0 + high) (hfirst : first.toNat = 0x80 + upper) (hupper : upper < 64)
    (hsecond : second.toNat = 0x80 + middle) (hmiddle : middle < 64) (hthird : third.toNat = 0x80 + low)
    (hlow : low < 64) (hhigh : high < 5) (hlong : high = 0 → 16 ≤ upper) (hlast : high = 4 → upper < 16)
    (rest : List UInt8) :
    decodeChar lead (first :: second :: third :: rest) =
      (Char.ofNat (high * 262144 + upper * 4096 + middle * 64 + low), 4) := by
  obtain ⟨_, hdigit1⟩ := isCont_of_toNat hfirst hupper
  obtain ⟨hcont2, hdigit2⟩ := isCont_of_toNat hsecond hmiddle
  obtain ⟨hcont3, hdigit3⟩ := isCont_of_toNat hthird hlow
  have hone : ¬ lead < 0x80 := by
    simp only [UInt8.lt_iff_toNat_lt, UInt8.reduceToNat]
    omega
  have htwo : ¬ (decide (0xC2 ≤ lead) && decide (lead ≤ 0xDF)) = true := by
    simp only [Bool.and_eq_true, decide_eq_true_eq, UInt8.le_iff_toNat_le, UInt8.reduceToNat]
    omega
  have hthree : ¬ (decide (0xE0 ≤ lead) && decide (lead ≤ 0xEF)) = true := by
    simp only [Bool.and_eq_true, decide_eq_true_eq, UInt8.le_iff_toNat_le, UInt8.reduceToNat]
    omega
  have hfour : (decide (0xF0 ≤ lead) && decide (lead ≤ 0xF4)) = true := by
    simp only [Bool.and_eq_true, decide_eq_true_eq, UInt8.le_iff_toNat_le, UInt8.reduceToNat]
    omega
  have hallowed : fourByteSecond lead first = true := by
    simp only [fourByteSecond, isCont, Bool.and_eq_true, Bool.or_eq_true, beq_iff_eq, decide_eq_true_eq,
      UInt8.le_iff_toNat_le, UInt8.reduceToNat, ← UInt8.toNat_inj]
    omega
  have hmod : lead.toNat % 8 = high := by omega
  unfold decodeChar
  rw [if_neg hone, if_neg htwo, if_neg hthree, if_pos hfour]
  change (if (!fourByteSecond lead first) = true then _ else if (!isCont second) = true then _ else
    if (!isCont third) = true then _ else
    (Char.ofNat (lead.toNat % 8 * 262144 + cont6 first * 4096 + cont6 second * 64 + cont6 third), 4)) = _
  rw [hallowed, hcont2, hcont3, hmod, hdigit1, hdigit2, hdigit3]
  rfl

/-- The bytes of a character are read back in front of anything. -/
theorem decodeChar_charBytes (char : Char) (rest : List UInt8) :
    ∃ lead tail, charBytes char = lead :: tail ∧ decodeChar lead (tail ++ rest) = (char, tail.length + 1) := by
  have hscalar : char.toNat < 0xD800 ∨ (0xDFFF < char.toNat ∧ char.toNat < 0x110000) := char.valid
  simp only [charBytes]
  by_cases hone : char.toNat < 0x80
  · have hlead := toNat_byte (show char.toNat < 256 by omega)
    refine ⟨_, [], if_pos hone, ?_⟩
    unfold decodeChar
    rw [if_pos (by simp only [UInt8.lt_iff_toNat_lt, UInt8.reduceToNat]; omega), hlead, Char.ofNat_toNat]
    rfl
  rw [if_neg hone]
  by_cases htwo : char.toNat < 0x800
  · rw [if_pos htwo]
    refine ⟨_, _, rfl, ?_⟩
    have hdecode := @decodeChar_two _ _ (char.toNat / 64) (char.toNat % 64) (toNat_byte (by omega)) (by omega)
      (toNat_byte (by omega)) (by omega) rest
    rw [show char.toNat / 64 * 64 + char.toNat % 64 = char.toNat by omega, Char.ofNat_toNat] at hdecode
    exact hdecode
  rw [if_neg htwo]
  by_cases hthree : char.toNat < 0x10000
  · rw [if_pos hthree]
    refine ⟨_, _, rfl, ?_⟩
    have hdecode := @decodeChar_three _ _ _ (char.toNat / 4096) (char.toNat / 64 % 64) (char.toNat % 64)
      (toNat_byte (by omega)) (by omega) (toNat_byte (by omega)) (by omega) (toNat_byte (by omega)) (by omega)
      (by omega) (by omega) rest
    rw [show char.toNat / 4096 * 4096 + char.toNat / 64 % 64 * 64 + char.toNat % 64 = char.toNat by omega,
      Char.ofNat_toNat] at hdecode
    exact hdecode
  · rw [if_neg hthree]
    refine ⟨_, _, rfl, ?_⟩
    have hdecode := @decodeChar_four _ _ _ _ (char.toNat / 262144) (char.toNat / 4096 % 64) (char.toNat / 64 % 64)
      (char.toNat % 64) (toNat_byte (by omega)) (toNat_byte (by omega)) (by omega) (toNat_byte (by omega)) (by omega)
      (toNat_byte (by omega)) (by omega) (by omega) (by omega) (by omega) rest
    rw [show char.toNat / 262144 * 262144 + char.toNat / 4096 % 64 * 4096 + char.toNat / 64 % 64 * 64 +
      char.toNat % 64 = char.toNat by omega, Char.ofNat_toNat] at hdecode
    exact hdecode

private theorem decodeChars_flatMap (chars : List Char) {fuel : Nat} (hfuel : (chars.flatMap charBytes).length ≤ fuel) :
    decodeChars fuel (chars.flatMap charBytes) = chars := by
  induction chars generalizing fuel with
  | nil => cases fuel <;> rfl
  | cons char chars ih =>
    obtain ⟨lead, tail, hbytes, hdecode⟩ := decodeChar_charBytes char (chars.flatMap charBytes)
    rw [List.flatMap_cons, hbytes, List.cons_append, List.length_cons, List.length_append] at hfuel
    obtain ⟨fuel, rfl⟩ := Nat.exists_eq_succ_of_ne_zero (show fuel ≠ 0 by omega)
    rw [List.flatMap_cons, hbytes, List.cons_append, decodeChars, hdecode]
    simp only [List.drop_succ_cons, List.drop_left]
    rw [ih (by omega)]

/-- A text is read back from its bytes. -/
theorem from_utf8_lossy_as_bytes (text : String) : from_utf8_lossy (as_bytes text) = text := by
  unfold from_utf8_lossy as_bytes
  rw [decodeChars_flatMap text.toList le_rfl, String.ofList_toList]

/-- Only the zero character has a zero byte. -/
theorem zero_notMem_as_bytes {text : String} (h : '\x00' ∉ text.toList) : (0 : UInt8) ∉ as_bytes text := by
  intro hzero
  obtain ⟨char, hchar, hbyte⟩ := List.mem_flatMap.mp hzero
  have hscalar : char.toNat < 0xD800 ∨ (0xDFFF < char.toNat ∧ char.toNat < 0x110000) := char.valid
  have hnonzero : char.toNat ≠ 0 := by
    intro heq
    apply h
    rw [← Char.ofNat_toNat char, heq] at hchar
    exact hchar
  have hbound : ∀ value < 256, UInt8.ofNat value = 0 → value = 0 := by
    intro value hvalue heq
    rw [← toNat_byte hvalue, heq]
    rfl
  simp only [charBytes] at hbyte
  split_ifs at hbyte <;> simp only [List.mem_cons, List.not_mem_nil, or_false, @eq_comm _ (0 : UInt8)] at hbyte
  · exact hnonzero (hbound _ (by omega) hbyte)
  · rcases hbyte with hbyte | hbyte <;> exact absurd (hbound _ (by omega) hbyte) (by omega)
  · rcases hbyte with hbyte | hbyte | hbyte <;> exact absurd (hbound _ (by omega) hbyte) (by omega)
  · rcases hbyte with hbyte | hbyte | hbyte | hbyte <;> exact absurd (hbound _ (by omega) hbyte) (by omega)

end Rust
