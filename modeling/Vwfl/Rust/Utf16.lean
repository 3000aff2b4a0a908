import Vwfl.ByteStore.LittleEndian
import Vwfl.Rust.Str

open LittleEndian

namespace Rust

/-- Characters of a sequence of code units. A surrogate without its partner is
    an error. -/
def decodeUnits : List UInt16 → Option (List Char)
  | [] => some []
  | unit :: rest =>
    if unit.toNat < 0xD800 ∨ 0xDFFF < unit.toNat then (decodeUnits rest).map (Char.ofNat unit.toNat :: ·)
    else
      match rest with
      | [] => none
      | low :: rest =>
        if unit.toNat < 0xDC00 ∧ 0xDC00 ≤ low.toNat ∧ low.toNat ≤ 0xDFFF then
          (decodeUnits rest).map
            (Char.ofNat (0x10000 + (unit.toNat - 0xD800) * 0x400 + (low.toNat - 0xDC00)) :: ·)
        else none

/-- `String::from_utf16`, without the error value. -/
def from_utf16 (units : List UInt16) : Option String := (decodeUnits units).map String.ofList

/-- Code units of a buffer in little-endian order. An odd last byte is left
    out. -/
def unitsOf : List UInt8 → List UInt16
  | first :: second :: rest => toUInt16 [first, second] :: unitsOf rest
  | _ => []

theorem unitsOf_flatMap (units : List UInt16) : unitsOf (units.flatMap ofUInt16) = units := by
  induction units with
  | nil => rfl
  | cons unit rest ih =>
    have hunit : ofUInt16 unit = [UInt8.ofNat unit.toNat, UInt8.ofNat (unit.toNat / 256)] := rfl
    rw [List.flatMap_cons, hunit, List.cons_append, List.singleton_append, unitsOf, ← hunit, toUInt16_ofUInt16, ih]

/-- Code units of one character. -/
def charUnits (char : Char) : List UInt16 :=
  if char.toNat < 0x10000 then [UInt16.ofNat char.toNat]
  else [UInt16.ofNat (0xD800 + (char.toNat - 0x10000) / 0x400), UInt16.ofNat (0xDC00 + (char.toNat - 0x10000) % 0x400)]

theorem encode_utf16_eq (text : String) : encode_utf16 text = text.toList.flatMap charUnits := rfl

/-- A character is a scalar value: below the surrogates or above them. -/
theorem toNat_char_cases (char : Char) :
    char.toNat < 0xD800 ∨ (0xDFFF < char.toNat ∧ char.toNat < 0x110000) := char.valid

theorem decodeUnits_unit {unit : UInt16} (hunit : unit.toNat < 0xD800 ∨ 0xDFFF < unit.toNat) (rest : List UInt16) :
    decodeUnits (unit :: rest) = (decodeUnits rest).map (Char.ofNat unit.toNat :: ·) := by
  rw [decodeUnits.eq_def]
  exact if_pos hunit

/-- The units of a character are read back in front of anything. -/
theorem decodeUnits_charUnits (char : Char) (rest : List UInt16) :
    decodeUnits (charUnits char ++ rest) = (decodeUnits rest).map (char :: ·) := by
  have hscalar := toNat_char_cases char
  unfold charUnits
  split
  · rename_i hsmall
    have hunit : (UInt16.ofNat char.toNat).toNat = char.toNat := by
      rw [UInt16.toNat_ofNat']
      omega
    rw [List.singleton_append, decodeUnits_unit (by omega), hunit, Char.ofNat_toNat]
  · rename_i hlarge
    have hhigh : (UInt16.ofNat (0xD800 + (char.toNat - 0x10000) / 0x400)).toNat =
        0xD800 + (char.toNat - 0x10000) / 0x400 := by
      rw [UInt16.toNat_ofNat']
      omega
    have hlow : (UInt16.ofNat (0xDC00 + (char.toNat - 0x10000) % 0x400)).toNat =
        0xDC00 + (char.toNat - 0x10000) % 0x400 := by
      rw [UInt16.toNat_ofNat']
      omega
    have hvalue : 0x10000 + (0xD800 + (char.toNat - 0x10000) / 0x400 - 0xD800) * 0x400 +
        (0xDC00 + (char.toNat - 0x10000) % 0x400 - 0xDC00) = char.toNat := by omega
    rw [List.cons_append, List.singleton_append, decodeUnits, hhigh, if_neg (by omega)]
    simp only [hlow]
    rw [if_pos (by omega), hvalue, Char.ofNat_toNat]

theorem decodeUnits_flatMap (chars : List Char) : decodeUnits (chars.flatMap charUnits) = some chars := by
  induction chars with
  | nil => rfl
  | cons char rest ih => rw [List.flatMap_cons, decodeUnits_charUnits, ih, Option.map_some]

/-- Decoding inverts encoding. -/
theorem from_utf16_encode_utf16 (text : String) : from_utf16 (encode_utf16 text) = some text := by
  rw [from_utf16, encode_utf16_eq, decodeUnits_flatMap, Option.map_some, String.ofList_toList]

/-- A character takes no more code units than bytes. -/
theorem length_charUnits_le (char : Char) : (charUnits char).length ≤ char.utf8Size := by
  have hpos := char.utf8Size_pos
  unfold charUnits
  split
  · exact hpos
  · rename_i hlarge
    have hwide : ∀ bound : UInt32, bound.toNat < 0x10000 → ¬ char.val ≤ bound := by
      intro bound hbound hle
      have hle : char.val.toNat ≤ bound.toNat := hle
      have hvalue : char.toNat = char.val.toNat := rfl
      omega
    rw [Char.utf8Size, if_neg (hwide _ (by decide)), if_neg (hwide _ (by decide)), if_neg (hwide _ (by decide)),
      List.length_cons, List.length_singleton]
    omega

theorem length_encode_utf16_le (text : String) : (encode_utf16 text).length ≤ text.utf8ByteSize := by
  obtain ⟨chars, rfl⟩ := text.exists_eq_ofList
  rw [encode_utf16_eq, String.toList_ofList]
  induction chars with
  | nil => exact Nat.zero_le _
  | cons char rest ih =>
    have hchar := length_charUnits_le char
    rw [List.flatMap_cons, List.length_append, String.ofList_cons, String.utf8ByteSize_append,
      String.utf8ByteSize_singleton]
    omega

end Rust
