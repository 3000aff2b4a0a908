import Vwfl.Acpi.Writes
import Vwfl.Rust.Bytes

open Rust LittleEndian

namespace vwfl.acpi

theorem byteSum_append (first second : List UInt8) : byteSum (first ++ second) = byteSum first + byteSum second := by
  have hshift : ∀ start, second.foldl (· + ·) start = start + second.foldl (· + ·) 0 := by
    intro start
    have hassoc := @List.foldl_assoc UInt8 (fun sum byte => sum + byte) _ second start 0
    rwa [UInt8.add_zero] at hassoc
  rw [byteSum, List.foldl_append, hshift]
  rfl

/-- Filling a zero byte with the negated sum makes the sum zero. -/
theorem byteSum_fill {data : List UInt8} {index : Nat} (hzero : data[index]? = some 0) :
    byteSum (splice data index [0 - byteSum data]) = 0 := by
  obtain ⟨hindex, hget⟩ := List.getElem?_eq_some_iff.mp hzero
  have hsplit : data = data.take index ++ ([0] ++ data.drop (index + 1)) := by
    rw [List.singleton_append, ← hget, List.getElem_cons_drop, List.take_append_drop]
  have hsum : byteSum data = byteSum (data.take index) + byteSum (data.drop (index + 1)) := by
    conv_lhs => rw [hsplit, byteSum_append, byteSum_append]
    rw [show byteSum [0] = 0 from rfl, UInt8.zero_add]
  have hbyte : ∀ byte : UInt8, byteSum [byte] = byte := fun byte => UInt8.zero_add byte
  rw [splice, byteSum_append, byteSum_append, hbyte, List.length_singleton, hsum]
  grind

theorem byteSum_update_checksum {data : List UInt8} (h : 9 < data.length) : byteSum (update_checksum data) = 0 := by
  refine byteSum_fill ?_
  exact holdsAt_singleton.mp (holdsAt_splice h)

/-- A table with the given signature, its own length behind it and bytes that
    sum to zero. -/
structure ValidTable (sig table : List UInt8) : Prop where
  signature : HoldsAt table 0 sig
  length : HoldsAt table 4 (ofUInt32 (UInt32.ofNat table.length))
  checksum : byteSum table = 0

/-- The checksum leaves the signature and the length. -/
theorem validTable_update_checksum {sig data : List UInt8} (hlong : 36 ≤ data.length) (hsig : sig.length = 4)
    (hsignature : HoldsAt data 0 sig) (hlength : HoldsAt data 4 (ofUInt32 (UInt32.ofNat data.length))) :
    ValidTable sig (update_checksum data) := by
  have hsame : (update_checksum data).length = data.length := by
    rw [update_checksum, length_splice_of_le, length_splice_of_le] <;> simp [length_splice] <;> omega
  constructor
  · rw [update_checksum, holdsAt_splice_iff, holdsAt_splice_iff]
    · exact hsignature
    all_goals simp [length_splice]
    all_goals omega
  · rw [hsame, update_checksum, holdsAt_splice_iff, holdsAt_splice_iff]
    · exact hlength
    all_goals simp [length_splice]
    all_goals omega
  · exact byteSum_update_checksum (by omega)

theorem validTable_dsdt : ValidTable [0x44, 0x53, 0x44, 0x54] dsdt := by
  constructor <;> decide +kernel

theorem validTable_madt : ValidTable [0x41, 0x50, 0x49, 0x43] madt := by
  constructor <;> decide +kernel

theorem validTable_hpet : ValidTable [0x48, 0x50, 0x45, 0x54] hpet := by
  constructor <;> decide +kernel

theorem validTable_fadt (dsdt_v : UInt64) : ValidTable [0x46, 0x41, 0x43, 0x50] (fadt dsdt_v) := by
  refine validTable_update_checksum ?_ rfl ?_ ?_
  · norm_num [length_splice, write_header]
  · simp (disch := norm_num [length_splice]) only [write_header, holdsAt_splice_iff]
    exact holdsAt_splice (by norm_num)
  · simp (disch := norm_num [length_splice]) only [write_header, holdsAt_splice_iff, length_splice_of_le,
      List.length_replicate]
    exact holdsAt_splice (by norm_num [length_splice])

/-- The 64-bit pointer to the DSDT. -/
theorem holdsAt_fadt (dsdt_v : UInt64) : HoldsAt (fadt dsdt_v) 140 (ofUInt64 dsdt_v) := by
  simp (disch := norm_num [length_splice]) only [fadt, update_checksum, write_header, holdsAt_splice_iff]
  exact holdsAt_splice (by norm_num [length_splice])

theorem validTable_xsdt (fadt_v madt_v hpet_v : UInt64) :
    ValidTable [0x58, 0x53, 0x44, 0x54] (xsdt fadt_v madt_v hpet_v) := by
  refine validTable_update_checksum ?_ rfl ?_ ?_
  · norm_num [length_splice, write_header]
  · simp (disch := norm_num [length_splice]) only [write_header, holdsAt_splice_iff]
    exact holdsAt_splice (by norm_num)
  · simp (disch := norm_num [length_splice]) only [write_header, holdsAt_splice_iff, length_splice_of_le,
      List.length_replicate]
    exact holdsAt_splice (by norm_num [length_splice])

theorem holdsAt_xsdt (fadt_v madt_v hpet_v : UInt64) :
    HoldsAt (xsdt fadt_v madt_v hpet_v) 36 (ofUInt64 fadt_v) ∧
      HoldsAt (xsdt fadt_v madt_v hpet_v) 44 (ofUInt64 madt_v) ∧
      HoldsAt (xsdt fadt_v madt_v hpet_v) 52 (ofUInt64 hpet_v) := by
  simp (disch := norm_num [length_splice]) only [xsdt, update_checksum, write_header, holdsAt_splice_iff]
  exact ⟨holdsAt_splice (by norm_num [length_splice]), holdsAt_splice (by norm_num [length_splice]),
    holdsAt_splice (by norm_num [length_splice])⟩

/-- The fields of the RSDP apart from its two checksums. -/
def rsdpFields (xsdt_v : UInt64) : List UInt8 :=
  let rsdp := splice (List.replicate 36 0) 0 [0x52, 0x53, 0x44, 0x20, 0x50, 0x54, 0x52, 0x20]
  let rsdp := splice rsdp 10 [0x56, 0x57, 0x46, 0x4C, 0x20, 0x20]
  let rsdp := splice rsdp 15 [2]
  let rsdp := splice rsdp 20 (ofUInt32 36)
  splice rsdp 24 (ofUInt64 xsdt_v)

/-- The second sum covers the first checksum, which the second one leaves. -/
theorem rsdp_eq (xsdt_v : UInt64) :
    let first := splice (rsdpFields xsdt_v) 8 [0 - byteSum ((rsdpFields xsdt_v).take 20)]
    rsdp xsdt_v = splice first 32 [0 - byteSum first] := rfl

theorem length_rsdpFields (xsdt_v : UInt64) : (rsdpFields xsdt_v).length = 36 := by
  norm_num [rsdpFields, length_splice]

/-- The first 20 bytes of the RSDP and all of them sum to zero. -/
theorem byteSum_rsdp (xsdt_v : UInt64) : byteSum ((rsdp xsdt_v).take 20) = 0 ∧ byteSum (rsdp xsdt_v) = 0 := by
  have hlength := length_rsdpFields xsdt_v
  have hfields : HoldsAt (rsdpFields xsdt_v) 8 [0] ∧ HoldsAt (rsdpFields xsdt_v) 32 [0] := by
    simp (disch := norm_num [length_splice]) only [rsdpFields, holdsAt_splice_iff]
    decide
  obtain ⟨hfirst, hsecond⟩ := hfields
  have hrsdp := rsdp_eq xsdt_v
  generalize rsdpFields xsdt_v = fields at hlength hfirst hsecond hrsdp
  simp only at hrsdp
  have hlengthFirst : (splice fields 8 [0 - byteSum (fields.take 20)]).length = 36 := by
    rw [length_splice_of_le (by simp [hlength]), hlength]
  rw [hrsdp]
  constructor
  · rw [take_splice_of_le (by decide) (by omega), take_splice (by simp) (by omega)]
    refine byteSum_fill ?_
    rw [List.getElem?_take_of_lt (by decide)]
    exact holdsAt_singleton.mp hfirst
  · refine byteSum_fill (holdsAt_singleton.mp ?_)
    rw [holdsAt_splice_iff (by simp [hlength]) (by simp)]
    exact hsecond

/-- Signature, length and pointer of the RSDP. -/
theorem holdsAt_rsdp (xsdt_v : UInt64) :
    HoldsAt (rsdp xsdt_v) 0 [0x52, 0x53, 0x44, 0x20, 0x50, 0x54, 0x52, 0x20] ∧
      HoldsAt (rsdp xsdt_v) 20 (ofUInt32 36) ∧ HoldsAt (rsdp xsdt_v) 24 (ofUInt64 xsdt_v) := by
  simp (disch := norm_num [length_splice]) only [rsdp, holdsAt_splice_iff]
  exact ⟨holdsAt_splice (by norm_num), holdsAt_splice (by norm_num [length_splice]),
    holdsAt_splice (by norm_num [length_splice])⟩

end vwfl.acpi
