import Vwfl.Pe.Accepted

open Rust

namespace vwfl.pe

namespace AcceptedImage

variable {object : ObjectCrate} {pe : PeFile}

/-- The translation of an address stays inside the section that contains it: a
    returned offset is one of the raw data of the section, and the zero-filled
    tail of a section has no offset. -/
structure StaysInside (image : AcceptedImage object pe) (profile : Profile) (rva : UInt32) : Prop where
  raw : ∀ offset, pe.rva_to_offset profile rva = .ok (some offset) → offset < pe.raw_bytes.length ∧
    ∃ row ∈ image.rows, row.Covers rva.toNat ∧ row.pointer_to_raw_data.toNat ≤ offset ∧
      offset < row.pointer_to_raw_data.toNat + row.size_of_raw_data.toNat
  tail : ∀ row ∈ image.rows, row.Covers rva.toNat →
    row.size_of_raw_data.toNat ≤ rva.toNat - row.virtual_address.toNat → pe.rva_to_offset profile rva = .ok none

/-- The address is not in the tail of a section that the parser keeps, and the
    sums formed with it do not wrap. -/
structure Confined (image : AcceptedImage object pe) (rva : UInt32) : Prop where
  raw : ∀ row ∈ image.keptRows, row.Reaches rva.toNat →
    rva.toNat - row.virtual_address.toNat < row.size_of_raw_data.toNat →
      row.pointer_to_raw_data.toNat + (rva.toNat - row.virtual_address.toNat) < 2 ^ 32
  tail : ∀ row ∈ image.rows, row.Covers rva.toNat →
    row.size_of_raw_data.toNat ≤ rva.toNat - row.virtual_address.toNat →
      row ∉ image.keptRows ∧ ∀ kept ∈ image.keptRows, kept.Fits pe.image_base

variable {image : AcceptedImage object pe} {rva : UInt32}

/-- The raw data of a kept row lies in the file. -/
theorem raw_data_le {row : SectionHeader} (h : row ∈ image.keptRows) : row.pointer_to_raw_data.toNat +
    min row.virtual_size.toNat row.size_of_raw_data.toNat ≤ pe.raw_bytes.length := by
  obtain ⟨found, _, hcopy⟩ := exists_copy h
  have hinside := (slice_eq_ok_iff.mp hcopy.data).2.inside
  have hlength := (slice_eq_ok_iff.mp hcopy.data).1
  omega

/-- Without overflow checks the offset of a reached row is formed modulo 2^32. -/
theorem rva_to_offset_release_eq (hdisjoint : image.rows.Pairwise SectionHeader.Apart) {row : SectionHeader}
    (hrow : row ∈ image.keptRows) (hreaches : row.Reaches rva.toNat) : pe.rva_to_offset .release rva =
      .ok (some ((row.pointer_to_raw_data.toNat + (rva.toNat - row.virtual_address.toNat)) % 2 ^ 32)) := by
  have hdelta := UInt32.toNat_sub_of_le _ _ (UInt32.le_iff_toNat_le.mpr hreaches.1.1)
  rw [rva_to_offset_of_reaches .release hdisjoint (fun hdev => absurd hdev (by decide)) hrow hreaches, ← hdelta,
    ← UInt32.toNat_add]
  rfl

theorem Confined.staysInside (h : image.Confined rva) (hdisjoint : image.rows.Pairwise SectionHeader.Apart)
    (profile : Profile) : image.StaysInside profile rva := by
  constructor
  case raw =>
    intro offset hoffset
    have hrelease := rva_to_offset_release hoffset
    by_cases hany : ∃ row ∈ image.keptRows, row.Reaches rva.toNat
    · obtain ⟨row, hrow, hreaches⟩ := hany
      have hmem := mem_rows_of_kept hrow
      have hraw : rva.toNat - row.virtual_address.toNat < row.size_of_raw_data.toNat := by
        by_contra htail
        exact (h.tail row hmem hreaches.1 (Nat.le_of_not_lt htail)).1 hrow
      have hsum := h.raw row hrow hreaches hraw
      rw [rva_to_offset_release_eq hdisjoint hrow hreaches, Nat.mod_eq_of_lt hsum] at hrelease
      obtain rfl := Option.some.inj (Except.ok.inj hrelease)
      have hinside := raw_data_le hrow
      have hsize : rva.toNat - row.virtual_address.toNat < row.virtual_size.toNat := by
        rw [← extent_of_kept hrow]
        exact Nat.sub_lt_left_of_lt_add hreaches.1.1 hreaches.1.2
      exact ⟨by omega, row, hmem, hreaches.1, by omega, by omega⟩
    · rw [image.rva_to_offset_eq_none .release (fun hdev => absurd hdev (by decide))
        fun row hrow hreaches => hany ⟨row, hrow, hreaches⟩] at hrelease
      cases hrelease
  case tail =>
    intro row hrow hcovers htail
    obtain ⟨hdropped, hfits⟩ := h.tail row hrow hcovers htail
    refine image.rva_to_offset_eq_none profile (fun _ => hfits) fun kept hkept hreaches => hdropped ?_
    rwa [eq_of_covers hdisjoint hrow (mem_rows_of_kept hkept) hcovers hreaches.1]

/-- The translation never points at foreign bytes exactly for the addresses that
    are confined. -/
theorem staysInside_iff (image : AcceptedImage object pe) (hdisjoint : image.rows.Pairwise SectionHeader.Apart)
    (rva : UInt32) : (∀ profile, image.StaysInside profile rva) ↔ image.Confined rva := by
  refine ⟨fun h => ⟨?_, ?_⟩, fun h profile => h.staysInside hdisjoint profile⟩
  · intro row hrow hreaches hraw
    obtain ⟨_, other, hother, hcovers, hlow, _⟩ :=
      (h .release).raw _ (rva_to_offset_release_eq hdisjoint hrow hreaches)
    obtain rfl := eq_of_covers hdisjoint (mem_rows_of_kept hrow) hother hreaches.1 hcovers
    have hsize := row.size_of_raw_data.toNat_lt
    by_contra hwraps
    rw [Nat.mod_eq_sub_mod (by omega), Nat.mod_eq_of_lt (by omega)] at hlow
    omega
  · intro row hrow hcovers htail
    have hdev := (h .dev).tail row hrow hcovers htail
    have hnone : ∀ kept ∈ image.keptRows, ¬ kept.Reaches rva.toNat := by
      intro kept hkept hreaches
      have hrelease := rva_to_offset_release hdev
      rw [rva_to_offset_release_eq hdisjoint hkept hreaches] at hrelease
      cases hrelease
    have hfits := fits_of_rva_to_offset_eq_none hdev hnone
    exact ⟨fun hkept => hnone row hkept ⟨hcovers, (hfits row hkept).extent⟩, hfits⟩

end AcceptedImage

/-- A text section with one byte in the file and one without, and the data
    section whose byte follows in the file. -/
def tailRows : List SectionHeader :=
  [⟨[0x2E, 0x74, 0x65, 0x78, 0x74], 2, 0x1000, 1, 408⟩, ⟨[0x2E, 0x64, 0x61, 0x74, 0x61], 1, 0x2000, 1, 409⟩]

def tailFile : List UInt8 := peImage 0x180000000 0x1000 (0, 0) (0, 0) tailRows [0xC3, 0x2A]

def tailPe : PeFile where
  entry_point := 0x180001000
  image_base := 0x180000000
  sections := [⟨".text", 0x180001000, 2, [0xC3]⟩, ⟨".data", 0x180002000, 1, [0x2A]⟩]
  header_data := tailFile
  pdb_name := "Unknown"
  pdb_guid_age := "Unknown"
  raw_bytes := tailFile

def tailImage : AcceptedImage peCrate tailPe where
  e_lfanew := 0x40
  opt_size := 240
  rows := tailRows
  e_lfanew_at := by decide +kernel
  count_at := by decide +kernel
  count_lt := by decide
  opt_size_at := by decide +kernel
  rows_at := ⟨by decide +kernel, by decide +kernel, trivial⟩
  parsed := by decide +kernel
  names := [some ".text", some ".data"]
  names_length := by decide
  listed := by decide +kernel

/-- The byte of the text section stays inside. -/
theorem staysInside_iff_tail : tailImage.StaysInside .dev 0x1000 ∧ tailImage.StaysInside .release 0x1000 := by
  have hbacked : ∀ row ∈ tailImage.rows, row.Covers 0x1000 →
      ¬ row.size_of_raw_data.toNat ≤ 0x1000 - row.virtual_address.toNat := by decide
  have hinside := (tailImage.staysInside_iff (by decide) 0x1000).mpr
    ⟨by decide, fun row hrow hcovers htail => absurd htail (hbacked row hrow hcovers)⟩
  exact ⟨hinside .dev, hinside .release⟩

/-- The zero-filled tail of the text section is read as the data section. -/
theorem not_staysInside_tail : tailImage.rows.Pairwise SectionHeader.Apart ∧
    ¬ ∀ profile, tailImage.StaysInside profile 0x1001 := by
  refine ⟨by decide, fun h => ?_⟩
  have hread : tailPe.rva_to_offset .dev 0x1001 = .ok (some 409) := by decide +kernel
  obtain ⟨_, row, hrow, hcovers, _, hend⟩ := (h .dev).raw 409 hread
  revert row
  decide

end vwfl.pe
