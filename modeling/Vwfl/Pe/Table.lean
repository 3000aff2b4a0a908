import Vwfl.Pe.Crate
import Vwfl.Rust.Bytes

open Rust LittleEndian

namespace vwfl.pe

theorem readU16_eq_ok_iff {data : List UInt8} {offset : Nat} {value : UInt16} :
    readU16 data offset = .ok value ↔ HoldsAt data offset (ofUInt16 value) :=
  slice_decode_eq_ok_iff length_ofUInt16 toUInt16_ofUInt16 ofUInt16_toUInt16

theorem readU32_eq_ok_iff {data : List UInt8} {offset : Nat} {value : UInt32} :
    readU32 data offset = .ok value ↔ HoldsAt data offset (ofUInt32 value) :=
  slice_decode_eq_ok_iff length_ofUInt32 toUInt32_ofUInt32 ofUInt32_toUInt32

theorem readU64_eq_ok_iff {data : List UInt8} {offset : Nat} {value : UInt64} :
    readU64 data offset = .ok value ↔ HoldsAt data offset (ofUInt64 value) :=
  slice_decode_eq_ok_iff length_ofUInt64 toUInt64_ofUInt64 ofUInt64_toUInt64

/-- The range of addresses that a row is searched with. -/
def SectionHeader.extent (row : SectionHeader) : UInt32 :=
  if row.virtual_size > 0 then row.virtual_size else row.size_of_raw_data

def SectionHeader.Covers (row : SectionHeader) (rva : Nat) : Prop :=
  row.virtual_address.toNat ≤ rva ∧ rva < row.virtual_address.toNat + row.extent.toNat

instance (row : SectionHeader) (rva : Nat) : Decidable (row.Covers rva) := inferInstanceAs (Decidable (_ ∧ _))

/-- The sizes and addresses of a row in the file. -/
def SectionHeader.words (row : SectionHeader) : List UInt8 :=
  ofUInt32 row.virtual_size ++ ofUInt32 row.virtual_address ++ ofUInt32 row.size_of_raw_data ++
    ofUInt32 row.pointer_to_raw_data

/-- The rows of the section table from `start` on, behind the names. -/
def RowsAt (bytes : List UInt8) : Nat → List SectionHeader → Prop
  | _, [] => True
  | start, row :: rest => HoldsAt bytes (start + 8) row.words ∧ RowsAt bytes (start + 40) rest

/-- The section table of a file. -/
structure SectionTable (bytes : List UInt8) where
  e_lfanew : UInt32
  opt_size : UInt16
  rows : List SectionHeader
  e_lfanew_at : HoldsAt bytes 0x3C (ofUInt32 e_lfanew)
  count_at : HoldsAt bytes (e_lfanew.toNat + 6) (ofUInt16 (UInt16.ofNat rows.length))
  count_lt : rows.length < 2 ^ 16
  opt_size_at : HoldsAt bytes (e_lfanew.toNat + 20) (ofUInt16 opt_size)
  rows_at : RowsAt bytes (e_lfanew.toNat + 24 + opt_size.toNat) rows

/-- An address in the file-backed part of the section that contains it, and the
    offset of its byte in the file. -/
def FileBacked (rows : List SectionHeader) (rva offset : Nat) : Prop :=
  ∃ row, rows.find? (fun row => row.Covers rva) = some row ∧
    rva - row.virtual_address.toNat < min row.virtual_size.toNat row.size_of_raw_data.toNat ∧
    offset = row.pointer_to_raw_data.toNat + (rva - row.virtual_address.toNat) ∧ offset < 2 ^ 32

/-- The file-backed part of the first row. -/
theorem fileBacked_first {row : SectionHeader} {rest : List SectionHeader} {delta : Nat}
    (hsize : delta < row.virtual_size.toNat) (hraw : delta < row.size_of_raw_data.toNat)
    (hoffset : row.pointer_to_raw_data.toNat + delta < 2 ^ 32) :
    FileBacked (row :: rest) (row.virtual_address.toNat + delta) (row.pointer_to_raw_data.toNat + delta) := by
  have hpositive : 0 < row.virtual_size := UInt32.lt_iff_toNat_lt.mpr (Nat.zero_lt_of_lt hsize)
  have hextent : row.extent = row.virtual_size := if_pos hpositive
  have hcovers : row.Covers (row.virtual_address.toNat + delta) := by
    rw [SectionHeader.Covers, hextent]
    omega
  refine ⟨row, List.find?_cons_of_pos (by simpa using hcovers), ?_, ?_, hoffset⟩
  · omega
  · rw [Nat.add_sub_cancel_left]

private theorem RowsAt.words {bytes : List UInt8} {start : Nat} {row : SectionHeader} {rest : List SectionHeader}
    (h : RowsAt bytes start (row :: rest)) :
    readU32 bytes (start + 8) = .ok row.virtual_size ∧ readU32 bytes (start + 12) = .ok row.virtual_address ∧
      readU32 bytes (start + 16) = .ok row.size_of_raw_data ∧
      readU32 bytes (start + 20) = .ok row.pointer_to_raw_data := by
  have hwords := h.1
  simp only [SectionHeader.words, holdsAt_append, List.length_append, length_ofUInt32] at hwords
  obtain ⟨⟨⟨hsize, haddress⟩, hraw⟩, hpointer⟩ := hwords
  exact ⟨readU32_eq_ok_iff.mpr hsize, readU32_eq_ok_iff.mpr haddress, readU32_eq_ok_iff.mpr hraw,
    readU32_eq_ok_iff.mpr hpointer⟩

private theorem toNat_add32 {first second : UInt32} (h : first.toNat + second.toNat < 2 ^ 32) :
    (first + second).toNat = first.toNat + second.toNat := by
  rw [UInt32.toNat_add]
  exact Nat.mod_eq_of_lt h

/-- What a round of the search does with a row that lies in the file. -/
def visitRow (profile : Profile) (rva : UInt32) (row : SectionHeader) (next : Result (Option Nat)) :
    Result (Option Nat) :=
  if rva ≥ row.virtual_address then do
    let v_end ← profile.add32 row.virtual_address row.extent
    if rva < v_end then do
      let delta ← profile.sub32 rva row.virtual_address
      let offset ← profile.add32 row.pointer_to_raw_data delta
      return some offset.toNat
    else next
  else next

/-- A row that the search finds an address in: it covers the address, and its
    end is formed without overflow. -/
def SectionHeader.Reaches (row : SectionHeader) (rva : Nat) : Prop :=
  row.Covers rva ∧ row.virtual_address.toNat + row.extent.toNat < 2 ^ 32

instance (row : SectionHeader) (rva : Nat) : Decidable (row.Reaches rva) := inferInstanceAs (Decidable (_ ∧ _))

/-- The test of a round, also where the end of the row wraps. -/
private theorem inRange_iff_reaches {rva : UInt32} {row : SectionHeader} :
    (rva ≥ row.virtual_address ∧ rva < row.virtual_address + row.extent) ↔ row.Reaches rva.toNat := by
  have haddress := row.virtual_address.toNat_lt
  have hextent := row.extent.toNat_lt
  have hrva := rva.toNat_lt
  rw [ge_iff_le, UInt32.le_iff_toNat_le, UInt32.lt_iff_toNat_lt, UInt32.toNat_add, SectionHeader.Reaches,
    SectionHeader.Covers]
  by_cases hfits : row.virtual_address.toNat + row.extent.toNat < 2 ^ 32
  · rw [Nat.mod_eq_of_lt hfits]
    exact (and_iff_left hfits).symm
  · refine ⟨fun h => ?_, fun h => absurd h.2 hfits⟩
    have hwrapped : (row.virtual_address.toNat + row.extent.toNat) % 2 ^ 32 < row.virtual_address.toNat := by omega
    omega

/-- A row that reaches the address gives its offset. -/
theorem visitRow_of_reaches (profile : Profile) {rva : UInt32} {row : SectionHeader} {next : Result (Option Nat)}
    (h : row.Reaches rva.toNat) :
    visitRow profile rva row next = profile.add32 row.pointer_to_raw_data (rva - row.virtual_address) >>=
      fun offset => .ok (some offset.toNat) := by
  obtain ⟨hge, hlt⟩ := inRange_iff_reaches.mpr h
  unfold visitRow
  rw [if_pos hge, profile.add32_of_lt h.2, ok_bind, if_pos hlt,
    profile.sub32_of_le (UInt32.le_iff_toNat_le.mp hge), ok_bind]
  rfl

theorem visitRow_of_not_reaches (profile : Profile) {rva : UInt32} {row : SectionHeader} {next : Result (Option Nat)}
    (hextent : profile = .dev → row.virtual_address.toNat ≤ rva.toNat →
      row.virtual_address.toNat + row.extent.toNat < 2 ^ 32)
    (h : ¬ row.Reaches rva.toNat) : visitRow profile rva row next = next := by
  unfold visitRow
  by_cases hge : rva ≥ row.virtual_address
  · have hadd : profile.add32 row.virtual_address row.extent = .ok (row.virtual_address + row.extent) :=
      Profile.add32_eq_ok_iff.mpr ⟨fun hdev => hextent hdev (UInt32.le_iff_toNat_le.mp hge), rfl⟩
    rw [if_pos hge, hadd, ok_bind, if_neg fun hlt => h (inRange_iff_reaches.mp ⟨hge, hlt⟩)]
  · rw [if_neg hge]

/-- A row that covers the address gives its offset. -/
theorem visitRow_of_covers (profile : Profile) {rva : UInt32} {row : SectionHeader} {next : Result (Option Nat)}
    (hextent : row.virtual_address.toNat + row.extent.toNat < 2 ^ 32) (hcovers : row.Covers rva.toNat)
    (hsum : row.pointer_to_raw_data.toNat + (rva.toNat - row.virtual_address.toNat) < 2 ^ 32) :
    visitRow profile rva row next =
      .ok (some (row.pointer_to_raw_data.toNat + (rva.toNat - row.virtual_address.toNat))) := by
  have hdelta := UInt32.toNat_sub_of_le _ _ (UInt32.le_iff_toNat_le.mpr hcovers.1)
  rw [← hdelta] at hsum ⊢
  rw [visitRow_of_reaches profile ⟨hcovers, hextent⟩, profile.add32_of_lt hsum, ok_bind, toNat_add32 hsum]

theorem visitRow_of_not_covers (profile : Profile) {rva : UInt32} {row : SectionHeader} {next : Result (Option Nat)}
    (hextent : row.virtual_address.toNat ≤ rva.toNat → row.virtual_address.toNat + row.extent.toNat < 2 ^ 32)
    (hcovers : ¬ row.Covers rva.toNat) : visitRow profile rva row next = next :=
  visitRow_of_not_reaches profile (fun _ => hextent) fun h => hcovers h.1

/-- The search of the section table, over its rows. -/
theorem findSection_eq_add (profile : Profile) {bytes : List UInt8} {start : Nat} {rows : List SectionHeader}
    (hrows : RowsAt bytes start rows)
    (hextent : profile = .dev → ∀ row ∈ rows, row.virtual_address.toNat + row.extent.toNat < 2 ^ 32) {rva : UInt32}
    {row : SectionHeader} (hfound : rows.find? (fun row => row.Reaches rva.toNat) = some row) :
    findSection profile bytes rva rows.length start =
      profile.add32 row.pointer_to_raw_data (rva - row.virtual_address) >>= fun offset => .ok (some offset.toNat) := by
  induction rows generalizing start with
  | nil => cases hfound
  | cons first rest ih =>
    obtain ⟨hsize, haddress, hraw, hpointer⟩ := hrows.words
    rw [List.length_cons, findSection]
    simp only [hsize, haddress, hraw, hpointer, ok_bind]
    change visitRow profile rva first (findSection profile bytes rva rest.length (start + 40)) = _
    by_cases hreaches : first.Reaches rva.toNat
    · rw [List.find?_cons_of_pos (by simpa using hreaches)] at hfound
      obtain rfl : first = row := Option.some.inj hfound
      exact visitRow_of_reaches profile hreaches
    · rw [List.find?_cons_of_neg (by simpa using hreaches)] at hfound
      rw [visitRow_of_not_reaches profile (fun hdev _ => hextent hdev first List.mem_cons_self) hreaches]
      exact ih hrows.2 (fun hdev later hlater => hextent hdev later (List.mem_cons_of_mem _ hlater)) hfound

/-- The search of rows that end below 2^32, for a byte below 2^32. -/
theorem findSection_eq (profile : Profile) {bytes : List UInt8} {start : Nat} {rows : List SectionHeader}
    (hrows : RowsAt bytes start rows)
    (hextent : ∀ row ∈ rows, row.virtual_address.toNat + row.extent.toNat < 2 ^ 32) {rva : UInt32} {row : SectionHeader}
    (hfound : rows.find? (fun row => row.Covers rva.toNat) = some row)
    (hsum : row.pointer_to_raw_data.toNat + (rva.toNat - row.virtual_address.toNat) < 2 ^ 32) :
    findSection profile bytes rva rows.length start =
      .ok (some (row.pointer_to_raw_data.toNat + (rva.toNat - row.virtual_address.toNat))) := by
  have hreaches : rows.find? (fun row => row.Reaches rva.toNat) = some row := by
    rw [← hfound]
    refine List.find?_congr fun other hother => ?_
    rw [decide_eq_decide, SectionHeader.Reaches, and_iff_left (hextent other hother)]
  have hcovers : row.Covers rva.toNat := by simpa using List.find?_some hfound
  have hdelta := UInt32.toNat_sub_of_le _ _ (UInt32.le_iff_toNat_le.mpr hcovers.1)
  rw [← hdelta] at hsum ⊢
  rw [findSection_eq_add profile hrows (fun _ => hextent) hreaches, profile.add32_of_lt hsum, ok_bind,
    toNat_add32 hsum]

/-- The addresses of a row are formed without overflow. -/
structure SectionHeader.Fits (image_base : UInt64) (row : SectionHeader) : Prop where
  extent : row.virtual_address.toNat + row.extent.toNat < 2 ^ 32
  address : image_base.toNat + row.virtual_address.toNat < 2 ^ 64

instance (image_base : UInt64) (row : SectionHeader) : Decidable (row.Fits image_base) :=
  decidable_of_iff (_ ∧ _) ⟨fun h => ⟨h.1, h.2⟩, fun h => ⟨h.extent, h.address⟩⟩

/-- The section of a row, read back as the range of the row. -/
private theorem sectionRange (profile : Profile) {image_base : UInt64} {row : SectionHeader}
    (hpositive : 0 < row.virtual_size) (hfits : profile = .dev → row.Fits image_base) :
    profile.sub64 (image_base + row.virtual_address.toUInt64) image_base = .ok row.virtual_address.toUInt64 ∧
      profile.add32 row.virtual_address row.virtual_size = .ok (row.virtual_address + row.extent) := by
  have hsize : row.extent = row.virtual_size := if_pos hpositive
  have hback : image_base + row.virtual_address.toUInt64 - image_base = row.virtual_address.toUInt64 := by
    rw [UInt64.add_comm, UInt64.add_sub_cancel]
  rw [← hsize, Profile.sub64_eq_ok_iff, Profile.add32_eq_ok_iff]
  refine ⟨⟨fun hdev => ?_, hback.symm⟩, fun hdev => (hfits hdev).extent, rfl⟩
  have haddress := (hfits hdev).address
  rw [UInt64.toNat_add, UInt32.toNat_toUInt64, Nat.mod_eq_of_lt haddress]
  exact Nat.le_add_right _ _

/-- The search of the parsed sections stops when a row reaches the address. -/
theorem offsetIn_eq (profile : Profile) (pe : PeFile) {sections : List Section} {rows : List SectionHeader}
    (hsections : sections.map (fun found => (found.virtual_address, found.virtual_size)) =
      rows.map fun row => (pe.image_base + row.virtual_address.toUInt64, row.virtual_size.toUInt64))
    (hpositive : ∀ row ∈ rows, 0 < row.virtual_size)
    (hfits : profile = .dev → ∀ row ∈ rows, row.Fits pe.image_base) (rva : UInt32) :
    pe.offsetIn profile rva sections =
      if ∃ row ∈ rows, row.Reaches rva.toNat then pe.find_file_offset profile rva else .ok none := by
  induction rows generalizing sections with
  | nil =>
    obtain rfl : sections = [] := by simpa using hsections
    simp [PeFile.offsetIn]
  | cons first rest ih =>
    obtain ⟨found, later, rfl⟩ : ∃ found later, sections = found :: later := by
      cases sections with
      | nil => cases hsections
      | cons found later => exact ⟨found, later, rfl⟩
    rw [List.map_cons, List.map_cons] at hsections
    obtain ⟨hfound, hlater⟩ := List.cons.inj hsections
    obtain ⟨hva, hsize⟩ := Prod.mk.inj hfound
    obtain ⟨hsub, hadd⟩ := sectionRange profile (hpositive first List.mem_cons_self)
      fun hdev => hfits hdev first List.mem_cons_self
    rw [PeFile.offsetIn]
    simp only [hva, hsize, hsub, ok_bind, UInt32.toUInt32_toUInt64, hadd, inRange_iff_reaches]
    split
    · rename_i hreaches
      rw [if_pos ⟨first, List.mem_cons_self, hreaches⟩]
    · rename_i hreaches
      rw [ih hlater (fun row hrow => hpositive row (List.mem_cons_of_mem _ hrow))
        fun hdev row hrow => hfits hdev row (List.mem_cons_of_mem _ hrow)]
      simp [hreaches]

end vwfl.pe
