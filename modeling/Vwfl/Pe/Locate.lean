import Vwfl.Pe.Table
import Vwfl.Rust.Survives

open Rust LittleEndian

namespace vwfl.pe

/-- Words of the data, short at its end. -/
def u16At (data : List UInt8) (offset : Nat) : UInt16 := toUInt16 ((data.drop offset).take 2)

def u32At (data : List UInt8) (offset : Nat) : UInt32 := toUInt32 ((data.drop offset).take 4)

def u64At (data : List UInt8) (offset : Nat) : UInt64 := toUInt64 ((data.drop offset).take 8)

section Reads

variable {α : Type} {data : List UInt8} {offset : Nat}

theorem survives_readU16_bind_iff {f : UInt16 → Result α} :
    Survives (readU16 data offset >>= f) ↔ offset + 2 ≤ data.length ∧ Survives (f (u16At data offset)) := by
  unfold readU16
  rw [bind_assoc, survives_slice_bind_iff, Nat.add_sub_cancel_left]
  exact and_congr_left fun _ => ⟨fun h => h.2, fun h => ⟨Nat.le_add_right _ _, h⟩⟩

theorem survives_readU32_bind_iff {f : UInt32 → Result α} :
    Survives (readU32 data offset >>= f) ↔ offset + 4 ≤ data.length ∧ Survives (f (u32At data offset)) := by
  unfold readU32
  rw [bind_assoc, survives_slice_bind_iff, Nat.add_sub_cancel_left]
  exact and_congr_left fun _ => ⟨fun h => h.2, fun h => ⟨Nat.le_add_right _ _, h⟩⟩

theorem survives_readU64_bind_iff {f : UInt64 → Result α} :
    Survives (readU64 data offset >>= f) ↔ offset + 8 ≤ data.length ∧ Survives (f (u64At data offset)) := by
  unfold readU64
  rw [bind_assoc, survives_slice_bind_iff, Nat.add_sub_cancel_left]
  exact and_congr_left fun _ => ⟨fun h => h.2, fun h => ⟨Nat.le_add_right _ _, h⟩⟩

end Reads

/-- The row of the section table at an offset, without its name. -/
def rowAt (data : List UInt8) (sect_ptr : Nat) : SectionHeader where
  name := []
  virtual_size := u32At data (sect_ptr + 8)
  virtual_address := u32At data (sect_ptr + 12)
  size_of_raw_data := u32At data (sect_ptr + 16)
  pointer_to_raw_data := u32At data (sect_ptr + 20)

/-- The offsets of consecutive rows. -/
def rowOffsets : Nat → Nat → List Nat
  | 0, _ => []
  | count + 1, sect_ptr => sect_ptr :: rowOffsets count (sect_ptr + 40)

/-- A row lies in the file, and the sums that the search forms with it stay below
    2^32. -/
def RowFits (data : List UInt8) (rva : UInt32) (sect_ptr : Nat) : Prop :=
  sect_ptr + 24 ≤ data.length ∧
    ((rowAt data sect_ptr).virtual_address.toNat ≤ rva.toNat →
      (rowAt data sect_ptr).virtual_address.toNat + (rowAt data sect_ptr).extent.toNat < 2 ^ 32) ∧
    ((rowAt data sect_ptr).Covers rva.toNat →
      (rowAt data sect_ptr).pointer_to_raw_data.toNat + (rva.toNat - (rowAt data sect_ptr).virtual_address.toNat) <
        2 ^ 32)

/-- The file offset that the rows give for an address. -/
def findRow (data : List UInt8) (rva : UInt32) (offsets : List Nat) : Option Nat :=
  match offsets.find? fun sect_ptr => (rowAt data sect_ptr).Covers rva.toNat with
  | some sect_ptr =>
    some ((rowAt data sect_ptr).pointer_to_raw_data.toNat + (rva.toNat - (rowAt data sect_ptr).virtual_address.toNat))
  | none => if rva < 4096 then some rva.toNat else none

theorem survives_findSection_succ_iff {data : List UInt8} {rva : UInt32} {count sect_ptr : Nat} :
    Survives (findSection .dev data rva (count + 1) sect_ptr) ↔ sect_ptr + 24 ≤ data.length ∧
      Survives (visitRow .dev rva (rowAt data sect_ptr) (findSection .dev data rva count (sect_ptr + 40))) := by
  rw [findSection, survives_readU32_bind_iff, survives_readU32_bind_iff, survives_readU32_bind_iff,
    survives_readU32_bind_iff]
  constructor
  · rintro ⟨_, _, hinside, _, h⟩
    exact ⟨hinside, h⟩
  · rintro ⟨hinside, h⟩
    exact ⟨by omega, by omega, hinside, by omega, h⟩

theorem survives_visitRow_iff {rva : UInt32} {row : SectionHeader} {next : Result (Option Nat)} :
    Survives (visitRow .dev rva row next) ↔
      (row.virtual_address.toNat ≤ rva.toNat → row.virtual_address.toNat + row.extent.toNat < 2 ^ 32) ∧
        (row.Covers rva.toNat →
          row.pointer_to_raw_data.toNat + (rva.toNat - row.virtual_address.toNat) < 2 ^ 32) ∧
        (¬ row.Covers rva.toNat → Survives next) := by
  unfold visitRow
  by_cases hle : rva ≥ row.virtual_address
  · have hle' : row.virtual_address.toNat ≤ rva.toNat := UInt32.le_iff_toNat_le.mp hle
    rw [if_pos hle, Profile.survives_add32_bind_iff]
    have hround : row.virtual_address.toNat + row.extent.toNat < 2 ^ 32 → (Survives (if rva < row.virtual_address +
        row.extent then Profile.dev.sub32 rva row.virtual_address >>= fun delta =>
          Profile.dev.add32 row.pointer_to_raw_data delta >>= fun offset => return some offset.toNat else next) ↔
        (row.Covers rva.toNat →
          row.pointer_to_raw_data.toNat + (rva.toNat - row.virtual_address.toNat) < 2 ^ 32) ∧
        (¬ row.Covers rva.toNat → Survives next)) := by
      intro hend
      have hcovers : rva < row.virtual_address + row.extent ↔ row.Covers rva.toNat := by
        rw [UInt32.lt_iff_toNat_lt, UInt32.toNat_add, Nat.mod_eq_of_lt hend]
        exact ⟨fun h => ⟨hle', h⟩, fun h => h.2⟩
      by_cases hlt : row.Covers rva.toNat
      · rw [if_pos (hcovers.mpr hlt), Profile.survives_sub32_bind_iff, Profile.survives_add32_bind_iff,
          UInt32.toNat_sub_of_le _ _ hle]
        exact ⟨fun h => ⟨fun _ => h.2.1, fun hnot => absurd hlt hnot⟩, fun h => ⟨hle', h.1 hlt, survives_ok _⟩⟩
      · rw [if_neg fun h => hlt (hcovers.mp h)]
        exact ⟨fun h => ⟨fun hcovered => absurd hcovered hlt, fun _ => h⟩, fun h => h.2 hlt⟩
    constructor
    · rintro ⟨hend, h⟩
      exact ⟨fun _ => hend, (hround hend).mp h⟩
    · rintro ⟨hend, h⟩
      exact ⟨hend hle', (hround (hend hle')).mpr h⟩
  · have hnot : ¬ row.virtual_address.toNat ≤ rva.toNat := fun h => hle (UInt32.le_iff_toNat_le.mpr h)
    rw [if_neg hle]
    exact ⟨fun h => ⟨fun hle' => absurd hle' hnot, fun hcovers => absurd hcovers.1 hnot, fun _ => h⟩,
      fun h => h.2.2 fun hcovers => hnot hcovers.1⟩

/-- The search survives when all rows that it visits fit. -/
theorem survives_findSection_iff {data : List UInt8} {rva : UInt32} {count sect_ptr : Nat} :
    Survives (findSection .dev data rva count sect_ptr) ↔
      UpTo (RowFits data rva) (fun sect_ptr => (rowAt data sect_ptr).Covers rva.toNat) (rowOffsets count sect_ptr) := by
  induction count generalizing sect_ptr with
  | zero => exact ⟨fun _ => trivial, fun _ => survives_ok _⟩
  | succ count ih =>
    rw [survives_findSection_succ_iff, survives_visitRow_iff, ih, rowOffsets, UpTo, RowFits]
    tauto

theorem readU32_eq_u32At {data : List UInt8} {offset : Nat} (h : offset + 4 ≤ data.length) :
    readU32 data offset = .ok (u32At data offset) := by
  unfold readU32
  rw [slice_of_le ⟨Nat.le_add_right _ _, h⟩, Nat.add_sub_cancel_left]
  rfl

theorem readU16_eq_u16At {data : List UInt8} {offset : Nat} (h : offset + 2 ≤ data.length) :
    readU16 data offset = .ok (u16At data offset) := by
  unfold readU16
  rw [slice_of_le ⟨Nat.le_add_right _ _, h⟩, Nat.add_sub_cancel_left]
  rfl

theorem readU64_eq_u64At {data : List UInt8} {offset : Nat} (h : offset + 8 ≤ data.length) :
    readU64 data offset = .ok (u64At data offset) := by
  unfold readU64
  rw [slice_of_le ⟨Nat.le_add_right _ _, h⟩, Nat.add_sub_cancel_left]
  rfl

/-- A search that survives returns what its rows say. -/
theorem findSection_eq_findRow {data : List UInt8} {rva : UInt32} {count sect_ptr : Nat}
    (h : Survives (findSection .dev data rva count sect_ptr)) :
    findSection .dev data rva count sect_ptr = .ok (findRow data rva (rowOffsets count sect_ptr)) := by
  induction count generalizing sect_ptr with
  | zero => rfl
  | succ count ih =>
    obtain ⟨hinside, hvisit⟩ := survives_findSection_succ_iff.mp h
    have hround : findSection .dev data rva (count + 1) sect_ptr =
        visitRow .dev rva (rowAt data sect_ptr) (findSection .dev data rva count (sect_ptr + 40)) := by
      rw [findSection, readU32_eq_u32At (by omega), ok_bind, readU32_eq_u32At (by omega), ok_bind,
        readU32_eq_u32At (by omega), ok_bind, readU32_eq_u32At (by omega), ok_bind]
      rfl
    obtain ⟨hextent, hsum, hnext⟩ := survives_visitRow_iff.mp hvisit
    rw [hround]
    by_cases hcovers : (rowAt data sect_ptr).Covers rva.toNat
    · rw [visitRow_of_covers .dev (hextent hcovers.1) hcovers (hsum hcovers), findRow, rowOffsets,
        List.find?_cons_of_pos (by simpa using hcovers)]
    · rw [visitRow_of_not_covers .dev hextent hcovers, ih (hnext hcovers), findRow, findRow, rowOffsets,
        List.find?_cons_of_neg (by simpa using hcovers)]

/-- The rows that the headers of a file announce. -/
def tableOffsets (data : List UInt8) : List Nat :=
  let e_lfanew := (u32At data 0x3C).toNat
  rowOffsets (u16At data (e_lfanew + 6)).toNat (e_lfanew + 24 + (u16At data (e_lfanew + 20)).toNat)

/-- The headers and the rows that are visited for an address fit. -/
def TableFits (data : List UInt8) (rva : UInt32) : Prop :=
  0x40 ≤ data.length ∧ (u32At data 0x3C).toNat + 22 ≤ data.length ∧
    UpTo (RowFits data rva) (fun sect_ptr => (rowAt data sect_ptr).Covers rva.toNat) (tableOffsets data)

theorem survives_find_file_offset_iff {pe : PeFile} {rva : UInt32} :
    Survives (pe.find_file_offset .dev rva) ↔ TableFits pe.raw_bytes rva := by
  unfold PeFile.find_file_offset
  rw [survives_readU32_bind_iff, survives_readU16_bind_iff, survives_readU16_bind_iff, survives_findSection_iff]
  constructor
  · rintro ⟨hdos, _, hheader, h⟩
    exact ⟨hdos, hheader, h⟩
  · rintro ⟨hdos, hheader, h⟩
    exact ⟨hdos, by omega, hheader, h⟩

theorem find_file_offset_eq {pe : PeFile} {rva : UInt32} (h : Survives (pe.find_file_offset .dev rva)) :
    pe.find_file_offset .dev rva = .ok (findRow pe.raw_bytes rva (tableOffsets pe.raw_bytes)) := by
  obtain ⟨hdos, hheader, hrows⟩ := survives_find_file_offset_iff.mp h
  unfold PeFile.find_file_offset
  rw [readU32_eq_u32At hdos, ok_bind, readU16_eq_u16At (by omega), ok_bind, readU16_eq_u16At hheader, ok_bind]
  exact findSection_eq_findRow (survives_findSection_iff.mpr hrows)

/-- The relative address that a parsed section is searched with. -/
def PeFile.sectionStart (pe : PeFile) (found : Section) : UInt32 := (found.virtual_address - pe.image_base).toUInt32

/-- The range of a parsed section is formed without overflow. -/
def PeFile.SectionFits (pe : PeFile) (found : Section) : Prop :=
  pe.image_base.toNat ≤ found.virtual_address.toNat ∧
    (pe.sectionStart found).toNat + found.virtual_size.toUInt32.toNat < 2 ^ 32

def PeFile.SectionCovers (pe : PeFile) (rva : UInt32) (found : Section) : Prop :=
  (pe.sectionStart found).toNat ≤ rva.toNat ∧
    rva.toNat < (pe.sectionStart found).toNat + found.virtual_size.toUInt32.toNat

instance (pe : PeFile) (rva : UInt32) (found : Section) : Decidable (pe.SectionCovers rva found) :=
  inferInstanceAs (Decidable (_ ∧ _))

/-- The translation of an address forms no sum above its type and reads no word
    outside the file. -/
def PeFile.TranslationFits (pe : PeFile) (rva : UInt32) : Prop :=
  UpTo pe.SectionFits (pe.SectionCovers rva) pe.sections ∧
    ((∃ found ∈ pe.sections, pe.SectionCovers rva found) → TableFits pe.raw_bytes rva)

/-- The file offset of an address. -/
def PeFile.locate (pe : PeFile) (rva : UInt32) : Option Nat :=
  if ∃ found ∈ pe.sections, pe.SectionCovers rva found then
    findRow pe.raw_bytes rva (tableOffsets pe.raw_bytes)
  else none

private theorem inRange_iff {pe : PeFile} {rva : UInt32} {found : Section} (hfits : pe.SectionFits found) :
    (rva ≥ pe.sectionStart found ∧ rva < pe.sectionStart found + found.virtual_size.toUInt32) ↔
      pe.SectionCovers rva found := by
  rw [ge_iff_le, UInt32.le_iff_toNat_le, UInt32.lt_iff_toNat_lt, UInt32.toNat_add, Nat.mod_eq_of_lt hfits.2]
  rfl

/-- One round of the search of the parsed sections. -/
theorem survives_offsetIn_cons_iff {pe : PeFile} {rva : UInt32} {found : Section} {rest : List Section} :
    Survives (pe.offsetIn .dev rva (found :: rest)) ↔ pe.SectionFits found ∧
      (pe.SectionCovers rva found → Survives (pe.find_file_offset .dev rva)) ∧
      (¬ pe.SectionCovers rva found → Survives (pe.offsetIn .dev rva rest)) := by
  rw [PeFile.offsetIn, Profile.survives_sub64_bind_iff, Profile.survives_add32_bind_iff, ← and_assoc]
  refine and_congr_right fun hfits => ?_
  rw [← inRange_iff hfits]
  split
  · rename_i hcovers
    exact ⟨fun h => ⟨fun _ => h, fun hnot => absurd hcovers hnot⟩, fun h => h.1 hcovers⟩
  · rename_i hcovers
    exact ⟨fun h => ⟨fun hin => absurd hin hcovers, fun _ => h⟩, fun h => h.2 hcovers⟩

theorem offsetIn_cons {pe : PeFile} {rva : UInt32} {found : Section} {rest : List Section}
    (hfits : pe.SectionFits found) :
    pe.offsetIn .dev rva (found :: rest) =
      if pe.SectionCovers rva found then pe.find_file_offset .dev rva else pe.offsetIn .dev rva rest := by
  rw [PeFile.offsetIn, Profile.dev.sub64_of_le hfits.1, ok_bind]
  change (Profile.dev.add32 (pe.sectionStart found) found.virtual_size.toUInt32 >>= fun stop => _) = _
  rw [Profile.dev.add32_of_lt hfits.2, ok_bind]
  simp only [← inRange_iff hfits]
  rfl

/-- The translation survives exactly when it fits. -/
theorem survives_rva_to_offset_iff {pe : PeFile} {rva : UInt32} :
    Survives (pe.rva_to_offset .dev rva) ↔ pe.TranslationFits rva := by
  unfold PeFile.rva_to_offset PeFile.TranslationFits
  induction pe.sections with
  | nil => exact ⟨fun _ => ⟨trivial, fun ⟨_, hmem, _⟩ => absurd hmem List.not_mem_nil⟩, fun _ => survives_ok _⟩
  | cons found rest ih =>
    rw [survives_offsetIn_cons_iff, ih, survives_find_file_offset_iff, UpTo]
    by_cases hcovers : pe.SectionCovers rva found
    · simp [hcovers]
    · simp [hcovers, and_assoc]

private theorem offsetIn_eq_findRow {pe : PeFile} {rva : UInt32} {sections : List Section}
    (h : Survives (pe.offsetIn .dev rva sections)) :
    pe.offsetIn .dev rva sections = .ok (if ∃ found ∈ sections, pe.SectionCovers rva found then
      findRow pe.raw_bytes rva (tableOffsets pe.raw_bytes) else none) := by
  induction sections with
  | nil => simp [PeFile.offsetIn]
  | cons found rest ih =>
    obtain ⟨hfits, hhere, hlater⟩ := survives_offsetIn_cons_iff.mp h
    rw [offsetIn_cons hfits]
    by_cases hcovers : pe.SectionCovers rva found
    · rw [if_pos hcovers, if_pos ⟨found, List.mem_cons_self, hcovers⟩]
      exact find_file_offset_eq (hhere hcovers)
    · rw [if_neg hcovers, ih (hlater hcovers)]
      simp [hcovers]

theorem rva_to_offset_eq_locate {pe : PeFile} {rva : UInt32} (h : pe.TranslationFits rva) :
    pe.rva_to_offset .dev rva = .ok (pe.locate rva) :=
  offsetIn_eq_findRow (survives_rva_to_offset_iff.mpr h)

section Binds

variable {α : Type} {pe : PeFile}

theorem survives_rva_to_offset_bind_iff {rva : UInt32} {f : Option Nat → Result α} :
    Survives (pe.rva_to_offset .dev rva >>= f) ↔ pe.TranslationFits rva ∧ Survives (f (pe.locate rva)) :=
  survives_bind_of rva_to_offset_eq_locate survives_rva_to_offset_iff.mp f

/-- A lookup that is required to succeed: an address without a byte in the file
    ends the reader with an `Err`. -/
theorem survives_offsetOr_bind_iff {rva : UInt32} {message : String} {f : Nat → Result α} :
    Survives (pe.offsetOr .dev rva message >>= f) ↔
      pe.TranslationFits rva ∧ ∀ offset, pe.locate rva = some offset → Survives (f offset) := by
  unfold PeFile.offsetOr
  rw [bind_assoc, survives_rva_to_offset_bind_iff]
  refine and_congr_right fun _ => ?_
  cases pe.locate rva with
  | none => exact ⟨fun _ _ h => absurd h (by simp), fun _ => survives_err message⟩
  | some offset => exact ⟨fun h _ hother => Option.some.inj hother ▸ h, fun h => h offset rfl⟩

/-- The text at an offset. -/
def PeFile.cstring (pe : PeFile) (offset : Nat) : String :=
  from_utf8_lossy ((pe.raw_bytes.drop offset).takeWhile (· != 0))

theorem read_cstring_eq_cstring {offset : Nat} (h : offset ≤ pe.raw_bytes.length) :
    pe.read_cstring offset = .ok (pe.cstring offset) := by
  have htext := @List.takeWhile_prefix _ (pe.raw_bytes.drop offset) (· != 0)
  have hlength := htext.length_le
  rw [List.length_drop] at hlength
  unfold PeFile.read_cstring
  simp only
  rw [slice_of_le ⟨Nat.le_add_right _ _, by omega⟩, Nat.add_sub_cancel_left, ok_bind,
    ← List.prefix_iff_eq_take.mp htext]
  rfl

/-- A text only has to start in the file. -/
theorem survives_read_cstring_bind_iff {offset : Nat} {f : String → Result α} :
    Survives (pe.read_cstring offset >>= f) ↔ offset ≤ pe.raw_bytes.length ∧ Survives (f (pe.cstring offset)) := by
  refine survives_bind_of read_cstring_eq_cstring (fun h => ?_) f
  unfold PeFile.read_cstring at h
  simp only at h
  have hinside := (survives_slice_bind_iff.mp h).1
  omega

end Binds

/-- The entry of a data directory, absent when it does not lie in the file. -/
def PeFile.directory (pe : PeFile) (index : Nat) : Option (UInt32 × UInt32) :=
  let data_dir_offset := (u32At pe.raw_bytes 0x3C).toNat + 24 + 112 + index * 8
  if data_dir_offset + 8 ≤ pe.raw_bytes.length then
    some (u32At pe.raw_bytes data_dir_offset, u32At pe.raw_bytes (data_dir_offset + 4))
  else none

theorem survives_get_data_directory_bind_iff {α : Type} {pe : PeFile} {index : Nat} {f : UInt32 × UInt32 → Result α} :
    Survives (pe.get_data_directory index >>= f) ↔
      0x40 ≤ pe.raw_bytes.length ∧ ∀ entry, pe.directory index = some entry → Survives (f entry) := by
  unfold PeFile.get_data_directory PeFile.directory
  rw [bind_assoc, survives_readU32_bind_iff]
  refine and_congr_right fun _ => ?_
  simp only
  by_cases hinside : (u32At pe.raw_bytes 0x3C).toNat + 24 + 112 + index * 8 + 8 ≤ pe.raw_bytes.length
  · rw [if_neg (by omega), if_pos hinside, readU32_eq_u32At (by omega), ok_bind, readU32_eq_u32At (by omega), ok_bind]
    exact ⟨fun h _ hentry => Option.some.inj hentry ▸ h, fun h => h _ rfl⟩
  · rw [if_pos (by omega), if_neg hinside]
    exact ⟨fun _ _ h => absurd h (by simp), fun _ => survives_err _⟩

end vwfl.pe
