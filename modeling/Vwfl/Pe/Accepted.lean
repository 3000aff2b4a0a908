import Vwfl.ByteStore.Basic
import Vwfl.Pe.Parsed
import Vwfl.Pe.Survival

open Rust LittleEndian

namespace vwfl.pe

/-- The section of the object crate for a row of the section table. -/
def SectionHeader.objectSection (row : SectionHeader) (bytes : List UInt8) (image_base : UInt64)
    (name : Option String) : ObjectSection where
  name
  address := image_base + row.virtual_address.toUInt64
  size := row.virtual_size.toUInt64
  data := (slice bytes row.pointer_to_raw_data.toNat
    (row.pointer_to_raw_data.toNat + min row.virtual_size.toNat row.size_of_raw_data.toNat)).toOption

/-- A file that the parser accepts. The object crate lists a section for every
    row of the section table, with a name where it can read one. -/
structure AcceptedImage (object : ObjectCrate) (pe : PeFile) extends SectionTable pe.raw_bytes where
  parsed : parse object pe.raw_bytes = .ok pe
  names : List (Option String)
  names_length : names.length = rows.length
  listed : (object pe.raw_bytes).map ObjectFile.sections =
    some ((rows.zip names).map fun (row, name) => row.objectSection pe.raw_bytes pe.image_base name)

/-- The address lies in the part of the section that the file backs. -/
def SectionHeader.Backs (row : SectionHeader) (rva : Nat) : Prop :=
  row.virtual_address.toNat ≤ rva ∧
    rva - row.virtual_address.toNat < min row.virtual_size.toNat row.size_of_raw_data.toNat

theorem SectionHeader.Backs.positive {row : SectionHeader} {rva : Nat} (h : row.Backs rva) : 0 < row.virtual_size := by
  obtain ⟨_, hdelta⟩ := h
  rw [UInt32.lt_iff_toNat_lt, UInt32.toNat_zero]
  omega

theorem SectionHeader.Backs.covers {row : SectionHeader} {rva : Nat} (h : row.Backs rva) : row.Covers rva := by
  have hpositive := h.positive
  obtain ⟨hlow, hdelta⟩ := h
  rw [SectionHeader.Covers, SectionHeader.extent, if_pos hpositive]
  omega

/-- Rows that share no address. -/
def SectionHeader.Apart (first second : SectionHeader) : Prop :=
  ByteStore.Disjoint first.virtual_address.toNat first.extent.toNat second.virtual_address.toNat second.extent.toNat

instance (first second : SectionHeader) : Decidable (first.Apart second) :=
  inferInstanceAs (Decidable (ByteStore.Disjoint _ _ _ _))

/-- Rows that share no address cover no address twice. -/
theorem eq_of_covers {rows : List SectionHeader} (hdisjoint : rows.Pairwise SectionHeader.Apart)
    {first second : SectionHeader} (hfirst : first ∈ rows) (hsecond : second ∈ rows) {rva : Nat}
    (hcovers : first.Covers rva) (hcovered : second.Covers rva) : first = second := by
  by_contra hne
  have hsymmetric : Std.Symm SectionHeader.Apart := ⟨fun _ _ h => h.symm⟩
  exact hdisjoint.forall hfirst hsecond hne rva hcovers hcovered

/-- A parsed section is the copy of a row. -/
structure CopyOf (pe : PeFile) (row : SectionHeader) (found : Section) : Prop where
  positive : 0 < row.virtual_size
  address : found.virtual_address = pe.image_base + row.virtual_address.toUInt64
  size : found.virtual_size = row.virtual_size.toUInt64
  data : slice pe.raw_bytes row.pointer_to_raw_data.toNat (row.pointer_to_raw_data.toNat +
    min row.virtual_size.toNat row.size_of_raw_data.toNat) = .ok found.raw_data

namespace CopyOf

variable {pe : PeFile} {row : SectionHeader} {found : Section}

theorem length_eq (h : CopyOf pe row found) :
    found.raw_data.length = min row.virtual_size.toNat row.size_of_raw_data.toNat := by
  have hstop := (slice_eq_ok_iff.mp h.data).1
  omega

theorem length_le (h : CopyOf pe row found) : found.raw_data.length ≤ row.extent.toNat := by
  rw [h.length_eq, SectionHeader.extent, if_pos h.positive]
  exact Nat.min_le_left _ _

/-- The bytes of the copy, in the file. -/
theorem getElem_eq (h : CopyOf pe row found) {index : Nat}
    (hindex : index < min row.virtual_size.toNat row.size_of_raw_data.toNat) :
    ∃ hcopied : index < found.raw_data.length,
      pe.raw_bytes[row.pointer_to_raw_data.toNat + index]? = some found.raw_data[index] := by
  rw [← h.length_eq] at hindex
  refine ⟨hindex, ?_⟩
  have hcontent := (slice_eq_ok_iff.mp h.data).2.content
  rw [← List.getElem?_eq_getElem hindex, ← hcontent, List.getElem?_take_of_lt, List.getElem?_drop]
  exact hindex

theorem extent (h : CopyOf pe row found) : row.extent = row.virtual_size := if_pos h.positive

theorem sectionStart (h : CopyOf pe row found) : pe.sectionStart found = row.virtual_address := by
  rw [PeFile.sectionStart, h.address, UInt64.add_comm, UInt64.add_sub_cancel, UInt32.toUInt32_toUInt64]

theorem sectionCovers_iff (h : CopyOf pe row found) {rva : UInt32} :
    pe.SectionCovers rva found ↔ row.Covers rva.toNat := by
  rw [PeFile.SectionCovers, SectionHeader.Covers, h.sectionStart, h.size, h.extent, UInt32.toUInt32_toUInt64]

theorem sectionFits_iff (h : CopyOf pe row found) : pe.SectionFits found ↔ row.Fits pe.image_base := by
  have haddress := row.virtual_address.toNat_lt
  have hbase := pe.image_base.toNat_lt
  rw [PeFile.SectionFits, h.sectionStart, h.size, h.address, UInt32.toUInt32_toUInt64, UInt64.toNat_add,
    UInt32.toNat_toUInt64, ← h.extent]
  constructor
  · rintro ⟨hle, hextent⟩
    refine ⟨hextent, ?_⟩
    by_contra hwraps
    rw [Nat.mod_eq_sub_mod (by omega), Nat.mod_eq_of_lt (by omega)] at hle
    omega
  · rintro ⟨hextent, hsum⟩
    rw [Nat.mod_eq_of_lt hsum]
    exact ⟨Nat.le_add_right _ _, hextent⟩

end CopyOf

/-- A search that fits and reaches no section forms the ranges of all sections. -/
private theorem fits_of_upTo {pe : PeFile} {rva : UInt32} {rows : List SectionHeader} {sections : List Section}
    (hcopies : List.Forall₂ (CopyOf pe) rows sections) (h : UpTo pe.SectionFits (pe.SectionCovers rva) sections)
    (hnone : ∀ row ∈ rows, ¬ row.Reaches rva.toNat) : ∀ row ∈ rows, row.Fits pe.image_base := by
  induction hcopies with
  | nil => simp
  | cons hcopy hrest ih =>
    obtain ⟨hfits, hlater⟩ := h
    obtain ⟨hmisses, hnone⟩ := List.forall_mem_cons.mp hnone
    have hfits := hcopy.sectionFits_iff.mp hfits
    refine List.forall_mem_cons.mpr ⟨hfits, ih (hlater fun hcovers => ?_) hnone⟩
    exact hmisses ⟨hcopy.sectionCovers_iff.mp hcovers, hfits.extent⟩

namespace AcceptedImage

variable {object : ObjectCrate} {pe : PeFile} (image : AcceptedImage object pe)

/-- Rows whose sections the parser keeps: they have a size, and a name that can
    be read. -/
def keptRows : List SectionHeader :=
  ((image.rows.zip image.names).filter fun (row, name) => name.isSome && 0 < row.virtual_size).map Prod.fst

/-- A section whose name can be read contains the address. -/
def Named (rva : Nat) : Prop := ∃ row ∈ image.keptRows, row.Covers rva

instance (rva : Nat) : Decidable (image.Named rva) :=
  inferInstanceAs (Decidable (∃ row ∈ image.keptRows, row.Covers rva))

variable {image}

theorem mem_keptRows_iff {row : SectionHeader} : row ∈ image.keptRows ↔
    0 < row.virtual_size ∧ ∃ name, (row, some name) ∈ image.rows.zip image.names := by
  simp only [keptRows, List.mem_map, List.mem_filter, Bool.and_eq_true, decide_eq_true_eq]
  constructor
  · rintro ⟨⟨row, name⟩, ⟨hmem, hname, hpositive⟩, rfl⟩
    obtain ⟨text, rfl⟩ := Option.isSome_iff_exists.mp hname
    exact ⟨hpositive, text, hmem⟩
  · rintro ⟨hpositive, name, hmem⟩
    exact ⟨(row, some name), ⟨hmem, rfl, hpositive⟩, rfl⟩

theorem mem_rows_of_kept {row : SectionHeader} (h : row ∈ image.keptRows) : row ∈ image.rows := by
  obtain ⟨_, name, hmem⟩ := mem_keptRows_iff.mp h
  exact (List.of_mem_zip hmem).1

theorem extent_of_kept {row : SectionHeader} (h : row ∈ image.keptRows) : row.extent = row.virtual_size :=
  if_pos (mem_keptRows_iff.mp h).1

private theorem zip_apart (hdisjoint : image.rows.Pairwise SectionHeader.Apart) :
    (image.rows.zip image.names).Pairwise fun first second => first.1.Apart second.1 := by
  rwa [← List.pairwise_map (f := Prod.fst), List.map_fst_zip image.names_length.ge]

/-- A row that covers an address has one name. -/
theorem name_unique (image : AcceptedImage object pe) (hdisjoint : image.rows.Pairwise SectionHeader.Apart)
    {row : SectionHeader} {first second : Option String} (hfirst : (row, first) ∈ image.rows.zip image.names)
    (hsecond : (row, second) ∈ image.rows.zip image.names) {rva : Nat} (hcovers : row.Covers rva) : first = second := by
  by_contra hne
  have hsymmetric : Std.Symm fun first second : SectionHeader × Option String => first.1.Apart second.1 :=
    ⟨fun _ _ h => h.symm⟩
  refine (zip_apart hdisjoint).forall hfirst hsecond ?_ rva hcovers hcovers
  simpa using hne

theorem keptRows_apart (image : AcceptedImage object pe) (hdisjoint : image.rows.Pairwise SectionHeader.Apart) :
    image.keptRows.Pairwise SectionHeader.Apart := by
  rw [keptRows, List.pairwise_map]
  exact (zip_apart hdisjoint).filter _

/-- The parsed sections are the kept rows, in their order. -/
theorem sections_copy (image : AcceptedImage object pe) : List.Forall₂ (CopyOf pe) image.keptRows pe.sections := by
  obtain ⟨file, hparsed⟩ := parse_eq_ok image.parsed
  have hlisted := image.listed
  rw [hparsed.accepted, Option.map_some, Option.some.injEq] at hlisted
  have hcopied := extract_sections_forall₂ hparsed.sections
  rw [hlisted, List.filter_map, List.forall₂_map_left_iff] at hcopied
  have hkept :
      (ObjectSection.kept ∘ fun (row, name) => SectionHeader.objectSection row pe.raw_bytes pe.image_base name) =
        fun ((row, name) : SectionHeader × Option String) => name.isSome && decide (0 < row.virtual_size) := by
    funext ⟨row, name⟩
    simp [ObjectSection.kept, SectionHeader.objectSection, UInt64.lt_iff_toNat_lt, UInt32.lt_iff_toNat_lt]
  rw [hkept] at hcopied
  rw [keptRows, List.forall₂_map_left_iff]
  refine hcopied.imp fun entry found hextracted => ?_
  have hpositive : 0 < entry.1.virtual_size := by
    have hfound := hextracted.positive
    rw [← hextracted.size] at hfound
    simpa [SectionHeader.objectSection, UInt32.lt_iff_toNat_lt] using hfound
  refine ⟨hpositive, hextracted.address.symm, hextracted.size.symm, ?_⟩
  have hdata := hextracted.data
  dsimp only [SectionHeader.objectSection] at hdata
  cases hslice : slice pe.raw_bytes entry.1.pointer_to_raw_data.toNat (entry.1.pointer_to_raw_data.toNat +
      min entry.1.virtual_size.toNat entry.1.size_of_raw_data.toNat) with
  | error fault =>
    rw [hslice] at hdata
    cases hdata
  | ok bytes =>
    rw [hslice] at hdata
    cases hdata
    rfl

theorem exists_copy {row : SectionHeader} (h : row ∈ image.keptRows) : ∃ found ∈ pe.sections, CopyOf pe row found := by
  obtain ⟨index, hindex, rfl⟩ := List.getElem_of_mem h
  have hfound := image.sections_copy.length_eq ▸ hindex
  exact ⟨_, List.getElem_mem hfound, image.sections_copy.get hindex hfound⟩

theorem exists_row (image : AcceptedImage object pe) {found : Section} (h : found ∈ pe.sections) :
    ∃ row ∈ image.keptRows, CopyOf pe row found := by
  obtain ⟨index, hindex, rfl⟩ := List.getElem_of_mem h
  have hrow := image.sections_copy.length_eq ▸ hindex
  exact ⟨_, List.getElem_mem hrow, image.sections_copy.get hrow hindex⟩

/-- The header of an accepted file is not empty. -/
theorem header_data_ne_nil (image : AcceptedImage object pe) : pe.header_data ≠ [] := by
  obtain ⟨file, hparsed⟩ := parse_eq_ok image.parsed
  have hinside := image.e_lfanew_at.inside
  rw [length_ofUInt32] at hinside
  rw [hparsed.header_data, ← List.length_pos_iff, List.length_take]
  omega

/-- The search of the parsed sections, over the kept rows. -/
private theorem offsetIn_sections (profile : Profile)
    (hfits : profile = .dev → ∀ row ∈ image.keptRows, row.Fits pe.image_base) (rva : UInt32) :
    pe.rva_to_offset profile rva =
      if ∃ row ∈ image.keptRows, row.Reaches rva.toNat then pe.find_file_offset profile rva else .ok none := by
  refine offsetIn_eq profile pe ?_ (fun row hrow => (mem_keptRows_iff.mp hrow).1) hfits rva
  rw [← List.forall₂_eq_eq_eq, List.forall₂_map_left_iff, List.forall₂_map_right_iff]
  exact image.sections_copy.flip.imp fun _ _ hcopy => Prod.ext hcopy.address hcopy.size

/-- An address that no kept row reaches has no offset. -/
theorem rva_to_offset_eq_none (image : AcceptedImage object pe) (profile : Profile)
    (hfits : profile = .dev → ∀ row ∈ image.keptRows, row.Fits pe.image_base) {rva : UInt32}
    (hnone : ∀ row ∈ image.keptRows, ¬ row.Reaches rva.toNat) : pe.rva_to_offset profile rva = .ok none := by
  rw [offsetIn_sections profile hfits, if_neg]
  rintro ⟨row, hrow, hreaches⟩
  exact hnone row hrow hreaches

/-- An address that a kept row reaches has the offset that the row gives. -/
theorem rva_to_offset_of_reaches (profile : Profile) (hdisjoint : image.rows.Pairwise SectionHeader.Apart)
    (hfits : profile = .dev → ∀ row ∈ image.rows, row.Fits pe.image_base) {rva : UInt32} {row : SectionHeader}
    (hrow : row ∈ image.keptRows) (hreaches : row.Reaches rva.toNat) :
    pe.rva_to_offset profile rva =
      profile.add32 row.pointer_to_raw_data (rva - row.virtual_address) >>= fun offset => .ok (some offset.toNat) := by
  have hmem := mem_rows_of_kept hrow
  have hfound : image.rows.find? (fun row => row.Reaches rva.toNat) = some row := by
    have hany : (image.rows.find? fun row => row.Reaches rva.toNat).isSome :=
      List.find?_isSome.mpr ⟨row, hmem, decide_eq_true hreaches⟩
    obtain ⟨found, hfound⟩ := Option.isSome_iff_exists.mp hany
    have hcovered : found.Reaches rva.toNat := by simpa using List.find?_some hfound
    rw [hfound, eq_of_covers hdisjoint hmem (List.mem_of_find?_eq_some hfound) hreaches.1 hcovered.1]
  have hcount : (UInt16.ofNat image.rows.length).toNat = image.rows.length := UInt16.toNat_ofNat_of_lt' image.count_lt
  rw [offsetIn_sections profile (fun hdev kept hkept => hfits hdev kept (mem_rows_of_kept hkept)),
    if_pos ⟨row, hrow, hreaches⟩]
  unfold PeFile.find_file_offset
  rw [readU32_eq_ok_iff.mpr image.e_lfanew_at, ok_bind, readU16_eq_ok_iff.mpr image.count_at, ok_bind,
    readU16_eq_ok_iff.mpr image.opt_size_at, ok_bind, hcount]
  exact findSection_eq_add profile image.rows_at (fun hdev other hother => (hfits hdev other hother).extent) hfound

/-- Behind a file-backed address there is another address below 2^32. -/
theorem succ_rva_lt (hfits : ∀ row ∈ image.rows, row.Fits pe.image_base) {rva offset : Nat}
    (h : FileBacked image.rows rva offset) : rva + 1 < 2 ^ 32 := by
  obtain ⟨row, hfound, _⟩ := h
  have hcovers : row.Covers rva := by simpa using List.find?_some hfound
  have hextent := (hfits row (List.mem_of_find?_eq_some hfound)).extent
  exact Nat.lt_of_le_of_lt hcovers.2 hextent

/-- A file-backed address is translated when a section with a readable name
    contains it. -/
theorem rva_to_offset_of_fileBacked (profile : Profile) (hfits : ∀ row ∈ image.rows, row.Fits pe.image_base)
    {rva offset : Nat} (h : FileBacked image.rows rva offset) :
    pe.rva_to_offset profile (UInt32.ofNat rva) = .ok (if image.Named rva then some offset else none) := by
  have hword : (UInt32.ofNat rva).toNat = rva := UInt32.toNat_ofNat_of_lt' (Nat.lt_of_succ_lt (succ_rva_lt hfits h))
  have hnamed : (∃ row ∈ image.keptRows, row.Reaches (UInt32.ofNat rva).toNat) ↔ image.Named rva := by
    rw [hword]
    refine exists_congr fun row => and_congr_right fun hrow => ?_
    rw [SectionHeader.Reaches, and_iff_left (hfits row (mem_rows_of_kept hrow)).extent]
  have hcount : (UInt16.ofNat image.rows.length).toNat = image.rows.length := UInt16.toNat_ofNat_of_lt' image.count_lt
  rw [offsetIn_sections profile fun _ row hrow => hfits row (mem_rows_of_kept hrow)]
  simp only [hnamed]
  split
  · obtain ⟨row, hfound, _, rfl, hoffset⟩ := h
    unfold PeFile.find_file_offset
    rw [readU32_eq_ok_iff.mpr image.e_lfanew_at, ok_bind, readU16_eq_ok_iff.mpr image.count_at, ok_bind,
      readU16_eq_ok_iff.mpr image.opt_size_at, ok_bind, hcount]
    rw [← hword] at hfound hoffset
    rw [findSection_eq profile image.rows_at (fun row hrow => (hfits row hrow).extent) hfound hoffset, hword]
  · rfl

/-- A file-backed address that is translated lies in a section with a readable
    name. -/
theorem named_of_rva_to_offset (hfits : ∀ row ∈ image.rows, row.Fits pe.image_base) {profile : Profile}
    {rva offset found : Nat} (h : FileBacked image.rows rva offset)
    (hfound : pe.rva_to_offset profile (UInt32.ofNat rva) = .ok (some found)) :
    image.Named rva ∧ found = offset := by
  rw [rva_to_offset_of_fileBacked profile hfits h] at hfound
  split at hfound
  · rename_i hnamed
    exact ⟨hnamed, (Option.some.inj (Except.ok.inj hfound)).symm⟩
  · cases hfound

/-- The tables in the file-backed parts of sections whose names can be read. -/
def named (image : AcceptedImage object pe) (magic : Magic) (TextAt : List UInt8 → Nat → String → Prop) : Reading :=
  { image.reading magic TextAt with Located rva offset := FileBacked image.rows rva offset ∧ image.Named rva }

theorem named_le (profile : Profile) (magic : Magic) (hfits : ∀ row ∈ image.rows, row.Fits pe.image_base)
    {TextAt : List UInt8 → Nat → String → Prop}
    (htext : ∀ {bytes offset text}, TextAt bytes offset text → CStringAt bytes offset text) :
    (image.named magic TextAt).Le (pe.reading profile magic) where
  magic := rfl
  bytes := rfl
  located := by
    rintro rva offset ⟨hbacked, hnamed⟩
    exact (rva_to_offset_of_fileBacked profile hfits hbacked).trans (by rw [if_pos hnamed])
  holds := id
  text h := read_cstring_eq (htext h)

/-- A returned offset does not depend on overflow checks. -/
theorem rva_to_offset_release {profile : Profile} {rva : UInt32} {found : Option Nat}
    (h : pe.rva_to_offset profile rva = .ok found) : pe.rva_to_offset .release rva = .ok found := by
  cases profile with
  | release => exact h
  | dev =>
    rw [rva_to_offset_agrees .release pe rva (h ▸ survives_ok found)]
    exact h

/-- With overflow checks a search that finds nothing has formed all ranges. -/
theorem fits_of_rva_to_offset_eq_none {rva : UInt32} (h : pe.rva_to_offset .dev rva = .ok none)
    (hnone : ∀ row ∈ image.keptRows, ¬ row.Reaches rva.toNat) : ∀ row ∈ image.keptRows, row.Fits pe.image_base := by
  exact fits_of_upTo image.sections_copy (survives_rva_to_offset_iff.mp (h ▸ survives_ok none)).1 hnone

end AcceptedImage

deriving instance DecidableEq for ObjectSection

/-- A name in UTF-8, absent for other bytes. -/
def utf8Name (bytes : List UInt8) : Option String :=
  let text := from_utf8_lossy bytes
  if as_bytes text = bytes then some text else none

/-- The section names in the section table at `sect_ptr`. -/
def headerNames (bytes : List UInt8) : Nat → Nat → List (List UInt8)
  | 0, _ => []
  | count + 1, sect_ptr => ((bytes.drop sect_ptr).take 8).takeWhile (· != 0) :: headerNames bytes count (sect_ptr + 40)

/-- The object crate on PE32+ images with short section names, which it reads
    where they are in UTF-8. -/
def utf8Crate : ObjectCrate := fun bytes => (peCrate bytes).map fun file =>
  let nt_header := (u32At bytes 0x3C).toNat
  let names := headerNames bytes file.sections.length (nt_header + 24 + (u16At bytes (nt_header + 20)).toNat)
  { file with sections := file.sections.zipWith (fun found name => { found with name := utf8Name name }) names }

end vwfl.pe
