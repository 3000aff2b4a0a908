import Vwfl.Loader.Relocated
import Vwfl.Pe.Inside
import Vwfl.Rust.Lists

open Rust ByteStore
open vwfl.vm vwfl.pe AcceptedImage

namespace vwfl.loader

variable {profile : Profile} {load_pbase : UInt64} {object : ObjectCrate} {pe : PeFile}

/-- Copying the sections of an image that ends below 4 GiB, from a base in guest
    memory. -/
private theorem copySections_mem {sections : List Section} (hbase : load_pbase.toNat ≤ MEM_SIZE.toNat)
    (hrva : ∀ found ∈ sections, sectionRva pe found < 2 ^ 32) {before after : Vm}
    (h : (forM sections (loadSection profile pe load_pbase)).run before = .ok () after) :
    after.mem = storeAll before.mem
      (sections.map fun found => (load_pbase.toNat + sectionRva pe found, found.raw_data)) := by
  induction sections generalizing before with
  | nil =>
    cases h
    rfl
  | cons found rest ih =>
    rw [List.forM_cons] at h
    obtain ⟨_, middle, hfound, hrest⟩ := Stateful.bind_run_eq_ok_iff.mp h
    obtain ⟨hhere, hlater⟩ := List.forall_mem_cons.mp hrva
    obtain ⟨phys_dest, start, hadd, hwrite⟩ := Stateful.bind_run_eq_ok_iff.mp hfound
    obtain ⟨hdest, rfl⟩ := Stateful.lift_run_eq_ok_iff.mp hadd
    have hplace : phys_dest.toNat = load_pbase.toNat + sectionRva pe found := by
      have hsize := MEM_SIZE_toNat
      unfold sectionRva at hhere ⊢
      rw [Profile.eq_of_add64 hdest, BitField.toNat_add_of_lt (by omega)]
    rw [ih hlater hrest, (Vm.write_memory_eq_ok hwrite).2, List.map_cons, storeAll_cons, hplace]

/-- A copy that returns has stored the header and every section. -/
theorem copyImage_mem (hheader : pe.header_data ≠ []) (hrva : ∀ found ∈ pe.sections, sectionRva pe found < 2 ^ 32)
    {before after : Vm} (h : (copyImage profile pe load_pbase).run before = .ok () after) :
    after.mem = storeAll before.mem (imageWrites pe load_pbase) := by
  obtain ⟨_, header, hheaderRun, hsections⟩ := Stateful.bind_run_eq_ok_iff.mp h
  obtain ⟨hbase, hmem⟩ := loadHeader_eq_ok hheaderRun
  rw [imageWrites, storeAll_cons, ← hmem]
  exact copySections_mem (hbase hheader) hrva hsections

/-- The file and the memory hold the same byte of an address: the translation
    gives an offset, and wherever the image is copied to, the byte at the address
    is the byte of the file. -/
def ViewsAgree (profile : Profile) (pe : PeFile) (rva : UInt32) : Prop :=
  ∃ offset byte, pe.rva_to_offset profile rva = .ok (some offset) ∧ pe.raw_bytes[offset]? = some byte ∧
    ∀ load_pbase before copied, (copyImage profile pe load_pbase).run before = .ok () copied →
      copied.mem (load_pbase.toNat + rva.toNat) = byte

/-- A copied section lies at the address of its row. -/
private theorem sectionRva_eq {row : SectionHeader} {found : Section} (h : CopyOf pe row found) :
    sectionRva pe found = row.virtual_address.toNat := by
  rw [sectionRva, h.address, UInt64.add_comm, UInt64.add_sub_cancel, UInt32.toNat_toUInt64]

private theorem sectionRva_lt (image : AcceptedImage object pe) :
    ∀ found ∈ pe.sections, sectionRva pe found < 2 ^ 32 := by
  intro found hfound
  obtain ⟨row, _, hcopy⟩ := image.exists_row hfound
  rw [sectionRva_eq hcopy]
  exact row.virtual_address.toNat_lt

/-- Sections copied from rows that share no address do not overlap. -/
private theorem sections_disjoint (image : AcceptedImage object pe)
    (hdisjoint : image.rows.Pairwise SectionHeader.Apart) : pe.sections.Pairwise fun first second =>
      Disjoint (sectionRva pe first) first.raw_data.length (sectionRva pe second) second.raw_data.length := by
  refine pairwise_of_forall₂ image.sections_copy (image.keptRows_apart hdisjoint) ?_
  intro first second found other hfirst hsecond hapart
  have hlength := hfirst.length_le
  have hlengthOther := hsecond.length_le
  rw [SectionHeader.Apart, disjoint_iff] at hapart
  rw [disjoint_iff, sectionRva_eq hfirst, sectionRva_eq hsecond]
  omega

/-- The two views of an address in the file-backed part of a section agree
    exactly when the name of the section can be read and the offset of the byte
    is below 2^32. -/
theorem viewsAgree_iff (image : AcceptedImage object pe) (hdisjoint : image.rows.Pairwise SectionHeader.Apart)
    (hfits : ∀ row ∈ image.rows, row.Fits pe.image_base) {row : SectionHeader} {name : Option String}
    (hrow : (row, name) ∈ image.rows.zip image.names) {rva : UInt32} (hbacks : row.Backs rva.toNat) :
    (∀ profile, ViewsAgree profile pe rva) ↔
      name.isSome ∧ row.pointer_to_raw_data.toNat + (rva.toNat - row.virtual_address.toNat) < 2 ^ 32 := by
  have hmem := (List.of_mem_zip hrow).1
  have hreaches : row.Reaches rva.toNat := ⟨hbacks.covers, (hfits row hmem).extent⟩
  have hdelta := UInt32.toNat_sub_of_le _ _ (UInt32.le_iff_toNat_le.mpr hbacks.1)
  constructor
  · intro h
    obtain ⟨offset, _, hoffset, _⟩ := h .dev
    cases name with
    | none =>
      exfalso
      rw [image.rva_to_offset_eq_none .dev fun _ kept hkept => hfits kept (mem_rows_of_kept hkept)] at hoffset
      · cases hoffset
      · intro kept hkept hother
        obtain rfl := eq_of_covers hdisjoint hmem (mem_rows_of_kept hkept) hreaches.1 hother.1
        obtain ⟨_, text, hnamed⟩ := mem_keptRows_iff.mp hkept
        cases image.name_unique hdisjoint hrow hnamed hreaches.1
    | some text =>
      have hkept : row ∈ image.keptRows := mem_keptRows_iff.mpr ⟨hbacks.positive, text, hrow⟩
      rw [rva_to_offset_of_reaches .dev hdisjoint (fun _ => hfits) hkept hreaches] at hoffset
      obtain ⟨sum, hsum, _⟩ := bind_eq_ok_iff.mp hoffset
      rw [← hdelta]
      exact ⟨rfl, (Profile.add32_eq_ok_iff.mp hsum).1 rfl⟩
  · rintro ⟨hname, hsum⟩ profile
    obtain ⟨text, rfl⟩ := Option.isSome_iff_exists.mp hname
    have hkept : row ∈ image.keptRows := mem_keptRows_iff.mpr ⟨hbacks.positive, text, hrow⟩
    obtain ⟨found, hfound, hcopy⟩ := exists_copy hkept
    obtain ⟨hindex, hbyte⟩ := hcopy.getElem_eq hbacks.2
    refine ⟨_, found.raw_data[rva.toNat - row.virtual_address.toNat], ?_, hbyte,
      fun load_pbase before copied hcopied => ?_⟩
    · rw [← hdelta] at hsum ⊢
      rw [rva_to_offset_of_reaches profile hdisjoint (fun _ => hfits) hkept hreaches, profile.add32_of_lt hsum, ok_bind,
        UInt32.toNat_add, Nat.mod_eq_of_lt hsum]
    · have hmemory :=
        @imageWrites_content pe load_pbase before.mem (sections_disjoint image hdisjoint) found hfound _ hindex
      rwa [← copyImage_mem image.header_data_ne_nil (sectionRva_lt image) hcopied, sectionRva_eq hcopy, Nat.add_assoc,
        Nat.add_sub_cancel' hbacks.1] at hmemory

/-- The byte of a text section that ends in zeros is the byte in memory. -/
theorem viewsAgree_iff_tail : ViewsAgree .dev tailPe 0x1000 ∧ ViewsAgree .release tailPe 0x1000 := by
  have hrow : (⟨[0x2E, 0x74, 0x65, 0x78, 0x74], 2, 0x1000, 1, 408⟩, some ".text") ∈
      tailImage.rows.zip tailImage.names :=
    List.mem_cons_self
  have hagree : ∀ profile, ViewsAgree profile tailPe 0x1000 :=
    (viewsAgree_iff tailImage (by decide) (by decide) hrow ⟨by decide, by decide⟩).mpr ⟨rfl, by decide⟩
  exact ⟨hagree .dev, hagree .release⟩

/-- An image whose section name is not in UTF-8. -/
def namelessRow : SectionHeader := ⟨[0xFF], 1, 0x1000, 1, 368⟩

def namelessFile : List UInt8 := peImage 0x180000000 0x1000 (0, 0) (0, 0) [namelessRow] [0xC3]

def namelessPe : PeFile where
  entry_point := 0x180001000
  image_base := 0x180000000
  sections := []
  header_data := namelessFile
  pdb_name := "Unknown"
  pdb_guid_age := "Unknown"
  raw_bytes := namelessFile

def namelessImage : AcceptedImage utf8Crate namelessPe where
  e_lfanew := 0x40
  opt_size := 240
  rows := [namelessRow]
  e_lfanew_at := by decide +kernel
  count_at := by decide +kernel
  count_lt := by decide
  opt_size_at := by decide +kernel
  rows_at := ⟨by decide +kernel, trivial⟩
  parsed := by decide +kernel
  names := [none]
  names_length := by decide
  listed := by decide +kernel

/-- The section without a readable name is in no view. -/
theorem not_viewsAgree_nameless :
    namelessImage.rows.Pairwise SectionHeader.Apart ∧ (∀ row ∈ namelessImage.rows, row.Fits namelessPe.image_base) ∧
      (namelessRow, none) ∈ namelessImage.rows.zip namelessImage.names ∧ namelessRow.Backs 0x1000 ∧
      ¬ ∀ profile, ViewsAgree profile namelessPe 0x1000 := by
  refine ⟨by decide, by decide, List.mem_cons_self, ⟨by decide, by decide⟩, fun h => ?_⟩
  obtain ⟨offset, _, hoffset, _⟩ := h .dev
  cases hoffset

end vwfl.loader
