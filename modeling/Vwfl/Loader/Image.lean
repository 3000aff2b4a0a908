import Vwfl.Loader.Sections
import Vwfl.Pe.RelocTable
import Vwfl.Vm.Effects

open Rust ByteStore
open vwfl.vm vwfl.pe

namespace vwfl.loader

/-- Address of a section relative to the image. -/
def sectionRva (pe_file : PeFile) (found : Section) : Nat := (found.virtual_address - pe_file.image_base).toNat

/-- The image as it is copied to guest memory: the header, then every section at
    its relative address. -/
def imageWrites (pe_file : PeFile) (load_pbase : UInt64) : List (Nat × List UInt8) :=
  (load_pbase.toNat, pe_file.header_data) ::
    pe_file.sections.map fun found => (load_pbase.toNat + sectionRva pe_file found, found.raw_data)

/-- An image with disjoint sections that fit above `load_pbase`, whose first
    relocation section holds the given blocks and zero padding, with disjoint
    fixups that lie in guest memory. -/
structure Relocatable (pe_file : PeFile) (load_pbase : UInt64) (blocks : List RelocBlock) (padding : Nat) : Prop where
  disjoint : pe_file.sections.Pairwise fun first second =>
    Disjoint (sectionRva pe_file first) first.raw_data.length (sectionRva pe_file second) second.raw_data.length
  fits : ∀ found ∈ pe_file.sections,
    load_pbase.toNat + sectionRva pe_file found + found.raw_data.length ≤ MEM_SIZE.toNat
  reloc : (pe_file.sections.find? (·.name == ".reloc")).map Section.raw_data = some (relocData blocks padding)
  targets_disjoint : (relocTargets blocks).Pairwise fun first second => Disjoint first 8 second 8
  targets_fit : ∀ target ∈ relocTargets blocks, load_pbase.toNat + target + 8 ≤ MEM_SIZE.toNat

/-- Guest memory holds the relocated image and is otherwise as before. -/
structure HoldsImage (pe_file : PeFile) (load_pbase load_vbase : UInt64) (targets : List Nat)
    (before after : Nat → UInt8) : Prop where
  fixup : ∀ target ∈ targets, word after (load_pbase.toNat + target) =
    word (storeAll before (imageWrites pe_file load_pbase)) (load_pbase.toNat + target) +
      (load_vbase - pe_file.image_base)
  content : ∀ found ∈ pe_file.sections, ∀ index (h : index < found.raw_data.length),
    (∀ target ∈ targets, ¬ Within target 8 (sectionRva pe_file found + index)) →
      after (load_pbase.toNat + sectionRva pe_file found + index) = found.raw_data[index]
  header : ∀ index (h : index < pe_file.header_data.length),
    (∀ found ∈ pe_file.sections, ¬ Within (sectionRva pe_file found) found.raw_data.length index) →
    (∀ target ∈ targets, ¬ Within target 8 index) →
      after (load_pbase.toNat + index) = pe_file.header_data[index]
  frame : ∀ address, ¬ Within load_pbase.toNat pe_file.header_data.length address →
    (∀ found ∈ pe_file.sections,
      ¬ Within (load_pbase.toNat + sectionRva pe_file found) found.raw_data.length address) →
    (∀ target ∈ targets, ¬ Within (load_pbase.toNat + target) 8 address) → after address = before address

variable {profile : Profile} {pe_file : PeFile} {load_pbase load_vbase : UInt64} {blocks : List RelocBlock}
  {padding : Nat}

theorem loadSection_performs (profile : Profile) {found : Section}
    (hfits : load_pbase.toNat + sectionRva pe_file found + found.raw_data.length ≤ MEM_SIZE.toNat) :
    Performs (loadSection profile pe_file load_pbase found)
      [(load_pbase.toNat + sectionRva pe_file found, found.raw_data)] := by
  have hbound := hfits
  rw [MEM_SIZE_toNat] at hbound
  unfold sectionRva at hbound hfits ⊢
  have hdest : (load_pbase + (found.virtual_address - pe_file.image_base)).toNat =
      load_pbase.toNat + (found.virtual_address - pe_file.image_base).toNat :=
    BitField.toNat_add_of_lt (by omega)
  intro self
  have hadd : profile.add64 load_pbase (found.virtual_address - pe_file.image_base) =
      .ok (load_pbase + (found.virtual_address - pe_file.image_base)) := profile.add64_of_lt (by omega)
  simp only [loadSection, hadd, Stateful.bind_run, Stateful.lift_ok_run]
  rw [Vm.write_memory_of_le profile self (by rw [hdest]; exact hfits), hdest]
  rfl

/-- The fixups of a relocatable image are all applied. -/
theorem apply_relocation_run (profile : Profile) (load_vbase : UInt64)
    (hrelocatable : Relocatable pe_file load_pbase blocks padding) (self : Vm) :
    (pe_file.apply_relocation profile load_pbase load_vbase).run self = .ok ()
      { self with
        mem := relocated load_pbase (load_vbase - pe_file.image_base) self.mem (relocTargets blocks) } := by
  unfold PeFile.apply_relocation
  by_cases hdelta : load_vbase - pe_file.image_base = 0
  · simp only [if_pos hdelta]
    rw [hdelta, relocated, patchAll_id fun value => UInt64.add_zero value]
    rfl
  · obtain ⟨found, hfound, hdata⟩ := Option.map_eq_some_iff.mp hrelocatable.reloc
    simp only [if_neg hdelta]
    rw [hfound, Stateful.bind_run]
    change (blockLoop profile load_pbase _ found.raw_data (found.raw_data.length + 1) 0).run self = _
    have hholds : HoldsAt found.raw_data 0 (relocData blocks padding) := by
      rw [hdata]
      exact ⟨by omega, by rw [List.drop_zero, List.take_length]⟩
    have htable : TableAt found.raw_data 0 (relocTargets blocks) :=
      .of_relocData hholds (by rw [hdata, Nat.zero_add])
    exact blockLoop_run_of_table profile load_pbase _ htable (Nat.succ_pos _) (by omega) hrelocatable.targets_fit self

/-- A header that was written lies in guest memory. -/
theorem loadHeader_eq_ok {before after : Vm} (h : (loadHeader profile pe_file load_pbase).run before = .ok () after) :
    (pe_file.header_data ≠ [] → load_pbase.toNat ≤ MEM_SIZE.toNat) ∧
      after.mem = store before.mem load_pbase.toNat pe_file.header_data := by
  by_cases hempty : pe_file.header_data = []
  · unfold loadHeader at h
    rw [hempty] at h ⊢
    cases h
    exact ⟨fun hnot => absurd rfl hnot, (store_nil _ _).symm⟩
  · rw [loadHeader, if_pos (by simpa using hempty)] at h
    obtain ⟨hbound, hafter⟩ := Vm.write_memory_eq_ok h
    exact ⟨fun _ => by omega, by rw [hafter]⟩

/-- A successful load copies the image and then applies its fixups. -/
theorem load_sections_eq_ok {before after : Vm} {entry : UInt64}
    (hrelocatable : Relocatable pe_file load_pbase blocks padding)
    (hload : (load_sections profile pe_file load_pbase load_vbase).run before = .ok entry after) :
    after.mem = relocated load_pbase (load_vbase - pe_file.image_base)
        (storeAll before.mem (imageWrites pe_file load_pbase)) (relocTargets blocks) ∧
      entry = load_vbase + (pe_file.entry_point - pe_file.image_base) := by
  unfold load_sections at hload
  obtain ⟨_, header, hheader, hload⟩ := Stateful.bind_run_eq_ok_iff.mp hload
  obtain ⟨_, copied, hcopied, hload⟩ := Stateful.bind_run_eq_ok_iff.mp hload
  obtain ⟨_, fixed, hfixed, hload⟩ := Stateful.bind_run_eq_ok_iff.mp hload
  obtain ⟨hentry, hafter⟩ := Stateful.lift_run_eq_ok_iff.mp hload
  have hheaderMem := (loadHeader_eq_ok hheader).2
  have hsections : Performs (forM pe_file.sections (loadSection profile pe_file load_pbase))
      (pe_file.sections.map fun found => (load_pbase.toNat + sectionRva pe_file found, found.raw_data)) := by
    have hforM := Performs.forM fun found hfound =>
      loadSection_performs profile (hrelocatable.fits found hfound)
    rwa [← List.map_eq_flatMap] at hforM
  rw [hsections header] at hcopied
  cases hcopied
  rw [Stateful.ok_run_of_ok (apply_relocation_run profile load_vbase hrelocatable _)] at hfixed
  cases hfixed
  rw [hafter, hheaderMem]
  exact ⟨rfl, Profile.eq_of_add64 hentry⟩

private theorem shifted_within {base target address : Nat} (hbase : base ≤ address) :
    Within (base + target) 8 address ↔ Within target 8 (address - base) := by
  unfold Within
  omega

/-- Cells outside the fixups are as the copy left them. -/
theorem relocated_outside (load_pbase delta : UInt64) (mem : Nat → UInt8) {targets : List Nat} {address : Nat}
    (h : ∀ target ∈ targets, ¬ Within (load_pbase.toNat + target) 8 address) :
    relocated load_pbase delta mem targets address = mem address := by
  apply patchAll_untouched
  intro target htarget
  obtain ⟨rva, hrva, rfl⟩ := List.mem_map.mp htarget
  exact h rva hrva

theorem relocated_inside (load_pbase delta : UInt64) (mem : Nat → UInt8) {targets : List Nat}
    (hdisjoint : targets.Pairwise fun first second => Disjoint first 8 second 8) {target : Nat}
    (htarget : target ∈ targets) :
    word (relocated load_pbase delta mem targets) (load_pbase.toNat + target) =
      word mem (load_pbase.toNat + target) + delta := by
  refine word_patchAll_of_mem (· + delta) mem ?_ (List.mem_map_of_mem htarget)
  rw [List.pairwise_map]
  refine hdisjoint.imp ?_
  intro first second hpair
  rw [disjoint_iff] at hpair ⊢
  omega

/-- Copied sections that do not overlap are all in memory. -/
theorem imageWrites_content {mem : Nat → UInt8} (hdisjoint : pe_file.sections.Pairwise fun first second =>
      Disjoint (sectionRva pe_file first) first.raw_data.length (sectionRva pe_file second) second.raw_data.length)
    {found : Section} (hfound : found ∈ pe_file.sections) {index : Nat} (hindex : index < found.raw_data.length) :
    storeAll mem (imageWrites pe_file load_pbase) (load_pbase.toNat + sectionRva pe_file found + index) =
      found.raw_data[index] := by
  rw [imageWrites, storeAll_cons]
  have hwrites : (pe_file.sections.map fun found =>
      (load_pbase.toNat + sectionRva pe_file found, found.raw_data)).Pairwise fun first second =>
        Disjoint first.1 first.2.length second.1 second.2.length := by
    rw [List.pairwise_map]
    refine hdisjoint.imp ?_
    intro first second hpair
    simp only [disjoint_iff] at hpair ⊢
    omega
  have hload := load_storeAll_of_mem (store mem load_pbase.toNat pe_file.header_data) hwrites
    (List.mem_map_of_mem hfound)
  exact (load_eq_iff _ _ _).mp hload index hindex

/-- Loading with relocation is exact: every fixup is the loaded word moved by
    the distance between the load and the preferred base, every other byte of
    the image is the byte of the file, and nothing else changes. -/
theorem load_sections_exact {before after : Vm} {entry : UInt64}
    (hrelocatable : Relocatable pe_file load_pbase blocks padding)
    (hload : (load_sections profile pe_file load_pbase load_vbase).run before = .ok entry after) :
    HoldsImage pe_file load_pbase load_vbase (relocTargets blocks) before.mem after.mem ∧
      entry = load_vbase + (pe_file.entry_point - pe_file.image_base) := by
  obtain ⟨hmem, hentry⟩ := load_sections_eq_ok hrelocatable hload
  refine ⟨?_, hentry⟩
  rw [hmem]
  constructor
  case fixup =>
    intro target htarget
    exact relocated_inside load_pbase _ _ hrelocatable.targets_disjoint htarget
  case content =>
    intro found hfound index hindex huntouched
    rw [relocated_outside]
    · exact imageWrites_content hrelocatable.disjoint hfound hindex
    · intro target htarget
      rw [shifted_within (by omega), Nat.add_assoc, Nat.add_sub_cancel_left]
      exact huntouched target htarget
  case header =>
    intro index hindex huncovered huntouched
    rw [relocated_outside]
    · rw [imageWrites, storeAll_cons, storeAll_untouched]
      · exact store_inside before.mem load_pbase.toNat pe_file.header_data hindex
      · intro write hwrite hin
        obtain ⟨found, hfound, rfl⟩ := List.mem_map.mp hwrite
        apply huncovered found hfound
        simp only [Within] at hin ⊢
        omega
    · intro target htarget
      rw [shifted_within (by omega), Nat.add_sub_cancel_left]
      exact huntouched target htarget
  case frame =>
    intro address hheader hsections htargets
    rw [relocated_outside load_pbase _ _ htargets]
    apply storeAll_untouched
    intro write hwrite
    rcases List.mem_cons.mp hwrite with rfl | hsection
    · exact hheader
    · obtain ⟨found, hfound, rfl⟩ := List.mem_map.mp hsection
      exact hsections found hfound

/-- An image with one fixup in its text section. -/
def fixupImage : PeFile where
  entry_point := 0x180001000
  image_base := 0x180000000
  sections := [
    { name := ".text", virtual_address := 0x180001000, virtual_size := 12,
      raw_data := [0x48, 0xB8, 0x00, 0x10, 0x00, 0x80, 0x01, 0x00, 0x00, 0x00, 0xFF, 0xE0] },
    { name := ".reloc", virtual_address := 0x180002000, virtual_size := 12,
      raw_data := [0x00, 0x10, 0x00, 0x00, 0x0A, 0x00, 0x00, 0x00, 0x02, 0xA0, 0x00, 0x00] }]
  header_data := [0x4D, 0x5A]
  pdb_name := "Unknown"
  pdb_guid_age := "Unknown"
  raw_bytes := [0x4D, 0x5A]

def fixupBlock : RelocBlock where
  page_rva := 0x1000
  entries := [0xA002]
  types := List.forall_mem_singleton.mpr (by decide)
  size_lt := by decide

theorem load_sections_exact_fixupImage : ∃ after entry,
    (load_sections .dev fixupImage 0x2000000 0xFFFFF80002000000).run ⟨fun _ => 0⟩ = .ok entry after ∧
      HoldsImage fixupImage 0x2000000 0xFFFFF80002000000 (relocTargets [fixupBlock]) (fun _ => 0) after.mem ∧
      entry = 0xFFFFF80002000000 + (fixupImage.entry_point - fixupImage.image_base) := by
  have hrelocatable : Relocatable fixupImage 0x2000000 [fixupBlock] 2 := by
    constructor <;> decide
  obtain ⟨after, entry, hload⟩ : ∃ after entry,
      (load_sections .dev fixupImage 0x2000000 0xFFFFF80002000000).run ⟨fun _ => 0⟩ = .ok entry after :=
    ⟨_, _, rfl⟩
  exact ⟨after, entry, hload, load_sections_exact hrelocatable hload⟩

end vwfl.loader
