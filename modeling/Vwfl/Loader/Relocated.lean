import Vwfl.Loader.Image
import Vwfl.Pe.RelocTable

open Rust LittleEndian ByteStore
open vwfl.vm vwfl.pe

namespace vwfl.loader

/-- The copy of an image to guest memory, without its relocation. -/
def copyImage (profile : Profile) (pe_file : PeFile) (load_pbase : UInt64) : VmM Unit := do
  loadHeader profile pe_file load_pbase
  forM pe_file.sections (loadSection profile pe_file load_pbase)

/-- The image can be relocated: its relocation section holds a table, and the
    words of the table lie in guest memory. -/
def CanRelocate (pe_file : PeFile) (load_pbase : UInt64) (targets : List Nat) : Prop :=
  (∃ reloc_section, pe_file.sections.find? (·.name == ".reloc") = some reloc_section ∧
    TableAt reloc_section.raw_data 0 targets) ∧
  ∀ target ∈ targets, load_pbase.toNat + target + 8 ≤ MEM_SIZE.toNat

/-- The fixups of the relocation section have been applied to the copied image. -/
def FixupsApplied (profile : Profile) (pe_file : PeFile) (load_pbase load_vbase : UInt64) (before after : Vm) : Prop :=
  ∃ targets copied, CanRelocate pe_file load_pbase targets ∧
    (copyImage profile pe_file load_pbase).run before = .ok () copied ∧
    after.mem = relocated load_pbase (load_vbase - pe_file.image_base) copied.mem targets

/-- What a successful load promises: the image stands at its preferred base or its
    fixups have been applied, and an image that cannot be relocated is refused. -/
structure RelocatedLoad (profile : Profile) (pe_file : PeFile) (load_pbase load_vbase : UInt64) (before : Vm) :
    Prop where
  applied : ∀ entry after, (load_sections profile pe_file load_pbase load_vbase).run before = .ok entry after →
    load_vbase = pe_file.image_base ∨ FixupsApplied profile pe_file load_pbase load_vbase before after
  refused : load_vbase ≠ pe_file.image_base → (∀ targets, ¬ CanRelocate pe_file load_pbase targets) →
    ∃ message after, (load_sections profile pe_file load_pbase load_vbase).run before = .error (.err message) after

/-- The parts of an image that are copied, with their relative addresses and
    lengths: the header when there is one, and the sections. -/
def imageParts (pe_file : PeFile) : List (UInt64 × Nat) :=
  (if pe_file.header_data.isEmpty then [] else [(0, pe_file.header_data.length)]) ++
    pe_file.sections.map fun found => (found.virtual_address - pe_file.image_base, found.raw_data.length)

/-- A part ends in guest memory, and its address is formed without a panic. -/
def PartFits (profile : Profile) (load_pbase rva : UInt64) (length : Nat) : Prop :=
  (profile = .dev → load_pbase.toNat + rva.toNat < 2 ^ 64) ∧ (load_pbase + rva).toNat + length ≤ MEM_SIZE.toNat

/-- A part ends behind guest memory, and its end is formed without a panic. -/
def PartOverruns (profile : Profile) (load_pbase rva : UInt64) (length : Nat) : Prop :=
  (profile = .dev → load_pbase.toNat + rva.toNat < 2 ^ 64 ∧
    (load_pbase + rva).toNat + (UInt64.ofNat length).toNat < 2 ^ 64) ∧
  MEM_SIZE < load_pbase + rva + UInt64.ofNat length

/-- Of the parts in their order, one ends behind guest memory after others that
    fit. -/
def Overruns (profile : Profile) (load_pbase : UInt64) : List (UInt64 × Nat) → Prop
  | [] => False
  | (rva, length) :: rest =>
    PartOverruns profile load_pbase rva length ∨
      PartFits profile load_pbase rva length ∧ Overruns profile load_pbase rest

variable {profile : Profile} {pe_file : PeFile} {load_pbase load_vbase entry : UInt64} {before after : Vm}

theorem load_sections_eq (profile : Profile) (pe_file : PeFile) (load_pbase load_vbase : UInt64) :
    load_sections profile pe_file load_pbase load_vbase = copyImage profile pe_file load_pbase >>= fun _ =>
      Stateful.ok (pe_file.apply_relocation profile load_pbase load_vbase) >>= fun _ =>
        liftM (profile.add64 load_vbase (pe_file.entry_point - pe_file.image_base)) := by
  unfold load_sections copyImage
  simp only [bind_assoc]

/-- The copy of one part. -/
private def copyPart (profile : Profile) (load_pbase rva : UInt64) (data : List UInt8) : VmM Unit := do
  let phys_dest ← profile.add64 load_pbase rva
  Vm.write_memory profile phys_dest data

private theorem copyPart_ok_iff {rva : UInt64} {data : List UInt8} {self : Vm} :
    (∃ after, (copyPart profile load_pbase rva data).run self = .ok () after) ↔
      PartFits profile load_pbase rva data.length := by
  constructor
  · rintro ⟨after, h⟩
    obtain ⟨phys_dest, middle, hadd, hwrite⟩ := Stateful.bind_run_eq_ok_iff.mp h
    obtain ⟨hsum, rfl⟩ := Stateful.lift_run_eq_ok_iff.mp hadd
    obtain ⟨hword, rfl⟩ := Profile.add64_eq_ok_iff.mp hsum
    exact ⟨hword, (Vm.write_memory_eq_ok hwrite).1⟩
  · rintro ⟨hword, hbound⟩
    unfold copyPart
    rw [Profile.add64_eq_ok_iff.mpr ⟨hword, rfl⟩, Stateful.bind_run, Stateful.lift_ok_run]
    exact ⟨_, Vm.write_memory_of_le profile self hbound⟩

/-- A write is refused when the end of its range is formed and lies behind guest
    memory. -/
private theorem write_memory_err_iff {offset : UInt64} {data : List UInt8} {self : Vm} :
    (∃ message after, (Vm.write_memory profile offset data).run self = .error (.err message) after) ↔
      (profile = .dev → offset.toNat + (UInt64.ofNat data.length).toNat < 2 ^ 64) ∧
        MEM_SIZE < offset + UInt64.ofNat data.length := by
  unfold Vm.write_memory
  constructor
  · rintro ⟨message, after, h⟩
    rcases Stateful.bind_run_eq_error_iff.mp h with hadd | ⟨sum, middle, hadd, hcheck⟩
    · exact absurd (Stateful.lift_run_eq_error_iff.mp hadd).1 Profile.add64_ne_err
    · obtain ⟨hsum, rfl⟩ := Stateful.lift_run_eq_ok_iff.mp hadd
      obtain ⟨hword, rfl⟩ := Profile.add64_eq_ok_iff.mp hsum
      refine ⟨hword, ?_⟩
      by_contra hinside
      rw [if_neg hinside] at hcheck
      unfold Vm.copy_to EStateM.run at hcheck
      dsimp only at hcheck
      split at hcheck <;> cases hcheck
  · rintro ⟨hword, hlong⟩
    rw [Profile.add64_eq_ok_iff.mpr ⟨hword, rfl⟩, Stateful.bind_run, Stateful.lift_ok_run]
    simp only []
    rw [if_pos hlong]
    exact ⟨_, self, rfl⟩

private theorem copyPart_err_iff {rva : UInt64} {data : List UInt8} {self : Vm} :
    (∃ message after, (copyPart profile load_pbase rva data).run self = .error (.err message) after) ↔
      PartOverruns profile load_pbase rva data.length := by
  constructor
  · rintro ⟨message, after, h⟩
    rcases Stateful.bind_run_eq_error_iff.mp h with hadd | ⟨phys_dest, middle, hadd, hwrite⟩
    · exact absurd (Stateful.lift_run_eq_error_iff.mp hadd).1 Profile.add64_ne_err
    · obtain ⟨hsum, rfl⟩ := Stateful.lift_run_eq_ok_iff.mp hadd
      obtain ⟨hword, rfl⟩ := Profile.add64_eq_ok_iff.mp hsum
      obtain ⟨hend, hlong⟩ := write_memory_err_iff.mp ⟨message, after, hwrite⟩
      exact ⟨fun hdev => ⟨hword hdev, hend hdev⟩, hlong⟩
  · rintro ⟨hword, hlong⟩
    unfold copyPart
    rw [Profile.add64_eq_ok_iff.mpr ⟨fun hdev => (hword hdev).1, rfl⟩, Stateful.bind_run, Stateful.lift_ok_run]
    exact write_memory_err_iff.mpr ⟨fun hdev => (hword hdev).2, hlong⟩

/-- A part and what is copied after it. -/
private theorem copyPart_bind_err_iff {rva : UInt64} {data : List UInt8} {next : Unit → VmM Unit} {rest : Prop}
    {self : Vm} (hnext : ∀ middle, (∃ message after, (next ()).run middle = .error (.err message) after) ↔ rest) :
    (∃ message after, (copyPart profile load_pbase rva data >>= next).run self = .error (.err message) after) ↔
      PartOverruns profile load_pbase rva data.length ∨ PartFits profile load_pbase rva data.length ∧ rest := by
  simp only [Stateful.bind_run_eq_error_iff, exists_or]
  refine or_congr copyPart_err_iff ?_
  rw [← @copyPart_ok_iff _ _ _ _ self]
  constructor
  · rintro ⟨message, after, _, middle, hrun, hrest⟩
    exact ⟨⟨middle, hrun⟩, (hnext middle).mp ⟨message, after, hrest⟩⟩
  · rintro ⟨⟨middle, hrun⟩, hrest⟩
    obtain ⟨message, after, hrest⟩ := (hnext middle).mpr hrest
    exact ⟨message, after, (), middle, hrun, hrest⟩

private theorem copySections_err_iff {sections : List Section} {self : Vm} :
    (∃ message after, (forM sections (loadSection profile pe_file load_pbase)).run self =
      .error (.err message) after) ↔ Overruns profile load_pbase
        (sections.map fun found => (found.virtual_address - pe_file.image_base, found.raw_data.length)) := by
  induction sections generalizing self with
  | nil =>
    refine iff_of_false ?_ id
    rintro ⟨message, after, h⟩
    cases h
  | cons found rest ih =>
    rw [List.forM_cons]
    exact copyPart_bind_err_iff fun middle => ih

/-- The copy of an image returns an `Err` exactly when the image runs over the end
    of guest memory. -/
theorem copyImage_err_iff : (∃ message after, (copyImage profile pe_file load_pbase).run before =
    .error (.err message) after) ↔ Overruns profile load_pbase (imageParts pe_file) := by
  unfold copyImage loadHeader imageParts
  cases hheader : pe_file.header_data.isEmpty with
  | true => exact copySections_err_iff
  | false =>
    have hpart : Vm.write_memory profile load_pbase pe_file.header_data =
        copyPart profile load_pbase 0 pe_file.header_data := by
      unfold copyPart
      rw [profile.add64_of_lt (by simpa using load_pbase.toNat_lt), UInt64.add_zero]
      rfl
    rw [Bool.not_false, if_pos rfl, hpart]
    exact copyPart_bind_err_iff fun middle => copySections_err_iff

/-- An `Err` of a load comes from the copy: that of the relocation is dropped. -/
theorem load_sections_err_iff : (∃ message after, (load_sections profile pe_file load_pbase load_vbase).run before =
    .error (.err message) after) ↔ Overruns profile load_pbase (imageParts pe_file) := by
  rw [load_sections_eq, ← @copyImage_err_iff profile pe_file load_pbase before]
  refine exists₂_congr fun message after => ?_
  rw [Stateful.bind_run_eq_error_iff, or_iff_left]
  rintro ⟨_, copied, _, h⟩
  rcases Stateful.bind_run_eq_error_iff.mp h with hfixed | ⟨_, middle, _, hadd⟩
  · exact Stateful.ok_run_ne_err hfixed
  · exact Profile.add64_ne_err (Stateful.lift_run_eq_error_iff.mp hadd).1

/-- The relocation of an image that can be relocated. -/
theorem CanRelocate.apply_relocation_run {targets : List Nat} (h : CanRelocate pe_file load_pbase targets)
    (hmoved : load_vbase ≠ pe_file.image_base) (self : Vm) :
    (pe_file.apply_relocation profile load_pbase load_vbase).run self =
      .ok () { self with mem := relocated load_pbase (load_vbase - pe_file.image_base) self.mem targets } := by
  obtain ⟨⟨reloc_section, hfound, htable⟩, hfits⟩ := h
  have hdelta : ¬ load_vbase - pe_file.image_base = 0 := by
    rw [UInt64.sub_eq_iff_eq_add, UInt64.zero_add]
    exact hmoved
  unfold PeFile.apply_relocation
  simp only [if_neg hdelta]
  rw [hfound]
  exact blockLoop_run_of_table profile load_pbase _ htable (Nat.succ_pos _) (by omega) hfits self

/-- An image that can be relocated is relocated. -/
theorem CanRelocate.fixupsApplied {targets : List Nat} (h : CanRelocate pe_file load_pbase targets)
    (hmoved : load_vbase ≠ pe_file.image_base)
    (hload : (load_sections profile pe_file load_pbase load_vbase).run before = .ok entry after) :
    FixupsApplied profile pe_file load_pbase load_vbase before after := by
  rw [load_sections_eq] at hload
  obtain ⟨_, copied, hcopied, hload⟩ := Stateful.bind_run_eq_ok_iff.mp hload
  obtain ⟨_, fixed, hfixed, hload⟩ := Stateful.bind_run_eq_ok_iff.mp hload
  obtain ⟨_, rfl⟩ := Stateful.lift_run_eq_ok_iff.mp hload
  rw [Stateful.ok_run_of_ok (h.apply_relocation_run hmoved copied)] at hfixed
  cases hfixed
  exact ⟨targets, copied, h, hcopied, rfl⟩

/-- A successful load is a relocated load exactly when the image stands at its
    preferred base, can be relocated, or runs over the end of guest memory. -/
theorem relocatedLoad_iff (profile : Profile) (pe_file : PeFile) (load_pbase load_vbase : UInt64) (before : Vm) :
    RelocatedLoad profile pe_file load_pbase load_vbase before ↔
      load_vbase = pe_file.image_base ∨ (∃ targets, CanRelocate pe_file load_pbase targets) ∨
        Overruns profile load_pbase (imageParts pe_file) := by
  constructor
  · intro h
    by_cases hsame : load_vbase = pe_file.image_base
    · exact .inl hsame
    · by_cases hcan : ∃ targets, CanRelocate pe_file load_pbase targets
      · exact .inr (.inl hcan)
      · exact .inr (.inr (load_sections_err_iff.mp (h.refused hsame (not_exists.mp hcan))))
  · rintro (hsame | ⟨targets, hcan⟩ | hrefused)
    · exact ⟨fun _ _ _ => .inl hsame, fun hmoved => absurd hsame hmoved⟩
    · refine ⟨fun entry after hload => ?_, fun _ hcannot => absurd hcan (hcannot targets)⟩
      by_cases hsame : load_vbase = pe_file.image_base
      · exact .inl hsame
      · exact .inr (hcan.fixupsApplied hsame hload)
    · obtain ⟨message, left, hrun⟩ := load_sections_err_iff.mpr hrefused
      refine ⟨fun entry after hload => ?_, fun _ _ => ⟨message, left, hrun⟩⟩
      rw [hrun] at hload
      cases hload

/-- An image without relocations. -/
def fixedFile : List UInt8 :=
  peImage 0x180000000 0x1000 (0, 0) (0, 0) [⟨[0x2E, 0x74, 0x65, 0x78, 0x74], 1, 0x1000, 1, 368⟩] [0xC3]

def fixedPe : PeFile where
  entry_point := 0x180001000
  image_base := 0x180000000
  sections := [⟨".text", 0x180001000, 1, [0xC3]⟩]
  header_data := fixedFile
  pdb_name := "Unknown"
  pdb_guid_age := "Unknown"
  raw_bytes := fixedFile

/-- An image without a relocation section is loaded away from its preferred base. -/
theorem not_relocatedLoad_fixed :
    parse peCrate fixedFile = .ok fixedPe ∧
      ¬ RelocatedLoad .dev fixedPe 0x2000000 0xFFFFF80002000000 ⟨fun _ => 0⟩ := by
  refine ⟨by decide +kernel, fun h => ?_⟩
  have hnone : fixedPe.sections.find? (·.name == ".reloc") = none := by decide
  obtain ⟨entry, after, hload, _⟩ := Stateful.of_returns
    (show Stateful.returns (load_sections .dev fixedPe 0x2000000 0xFFFFF80002000000) ⟨fun _ => 0⟩
      (fun _ => true) = true by decide +kernel)
  rcases h.applied entry after hload with hsame | ⟨_, _, ⟨⟨reloc_section, hfound, _⟩, _⟩, _⟩
  · exact absurd hsame (by decide)
  · rw [hnone] at hfound
    cases hfound

end vwfl.loader
