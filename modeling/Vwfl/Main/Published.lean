import Vwfl.Main.PointerFields
import Vwfl.Main.Reached

open Rust ByteStore LittleEndian
open vwfl.vm vwfl.gdb vwfl.pe vwfl.loader vwfl.loaderblock

namespace vwfl.main

variable {host : Host} {dir : Directory} {files : BootFiles} {modules : List LoadedModule}

section Held

variable (mem : Nat → UInt8) (hapart : PointersApart host files modules)

include hapart

theorem blockPointers_held : ∀ pointer ∈ blockPointers files,
    word (storeAll mem (bootWrites host files modules)) pointer.field = pointer.value := by
  obtain ⟨_, hprcb, hregistry, hoptions, hnls, hextension⟩ := fields_LOADER_PARAMETER_BLOCK 10 0x160 stack_v
    (KPCR_VBASE + 0x180) (KPCR_VBASE + 0x180 - 0x180 + 0x6000) (KPCR_VBASE + 0x180 - 0x180 + 0x5000) 0x10000
    (UInt32.ofNat files.sys_hive.length) hive_v (LPB_VBASE + 0xC000) nls_v_base (LPB_VBASE + 0x8000)
  have hword := fun index value hvalue hlow hhigh =>
    @block_word host files modules mem hapart.toHandoffApart index value hvalue hlow hhigh
  intro pointer hpointer
  simp only [blockPointers, List.mem_cons, List.not_mem_nil, or_false] at hpointer
  rcases hpointer with rfl | rfl | rfl | rfl | rfl
  · exact hword 0x88 _ hprcb (by decide) (by decide)
  · exact hword 0xA8 _ hregistry (by decide) (by decide)
  · exact hword 0xD8 _ hoptions (by decide) (by decide)
  · exact hword 0xE0 _ hnls (by decide) (by decide)
  · exact hword 0xF0 _ hextension (by decide) (by decide)

theorem regionPointers_held : ∀ pointer ∈ regionPointers,
    word (storeAll mem (bootWrites host files modules)) pointer.field = pointer.value := by
  obtain ⟨hgdt, htss, hself, hprcb, hused, hidt⟩ :=
    fields_KPCR gdt_v tss_v KPCR_VBASE (KPCR_VBASE + 0x180) KPCR_VBASE idt_v 1 1 0x00000024
  have hword := fun index value hvalue hindex =>
    @region_word host files modules mem hapart.toHandoffApart index value hvalue hindex
  intro pointer hpointer
  simp only [regionPointers, List.mem_cons, List.not_mem_nil, or_false] at hpointer
  rcases hpointer with rfl | rfl | rfl | rfl | rfl | rfl
  · exact hword 0 _ hgdt (by decide)
  · exact hword 0x8 _ htss (by decide)
  · exact hword 0x18 _ hself (by decide)
  · exact hword 0x20 _ hprcb (by decide)
  · exact hword 0x30 _ hused (by decide)
  · exact hword 0x38 _ hidt (by decide)

theorem acpiPointers_held (hspare : SlotsSpare host modules acpiPointers) :
    ∀ pointer ∈ acpiPointers, word (storeAll mem (bootWrites host files modules)) pointer.field = pointer.value := by
  obtain ⟨_, _, hxsdt⟩ := acpi.holdsAt_rsdp (ACPI_VBASE + 0x100)
  obtain ⟨hfadt, hmadt, hhpet⟩ := acpi.holdsAt_xsdt (ACPI_VBASE + 0x300) (ACPI_VBASE + 0x200) (ACPI_VBASE + 0x450)
  have hdsdt := acpi.holdsAt_fadt (ACPI_VBASE + 0x500)
  have htables : ∀ write ∈ acpi.tableWrites 0x5000000 ACPI_VBASE, write ∈ acpi.tableWrites 0x5000000 ACPI_VBASE :=
    fun _ hwrite => hwrite
  intro pointer hpointer
  have hslots := hspare pointer hpointer
  simp only [acpiPointers, List.mem_cons, List.not_mem_nil, or_false] at hpointer
  simp only [acpi.tableWrites, List.forall_mem_cons] at htables
  obtain ⟨_, _, hfadtWrite, _, hxsdtWrite, hrsdpWrite, _⟩ := htables
  rcases hpointer with rfl | rfl | rfl | rfl | rfl
  · exact acpi_word mem hapart hslots rfl hrsdpWrite hxsdt (by decide)
  · exact acpi_word mem hapart hslots rfl hxsdtWrite hfadt (by decide)
  · exact acpi_word mem hapart hslots rfl hxsdtWrite hmadt (by decide)
  · exact acpi_word mem hapart hslots rfl hxsdtWrite hhpet (by decide)
  · exact acpi_word mem hapart hslots rfl hfadtWrite hdsdt (by decide)

theorem nlsPointers_held (hspare : SlotsSpare host modules (nlsPointers files)) : ∀ pointer ∈ nlsPointers files,
    word (storeAll mem (bootWrites host files modules)) pointer.field = pointer.value := by
  obtain ⟨hansi, hoem, hcase⟩ := fields_NLS_DATA_BLOCK ansi_v oem_v case_v 0 0
  intro pointer hpointer
  have hslots := hspare pointer hpointer
  simp only [nlsPointers, List.mem_cons, List.not_mem_nil, or_false] at hpointer
  rcases hpointer with rfl | rfl | rfl
  · exact nls_word mem hapart hslots rfl hansi (by decide)
  · exact nls_word mem hapart hslots rfl hoem (by decide)
  · exact nls_word mem hapart hslots rfl hcase (by decide)

theorem extensionPointers_held (hspare : SlotsSpare host modules extensionPointers) : ∀ pointer ∈ extensionPointers,
    word (storeAll mem (bootWrites host files modules)) pointer.field = pointer.value := by
  intro pointer hpointer
  have hslots := hspare pointer hpointer
  simp only [extensionPointers, List.mem_cons, List.not_mem_nil, or_false] at hpointer
  rcases hpointer with rfl | rfl
  · exact (extension_word mem hapart hslots).1 rfl
  · exact (extension_word mem hapart hslots).2 rfl

theorem schemaPointers_held (hspare : SlotsSpare host modules (schemaPointers files)) :
    ∀ pointer ∈ schemaPointers files,
      word (storeAll mem (bootWrites host files modules)) pointer.field = pointer.value := by
  intro pointer hpointer
  have hslots := hspare pointer hpointer
  obtain ⟨apiset_buf, hbuf, rfl⟩ := List.mem_map.mp hpointer
  exact schema_word mem hapart hslots (Option.mem_toList.mp hbuf) rfl

theorem namePointers_held (hspare : SlotsSpare host modules (namePointers modules)) :
    ∀ pointer ∈ namePointers modules,
      word (storeAll mem (bootWrites host files modules)) pointer.field = pointer.value := by
  intro pointer hpointer
  have hslots := hspare pointer hpointer
  obtain ⟨entry, hentry, hpointer⟩ := List.mem_flatMap.mp hpointer
  simp only [List.mem_cons, List.not_mem_nil, or_false] at hpointer
  rcases hpointer with rfl | rfl
  · exact name_word mem hapart hslots hentry (.inl rfl)
  · exact name_word mem hapart hslots hentry (.inr rfl)

theorem halExtPointers_held (hspare : SlotsSpare host modules (halExtPointers host.cases modules)) :
    ∀ pointer ∈ halExtPointers host.cases modules,
      word (storeAll mem (bootWrites host files modules)) pointer.field = pointer.value := by
  unfold halExtPointers at *
  split
  · exact fun pointer hpointer => absurd hpointer List.not_mem_nil
  · rename_i hsome
    rw [if_neg hsome] at hspare
    exact halExt_ring mem hapart (by simpa using hsome) hspare

/-- Behind all stores of `main` every field holds its pointer. -/
theorem pointers_held (hne : 0 < modules.length) : ∀ pointer ∈ pointers host.cases files modules,
    word (storeAll mem (bootWrites host files modules)) pointer.field = pointer.value := by
  have hspare := hapart.fields
  simp only [SlotsSpare, pointers, listPointers, List.forall_mem_append] at hspare ⊢
  obtain ⟨_, _, hnls, hextension, hschema, hacpi, hnames, hhalExt, hloadOrder, hmemoryOrder, hdrivers, _⟩ := hspare
  exact ⟨blockPointers_held mem hapart, regionPointers_held mem hapart, nlsPointers_held mem hapart hnls,
    extensionPointers_held mem hapart hextension, schemaPointers_held mem hapart hschema,
    acpiPointers_held mem hapart hacpi, namePointers_held mem hapart hnames, halExtPointers_held mem hapart hhalExt,
    loadOrder_ring mem hapart hne hloadOrder, memoryOrder_ring mem hapart hne hmemoryOrder,
    bootDriver_ring mem hapart hdrivers, memory_ring mem⟩

end Held

/-- RegistryBase leads to the ACPI tables. -/
theorem main_registryBase {before after : Vm} {kloader : KernelLoader}
    (hmain : (main host dir).run before = .ok kloader after) (hfiles : bootFiles dir = some files)
    (hapart : PointersApart host files kloader.modules) :
    word after.mem 0x40000A8 = hive_v ∧ translate after.mem SYSTEM_CR3 hive_v = some 0x5000000 := by
  obtain ⟨found, _, mapped, hfound, _, htrace⟩ := main_eq_ok hmain
  obtain rfl : found = files := Option.some.inj (hfound.symm.trans hfiles)
  refine ⟨?_, (main_handoff hmain hfiles hapart.toHandoffApart).paging.translate_hive⟩
  rw [htrace hapart.fitsMemory]
  exact blockPointers_held mapped.mem hapart ⟨0x40000A8, hiveObject found.sys_hive, 0⟩ (by simp [blockPointers])

section BootDirectory

variable {kloader : KernelLoader} {loaded : Vm}

theorem bootDirectory_pointersApart
    (hload : (loadModules releaseHost (bootDirectory files)).run bootState = .ok kloader loaded)
    (hhive : 0x4200000 + files.sys_hive.length ≤ 0x8100000) (hansi : files.ansi_data.length ≤ 0x1000)
    (hoem : files.oem_data.length ≤ 0x1000) (hapiset : files.apiset_buf = none) :
    PointersApart releaseHost files kloader.modules := by
  have hnames := bootDirectory_names hload
  have hslots := bootDirectory_slots hload
  rw [show plannedModules releaseHost (bootDirectory files) = kloader.modules by
    rw [plannedModules, KernelLoader.load_directory_plan hload]] at hslots
  refine ⟨handoffApart_fixed hnames (by simp [hslots]) hhive hansi hoem hapiset, by simp [hapiset], ?_, ?_⟩
  · intro entry hentry
    obtain ⟨hindex, hname⟩ := fixedNames_short hnames entry hentry
    omega
  · intro pointer _ slot hslot
    rw [hslots] at hslot
    cases hslot

end BootDirectory

end vwfl.main
