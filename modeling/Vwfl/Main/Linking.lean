import Vwfl.Forwarder.Chain
import Vwfl.Main.Handoff
import Vwfl.Main.Success

open Rust ByteStore LittleEndian Stateful X86
open vwfl.vm vwfl.gdb vwfl.pe vwfl.loader vwfl.forwarder vwfl.forwarder.ForwarderResolver

namespace vwfl.main

/-- A module that the kernel window maps where it was loaded. -/
def Resident (loaded : LoadedModule) : Prop := loaded.v_base.toNat = K_VIRT_ANY.toNat + loaded.p_base.toNat

/-- No two resolved slots overlap, and all of them lie in images in front of
    the loader block. -/
structure LinksApart (host : Host) (files : BootFiles) (modules : List LoadedModule) : Prop
    extends HandoffApart host files modules where
  slotsApart : SlotsApart ⟨host.profile, host.cases, modules⟩
  images : ∀ slot ∈ resolvedSlots ⟨host.profile, host.cases, modules⟩, slot + 8 ≤ 0x4000000

/-- What the guest finds at an import: the slot holds the address, and the
    address is that of an export at the end of the forwarders from the imported
    name. -/
structure Linked (resolver : ForwarderResolver) (mem : Nat → UInt8) (imported : Import) (address : UInt64) : Prop where
  slot : read (translate mem SYSTEM_CR3) mem (imported.loaded.v_base + imported.func.iat_rva.toUInt64) 8 =
    some (ofUInt64 address)
  target : ∃ hops ≤ 10, ∃ last_dll last_func exporter exp,
    resolver.Reaches hops imported.dll_name imported.func.name last_dll last_func ∧
      resolver.lookup last_dll last_func = some (exporter, exp) ∧ exporter ∈ resolver.modules ∧
      exp.forwarder = none ∧ address = exporter.v_base + exp.rva.toUInt64 ∧
      (Resident exporter → exporter.p_base.toNat + exp.rva.toNat < 2 ^ 30 →
        translate mem SYSTEM_CR3 address = some (exporter.p_base.toNat + exp.rva.toNat))

section Resident

variable {loaded : LoadedModule} (hresident : Resident loaded)

include hresident

theorem Resident.toNat_physical (rva : UInt32) :
    (loaded.p_base + rva.toUInt64).toNat = loaded.p_base.toNat + rva.toNat := by
  have hk : K_VIRT_ANY.toNat = 0xFFFFF80000000000 := rfl
  have hvirtual := loaded.v_base.toNat_lt
  have hrva := rva.toNat_lt
  have hwide := UInt32.toNat_toUInt64 rva
  unfold Resident at hresident
  rw [BitField.toNat_add_of_lt (by omega), hwide]

/-- Both addresses of a byte in the first gibibyte. -/
theorem Resident.toNat_virtual (rva : UInt32) (hinside : loaded.p_base.toNat + rva.toNat < 2 ^ 30) :
    (loaded.v_base + rva.toUInt64).toNat = K_VIRT_ANY.toNat + (loaded.p_base.toNat + rva.toNat) := by
  have hk : K_VIRT_ANY.toNat = 0xFFFFF80000000000 := rfl
  have hwide := UInt32.toNat_toUInt64 rva
  unfold Resident at hresident
  rw [BitField.toNat_add_of_lt (by omega), hwide]
  omega

end Resident

variable {host : Host} {dir : Directory} {files : BootFiles} {modules : List LoadedModule}

/-- The kernel and the HAL are loaded where they are mapped. -/
theorem resident_fixed {before after : Vm} {kloader : KernelLoader}
    (hload : (loadModules host dir).run before = .ok kloader after) :
    ∀ loaded ∈ kloader.modules.take 2, Resident loaded := by
  obtain ⟨ntoskrnl, hal, kd, kdcom, drivers, hmodules, hplaced, _, _⟩ := loadModules_eq_ok hload
  rw [hmodules]
  intro loaded hloaded
  simp only [List.take_succ_cons, List.take_zero, List.mem_cons, List.not_mem_nil, or_false] at hloaded
  unfold Resident
  rcases hloaded with rfl | rfl
  · rw [hplaced.kernel.1, hplaced.kernel.2]
    decide
  · rw [hplaced.fixed.1, hplaced.physical.1]
    decide

/-- A completed `main` has bound the imports. -/
theorem main_binds {before after : Vm} {kloader : KernelLoader}
    (hmain : (main host dir).run before = .ok kloader after) :
    Binds (kloader.resolver host.profile host.cases) := by
  unfold main at hmain
  obtain ⟨_, _, _, hmain⟩ := bind_run_eq_ok_iff.mp hmain
  obtain ⟨loader, _, _, hmain⟩ := bind_run_eq_ok_iff.mp hmain
  iterate 8 obtain ⟨_, _, _, hmain⟩ := bind_run_eq_ok_iff.mp hmain
  obtain ⟨_, _, hbind, hmain⟩ := bind_run_eq_ok_iff.mp hmain
  have hresult : kloader = loader := by
    iterate 3 obtain ⟨_, _, _, hmain⟩ := bind_run_eq_ok_iff.mp hmain
    injection hmain with hvalue
    exact hvalue.symm
  subst hresult
  exact (bind_all_completes host.profile host.cases kloader _ ()).mp ⟨_, expect_run_eq_ok_iff.mp hbind⟩

/-- Resolved slots hold their targets behind all stores of `main`. -/
theorem bootWrites_slot (mem : Nat → UInt8) (hapart : LinksApart host files modules) {imported : Import}
    (himported : imported ∈ allImports ⟨host.profile, host.cases, modules⟩) {address : UInt64}
    (htarget : imported.target ⟨host.profile, host.cases, modules⟩ = some address) :
    load (storeAll mem (bootWrites host files modules)) imported.slot 8 = ofUInt64 address ∧
      imported.slot + 8 ≤ 0x4000000 := by
  have hwrite : (imported.slot, ofUInt64 address) ∈ slotWrites ⟨host.profile, host.cases, modules⟩ := by
    rw [slotWrites, List.mem_filterMap]
    exact ⟨imported, himported, by simp only [slotWrite, htarget, Option.map_some]⟩
  have hend := hapart.images imported.slot (mem_slotWrites hwrite).1
  refine ⟨?_, hend⟩
  have hload := load_storeAll_of_mem (storeAll mem ([(0x4200000, files.sys_hive)] ++ (nlsWrites files.ansi_data
    files.oem_data ++ (blockWrites (UInt32.ofNat files.sys_hive.length) ++ (schemaWrites files.apiset_buf ++
      registerWrites host.cases modules))))) (slotWrites_pairwise hapart.slotsApart) hwrite
  have hsplit : bootWrites host files modules = ([(0x4200000, files.sys_hive)] ++ (nlsWrites files.ansi_data
    files.oem_data ++ (blockWrites (UInt32.ofNat files.sys_hive.length) ++ (schemaWrites files.apiset_buf ++
      registerWrites host.cases modules)))) ++ (slotWrites ⟨host.profile, host.cases, modules⟩ ++ (gdtWrites ++
        (memoryWrites (UInt32.ofNat files.sys_hive.length) ++ debug.idtWrites))) := by
    simp only [bootWrites, lateWrites, closingWrites, List.append_assoc]
  rw [hsplit, storeAll_append, storeAll_append, load_storeAll_of_disjoint]
  · simpa only [length_ofUInt64] using hload
  · exact descriptorWrites_misses _ (by omega)

/-- The kernel and the HAL are linked once `main` reaches the processor: for
    every import of a module that is mapped where it was loaded, the guest finds
    in its slot the address of the function at the end of the forwarders from
    its name, and a function of such a module is mapped where its image was
    loaded. -/
theorem main_links {before after : Vm} {kloader : KernelLoader}
    (hmain : (main host dir).run before = .ok kloader after) (hfiles : bootFiles dir = some files)
    (hapart : LinksApart host files kloader.modules) :
    (∀ loaded ∈ kloader.modules.take 2, Resident loaded) ∧
      ∀ imported ∈ allImports (kloader.resolver host.profile host.cases), Resident imported.loaded →
        ∀ address, (kloader.resolver host.profile host.cases).Chain 10 imported.dll_name imported.func.name address →
          Linked (kloader.resolver host.profile host.cases) after.mem imported address := by
  have hbinds := main_binds hmain
  have hhandoff := main_handoff hmain hfiles hapart.toHandoffApart
  obtain ⟨found, start, mapped, hfound, hmap, htrace⟩ := main_eq_ok hmain
  obtain rfl : found = files := Option.some.inj (hfound.symm.trans hfiles)
  obtain ⟨⟨loaded, hload⟩, _⟩ := mapModules_eq_ok hmap
  refine ⟨resident_fixed hload, ?_⟩
  intro imported himported hresident address hchain
  have hmem := htrace hapart.toHandoffApart.fitsMemory
  have hmapped := debug.kernelMapped_of_holds hhandoff.paging
  constructor
  case slot =>
    have htarget := (hbinds.target_eq himported address).mpr hchain
    obtain ⟨hslot, hend⟩ := bootWrites_slot mapped.mem hapart himported htarget
    rw [Import.slot, hresident.toNat_physical] at hslot hend
    have hlinear := hmapped.linear (hresident.toNat_virtual imported.func.iat_rva (by omega))
      (show _ + 8 ≤ 2 ^ 30 by omega)
    rw [read_of_linear hlinear, hmem, hslot]
  case target =>
    obtain ⟨hops, hhops, last_dll, last_func, exporter, exp, hreaches, hlookup, hforwarder, haddress⟩ := hchain.ends
    refine ⟨hops, hhops, last_dll, last_func, exporter, exp, hreaches, hlookup, mem_of_lookup hlookup, hforwarder,
      haddress, ?_⟩
    intro hhome hinside
    rw [haddress]
    exact hmapped _ _ (hhome.toNat_virtual exp.rva hinside) hinside

section LinkingDirectory

/-- An image that exports `F` and imports it from the HAL. -/
def halImportFile : List UInt8 := splice (selfImportFile 0x10C0 0x10D0) 528 [0x68, 0x61, 0x6C, 0, 0, 0]

/-- A directory whose kernel and HAL are that image. -/
def linkingDirectory : Directory where
  read name :=
    if name == "ntoskrnl.exe" || name == "hal.dll" then .ok halImportFile else (bootDirectory quietFiles).read name
  read_dir := (bootDirectory quietFiles).read_dir

theorem loadModules_linkingDirectory : ∃ kloader after,
    (loadModules releaseHost linkingDirectory).run ⟨fun _ => 0⟩ = .ok kloader after ∧
      Binds (kloader.resolver releaseHost.profile releaseHost.cases) ∧
      kloader.modules.map LoadedModule.name = ["ntoskrnl.exe", "hal.dll", "kd.dll", "kdcom.dll"] ∧
      resolvedSlots (kloader.resolver releaseHost.profile releaseHost.cases) = [0x2010C0, 0x20010C0] ∧
      ∃ imported ∈ allImports (kloader.resolver releaseHost.profile releaseHost.cases),
        imported.slot = 0x2010C0 ∧ Resident imported.loaded ∧
          imported.target (kloader.resolver releaseHost.profile releaseHost.cases) = some 0xFFFFF80002002000 := by
  obtain ⟨kloader, after, hrun, hfound⟩ := Stateful.of_returns
    (show Stateful.returns (do
        let kloader ← loadModules releaseHost linkingDirectory
        kloader.bind_all releaseHost.profile releaseHost.cases
        return kloader) ⟨fun _ => 0⟩ (fun kloader => decide (
          kloader.modules.map LoadedModule.name = ["ntoskrnl.exe", "hal.dll", "kd.dll", "kdcom.dll"] ∧
          resolvedSlots (kloader.resolver releaseHost.profile releaseHost.cases) = [0x2010C0, 0x20010C0] ∧
          (allImports (kloader.resolver releaseHost.profile releaseHost.cases)).head?.map (fun imported =>
            (imported.slot, imported.loaded.v_base, imported.loaded.p_base,
              imported.target (kloader.resolver releaseHost.profile releaseHost.cases))) =
            some (0x2010C0, 0xFFFFF80000200000, 0x200000, some 0xFFFFF80002002000))) = true by decide +kernel)
  obtain ⟨loader, loaded, hload, hrun⟩ := bind_run_eq_ok_iff.mp hrun
  obtain ⟨_, bound, hbind, hrun⟩ := bind_run_eq_ok_iff.mp hrun
  injection hrun with hvalue
  subst hvalue
  obtain ⟨hnames, hslots, hhead⟩ := of_decide_eq_true hfound
  obtain ⟨imported, himported, hfields⟩ := Option.map_eq_some_iff.mp hhead
  simp only [Prod.mk.injEq] at hfields
  obtain ⟨hslot, hv_base, hp_base, htarget⟩ := hfields
  refine ⟨loader, loaded, hload, (bind_all_completes _ _ loader loaded ()).mp ⟨bound, hbind⟩, hnames, hslots, imported,
    List.mem_of_mem_head? himported, hslot, ?_, htarget⟩
  rw [Resident, hv_base, hp_base]
  decide

theorem realistic_linkingDirectory : Realistic releaseHost linkingDirectory := by
  refine ⟨?_, by decide +kernel, by decide +kernel⟩
  intro name data hread
  simp only [linkingDirectory, bootDirectory] at hread
  split_ifs at hread <;> cases hread <;> decide +kernel

theorem main_linkingDirectory {kloader : KernelLoader} {before loaded : Vm}
    (hload : (loadModules releaseHost linkingDirectory).run before = .ok kloader loaded)
    (hbinds : Binds (kloader.resolver releaseHost.profile releaseHost.cases)) :
    ∃ after, (main releaseHost linkingDirectory).run ⟨fun _ => 0⟩ = .ok kloader after := by
  have hempty : releaseHost.object [] = none := by decide
  have hloads := (load_directory_yields hempty linkingDirectory KRNL_PBASE krnl_vbase before kloader).mp ⟨loaded, hload⟩
  refine (main_yields hempty realistic_linkingDirectory ⟨fun _ => 0⟩ kloader).mpr
    ⟨hloads, ⟨quietFiles, rfl, ?_, ?_⟩, ?_, hbinds⟩
  · decide
  · simp [quietFiles]
  · rintro ⟨⟩

theorem main_links_linkingDirectory : ∃ kloader after,
    (main releaseHost linkingDirectory).run ⟨fun _ => 0⟩ = .ok kloader after ∧
      ∃ imported ∈ allImports (kloader.resolver releaseHost.profile releaseHost.cases),
        imported.slot = 0x2010C0 ∧
          Linked (kloader.resolver releaseHost.profile releaseHost.cases) after.mem imported 0xFFFFF80002002000 := by
  obtain ⟨kloader, loaded, hload, hbinds, hnames, hslots, imported, himported, hslot, hresident, htarget⟩ :=
    loadModules_linkingDirectory
  obtain ⟨after, hmain⟩ := main_linkingDirectory hload hbinds
  have hchain := (hbinds.target_eq himported 0xFFFFF80002002000).mp htarget
  have himages : ∀ slot ∈ resolvedSlots (kloader.resolver releaseHost.profile releaseHost.cases),
      slot + 8 ≤ 0x4000000 := by
    rw [hslots]
    decide
  have hslotsApart : SlotsApart (kloader.resolver releaseHost.profile releaseHost.cases) := by
    rw [SlotsApart, hslots]
    decide
  have hapart : LinksApart releaseHost quietFiles kloader.modules :=
    ⟨handoffApart_fixed hnames himages (by decide) (by decide) (by decide) rfl, hslotsApart, himages⟩
  have hlinks := main_links hmain (show bootFiles linkingDirectory = some quietFiles from rfl) hapart
  exact ⟨kloader, after, hmain, imported, himported, hslot, hlinks.2 imported himported hresident _ hchain⟩

end LinkingDirectory

end vwfl.main
