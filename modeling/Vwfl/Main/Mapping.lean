import Vwfl.Main.Placement
import Vwfl.Main.Paging.Windows

open Rust ByteStore
open vwfl.vm vwfl.gdb vwfl.pe vwfl.loader

namespace vwfl.main

/-- Consecutive virtual addresses are mapped to consecutive physical ones. -/
def RangeMapped (mem : Nat → UInt8) (vaddr : UInt64) (paddr length : Nat) : Prop :=
  ∀ k < length, translate mem SYSTEM_CR3 (vaddr + UInt64.ofNat k) = some (paddr + k)

/-- Every byte of every module is mapped to the place it was loaded to. -/
def ModulesMapped (mem : Nat → UInt8) (modules : List LoadedModule) : Prop :=
  ∀ loaded ∈ modules, RangeMapped mem loaded.v_base loaded.p_base.toNat loaded.size.toNat

/-- The kernel and the HAL end inside the first gibibyte of the high half, and
    no other image has a byte. -/
def FitsMapping (kernel hal : Nat) (others : List Nat) : Prop :=
  kernel ≤ 2 ^ 30 - 0x200000 ∧ hal ≤ 2 ^ 30 - 0x2000000 ∧ ∀ size ∈ others, size = 0

variable {host : Host} {dir : Directory} {before after : Vm} {kloader : KernelLoader} {mem : Nat → UInt8}

/-- Mapping the modules loads them and builds the tables with the HAL window of
    the fixed HAL address. -/
theorem mapModules_eq_ok (hmap : (mapModules host dir).run before = .ok kloader after) :
    (∃ loaded, (loadModules host dir).run before = .ok kloader loaded) ∧ HoldsTables after.mem 16 := by
  unfold mapModules at hmap
  obtain ⟨loader, loaded, hexpect, hmap⟩ := Stateful.bind_run_eq_ok_iff.mp hmap
  have hload := Stateful.expect_run_eq_ok_iff.mp hexpect
  obtain ⟨krnl_mod, _, hkrnl, hmap⟩ := Stateful.bind_run_eq_ok_iff.mp hmap
  obtain ⟨hal_mod, _, hhal, hmap⟩ := Stateful.bind_run_eq_ok_iff.mp hmap
  obtain ⟨_, patched, _, hmap⟩ := Stateful.bind_run_eq_ok_iff.mp hmap
  obtain ⟨_, tables, hpaging, hmap⟩ := Stateful.bind_run_eq_ok_iff.mp hmap
  injection hmap with hloader hafter
  subst hloader hafter
  refine ⟨⟨loaded, hload⟩, ?_⟩
  obtain ⟨ntoskrnl, hal, kd, kdcom, drivers, hmodules, hplaced, _, _⟩ := loadModules_eq_ok hload
  have hsecond : hal_mod = hal := by
    have hindex := (Stateful.lift_run_eq_ok_iff.mp hhal).1
    rw [moduleAt, hmodules] at hindex
    exact (Except.ok.inj hindex).symm
  have hholds := setup_kernel_paging_holds (Stateful.expect_run_eq_ok_iff.mp hpaging)
  rw [hsecond, hplaced.fixed.1] at hholds
  exact hholds

/-- Once the modules are loaded, mapping them cannot fail. -/
theorem mapModules_run {loaded : Vm} (hload : (loadModules host dir).run before = .ok kloader loaded) :
    ∃ after, (mapModules host dir).run before = .ok kloader after := by
  obtain ⟨ntoskrnl, hal, kd, kdcom, drivers, hmodules, _, _, _⟩ := loadModules_eq_ok hload
  have hfirst : moduleAt kloader.modules 0 = .ok ntoskrnl := by
    rw [moduleAt, hmodules]
    rfl
  have hsecond : moduleAt kloader.modules 1 = .ok hal := by
    rw [moduleAt, hmodules]
    rfl
  have hpatch := Vm.write_memory_of_le host.profile loaded
    (show mm_pte_base_paddr.toNat + (LittleEndian.ofUInt64 pte_base_vaddr).length ≤ MEM_SIZE.toNat by decide)
  have hpaging := setup_kernel_paging_performs host.profile ntoskrnl.v_base hal.v_base
  unfold mapModules
  simp only [Stateful.bind_run, Stateful.expect_run_eq_ok_iff.mpr hload, hfirst, hsecond, Stateful.lift_ok_run,
    Stateful.expect_run_eq_ok_iff.mpr hpatch, Stateful.expect_run_eq_ok_iff.mpr (hpaging _), Stateful.pure_run]
  exact ⟨_, rfl⟩

/-- A range in the first gibibyte of the high half is mapped to a place exactly
    when it is empty, or the place is at the same offset and the range ends in
    the gibibyte. -/
theorem HoldsTables.rangeMapped_iff (hholds : HoldsTables mem 16) {vaddr : UInt64} (paddr length : Nat) {offset : Nat}
    (hvaddr : vaddr.toNat = K_VIRT_ANY.toNat + offset) (hoffset : offset < 2 ^ 30) :
    RangeMapped mem vaddr paddr length ↔ length = 0 ∨ paddr = offset ∧ offset + length ≤ 2 ^ 30 := by
  have hbase : K_VIRT_ANY.toNat = 0xFFFFF80000000000 := rfl
  have hsum : ∀ k ≤ 2 ^ 30, (vaddr + UInt64.ofNat k).toNat = K_VIRT_ANY.toNat + (offset + k) := by
    intro k hk
    rw [BitField.toNat_add_ofNat (by omega)]
    omega
  constructor
  · intro hmapped
    rcases Nat.eq_zero_or_pos length with hempty | hpositive
    · exact .inl hempty
    · have hfirst := hmapped 0 hpositive
      rw [hholds.translate_kernel (hsum 0 (by omega)) hoffset, Option.some.injEq] at hfirst
      refine .inr ⟨by omega, ?_⟩
      by_contra hlong
      have hlast := hmapped (2 ^ 30 - offset) (by omega)
      have hsecond : (vaddr + UInt64.ofNat (2 ^ 30 - offset)).toNat = K_VIRT_ANY.toNat + 2 ^ 30 + 0 := by
        rw [hsum _ (by omega)]
        omega
      rw [hholds.translate_hal hsecond (by decide), if_neg (by decide)] at hlast
      cases hlast
  · rintro (hempty | ⟨hpaddr, hfits⟩) k hk
    · omega
    · rw [hholds.translate_kernel (hsum k (by omega)) (by omega), hpaddr]

/-- Images from the start of the second gibibyte on are mapped only when they
    are empty: the HAL window lies further up. -/
theorem HoldsTables.drivers_mapped_iff (hholds : HoldsTables mem 16) {drivers : List LoadedModule}
    (hfollows : Follows LoadedModule.v_base 0xFFFFF80040000000 drivers) :
    ModulesMapped mem drivers ↔ ∀ loaded ∈ drivers, loaded.size.toNat = 0 := by
  constructor
  · intro hmapped
    rcases hfollows.first_nonempty with hall | ⟨loaded, hloaded, hv_base, hpositive⟩
    · exact hall
    · have hfirst := hmapped loaded hloaded 0 hpositive
      have hstart : (loaded.v_base + UInt64.ofNat 0).toNat = K_VIRT_ANY.toNat + 2 ^ 30 + 0 := by
        rw [hv_base]
        rfl
      rw [hholds.translate_hal hstart (by decide), if_neg (by decide)] at hfirst
      cases hfirst
  · intro hall loaded hloaded k hk
    rw [hall loaded hloaded] at hk
    exact absurd hk (Nat.not_lt_zero k)

private theorem debugger_modules_high {ntoskrnl hal kd kdcom : LoadedModule} {drivers : List LoadedModule}
    (hplaced : Placed host dir KRNL_PBASE krnl_vbase ntoskrnl hal kd kdcom drivers) :
    0x2000000 ≤ kd.p_base.toNat ∧ 0x2000000 ≤ kdcom.p_base.toNat := by
  obtain ⟨hhal, hkd, hkdcom, _⟩ := hplaced.physical
  have hfollows : Follows LoadedModule.p_base 0x2000000 [hal, kd, kdcom] := ⟨hhal, hkd, hkdcom, trivial⟩
  have hcursor : (0x2000000 : UInt64).toNat = 0x2000000 := rfl
  have hextent : (0x2000000 : UInt64).toNat + extent [hal, kd, kdcom] < 2 ^ 64 := by
    have hhal_size := hal.size.toNat_lt
    have hkd_size := kd.size.toNat_lt
    have hkdcom_size := kdcom.size.toNat_lt
    simp only [extent_cons, extent_nil, roundUp, hcursor]
    omega
  have hwithin := hfollows.within hextent
  exact ⟨(hwithin kd (by simp)).1, (hwithin kdcom (by simp)).1⟩

/-- The page tables map every loaded byte to its place exactly when only the
    kernel and the HAL have bytes, and these fit. -/
theorem modulesMapped_iff (hmap : (mapModules host dir).run before = .ok kloader after) :
    ModulesMapped after.mem kloader.modules ↔
      FitsMapping (fileSize host dir "ntoskrnl.exe") (fileSize host dir "hal.dll") (otherSizes host dir).tail := by
  obtain ⟨⟨loaded, hload⟩, hholds⟩ := mapModules_eq_ok hmap
  obtain ⟨ntoskrnl, hal, kd, kdcom, drivers, hmodules, hplaced, hkernel, hothers⟩ := loadModules_eq_ok hload
  obtain ⟨hhal_v, hkd_v, hkdcom_v⟩ := hplaced.fixed
  have hkernel_iff := hholds.rangeMapped_iff ntoskrnl.p_base.toNat ntoskrnl.size.toNat
    (show ntoskrnl.v_base.toNat = K_VIRT_ANY.toNat + 0x200000 by rw [hplaced.kernel.2]; rfl) (by decide)
  have hhal_iff := hholds.rangeMapped_iff hal.p_base.toNat hal.size.toNat
    (show hal.v_base.toNat = K_VIRT_ANY.toNat + 0x2000000 by rw [hhal_v]; rfl) (by decide)
  have hkd_iff := hholds.rangeMapped_iff kd.p_base.toNat kd.size.toNat
    (show kd.v_base.toNat = K_VIRT_ANY.toNat + 0x600000 by rw [hkd_v]; rfl) (by decide)
  have hkdcom_iff := hholds.rangeMapped_iff kdcom.p_base.toNat kdcom.size.toNat
    (show kdcom.v_base.toNat = K_VIRT_ANY.toNat + 0x800000 by rw [hkdcom_v]; rfl) (by decide)
  have hdrivers_iff := hholds.drivers_mapped_iff hplaced.virtual
  have hkernel_p : ntoskrnl.p_base.toNat = 0x200000 := by
    rw [hplaced.kernel.1]
    rfl
  have hhal_p : hal.p_base.toNat = 0x2000000 := by
    rw [hplaced.physical.1]
    rfl
  -- The debugger modules are loaded behind the HAL, above their virtual offsets.
  obtain ⟨hkd_p, hkdcom_p⟩ := debugger_modules_high hplaced
  have hhal : hal.size.toNat = fileSize host dir "hal.dll" := by
    rw [hplaced.sizes hal (by simp), hplaced.names.2.1]
  have htail : (otherSizes host dir).tail = kd.size.toNat :: kdcom.size.toNat ::
      drivers.map fun driver => driver.size.toNat := by
    rw [← hothers]
    rfl
  rw [hmodules, FitsMapping, ← hkernel, ← hhal, htail]
  unfold ModulesMapped at hdrivers_iff ⊢
  simp only [List.mem_cons, forall_eq_or_imp, hkernel_iff, hhal_iff, hkd_iff, hkdcom_iff, hdrivers_iff,
    List.mem_map, forall_exists_index, and_imp, forall_apply_eq_imp_iff₂]
  constructor
  · rintro ⟨hkernel_fits, hhal_fits, hkd_fits, hkdcom_fits, hempty⟩
    exact ⟨by omega, by omega, by omega, by omega, hempty⟩
  · rintro ⟨hkernel_fits, hhal_fits, hkd_empty, hkdcom_empty, hempty⟩
    exact ⟨.inr ⟨hkernel_p, by omega⟩, .inr ⟨hhal_p, by omega⟩, .inl hkd_empty, .inl hkdcom_empty, hempty⟩

theorem modulesMapped_iff_fourFiles : ∃ kloader after,
    (mapModules releaseHost (fourFiles 0x1000 0x1000)).run ⟨fun _ => 0⟩ = .ok kloader after ∧
      (ModulesMapped after.mem kloader.modules ↔ FitsMapping 0x2000 0x2000 [0x2000, 0x2000]) := by
  obtain ⟨kloader, loaded, hload, _⟩ := loadModules_fourFiles
  obtain ⟨after, hmap⟩ := mapModules_run hload
  obtain ⟨hkernel, hhal, hothers⟩ := sizes_fourFiles
  have hiff := modulesMapped_iff hmap
  rw [hkernel, hhal, hothers] at hiff
  exact ⟨kloader, after, hmap, hiff⟩

/-- The first debugger module is mapped to a place inside the kernel. -/
theorem not_modulesMapped_debugger : ∃ kloader after,
    (mapModules releaseHost (fourFiles 0x1000 0x1000)).run ⟨fun _ => 0⟩ = .ok kloader after ∧
      ¬ ModulesMapped after.mem kloader.modules := by
  obtain ⟨kloader, loaded, hload, hplaces⟩ := loadModules_fourFiles
  obtain ⟨after, hmap⟩ := mapModules_run hload
  obtain ⟨_, hholds⟩ := mapModules_eq_ok hmap
  refine ⟨kloader, after, hmap, ?_⟩
  intro hmapped
  obtain ⟨kd, hkd, hplace⟩ : ∃ kd ∈ kloader.modules,
      (kd.v_base, kd.p_base, kd.size) = (0xFFFFF80000600000, 0x2200000, 0x2000) := by
    refine List.mem_map.mp ?_
    rw [hplaces]
    decide
  simp only [Prod.mk.injEq] at hplace
  obtain ⟨hv_base, hp_base, hsize⟩ := hplace
  have hmodule := hmapped kd hkd
  rw [hholds.rangeMapped_iff _ _ (show kd.v_base.toNat = K_VIRT_ANY.toNat + 0x600000 by rw [hv_base]; rfl)
    (by decide), hp_base, hsize] at hmodule
  revert hmodule
  decide

end vwfl.main
