import Vwfl.Loader.Drivers
import Vwfl.Main.Placement

open Rust ByteStore
open vwfl.vm vwfl.pe vwfl.loader

namespace vwfl.main

/-- Virtual ranges of the modules have no address in common. -/
def VirtuallyFree (modules : List LoadedModule) : Prop :=
  modules.Pairwise fun first second =>
    Disjoint first.v_base.toNat first.size.toNat second.v_base.toNat second.size.toNat

/-- An image fits in front of the images behind it, or those are all empty. -/
def FitsBefore (size gap : Nat) (others : List Nat) : Prop := size ≤ gap ∨ ∀ other ∈ others, other = 0

instance (size gap : Nat) (others : List Nat) : Decidable (FitsBefore size gap others) :=
  inferInstanceAs (Decidable (_ ∨ _))

/-- Every image ends before the next virtual bases: the kernel stands 4 MiB
    below kd.dll, kd.dll 2 MiB below kdcom.dll, kdcom.dll 24 MiB below hal.dll
    and hal.dll 992 MiB below the drivers. -/
structure FitsVirtually (kernel hal kd kdcom : Nat) (drivers : List Nat) : Prop where
  kernel : FitsBefore kernel 0x400000 [kd] ∧ FitsBefore kernel 0x600000 [kdcom] ∧ FitsBefore kernel 0x1E00000 [hal] ∧
    FitsBefore kernel 0x3FE00000 drivers
  kd : FitsBefore kd 0x200000 [kdcom] ∧ FitsBefore kd 0x1A00000 [hal] ∧ FitsBefore kd 0x3FA00000 drivers
  kdcom : FitsBefore kdcom 0x1800000 [hal] ∧ FitsBefore kdcom 0x3F800000 drivers
  hal : FitsBefore hal 0x3E000000 drivers

variable {host : Host} {dir : Directory} {kloader : KernelLoader} {k_pbase : UInt64} {before after : Vm}

private theorem fixed_iff {first second : LoadedModule} {gap : Nat} (hgap : 0 < gap)
    (hbases : first.v_base.toNat + gap = second.v_base.toNat) :
    Disjoint first.v_base.toNat first.size.toNat second.v_base.toNat second.size.toNat ↔
      FitsBefore first.size.toNat gap [second.size.toNat] := by
  rw [disjoint_iff, FitsBefore, List.forall_mem_singleton]
  omega

private theorem drivers_iff {first : LoadedModule} {drivers : List LoadedModule} {gap : Nat}
    (hfollows : Follows LoadedModule.v_base DRIVER_VBASE drivers)
    (hextent : DRIVER_VBASE.toNat + extent drivers < 2 ^ 64)
    (hbase : first.v_base.toNat + gap = DRIVER_VBASE.toNat) :
    (∀ loaded ∈ drivers, Disjoint first.v_base.toNat first.size.toNat loaded.v_base.toNat loaded.size.toNat) ↔
      FitsBefore first.size.toNat gap (drivers.map fun loaded => loaded.size.toNat) := by
  have hgap : first.v_base.toNat + first.size.toNat ≤ DRIVER_VBASE.toNat ↔ first.size.toNat ≤ gap := by omega
  rw [hfollows.missed_iff hextent (by omega), FitsBefore, List.forall_mem_map, hgap]

/-- Virtual placement is collision free exactly when every image fits in front
    of the next fixed virtual base. -/
theorem virtuallyFree_iff (hobject : host.object.Sound)
    (hload : (KernelLoader.load_directory host .new dir k_pbase krnl_vbase).run before = .ok kloader after) :
    VirtuallyFree kloader.modules ↔
      FitsVirtually (fileSize host dir "ntoskrnl.exe") (fileSize host dir "hal.dll") (fileSize host dir "kd.dll")
        (fileSize host dir "kdcom.dll") ((driverNames host dir).map (fileSize host dir)) := by
  obtain ⟨ntoskrnl, hal, kd, kdcom, drivers, hmodules, hplaced⟩ :=
    planDirectory_eq_ok (KernelLoader.load_directory_plan hload)
  have hloaded := (load_directory_trace hobject hload).loaded
  rw [hmodules] at hloaded ⊢
  -- The four fixed bases and the first base of the drivers.
  have hnt_v : ntoskrnl.v_base.toNat = 0xFFFFF80000200000 := congrArg UInt64.toNat hplaced.kernel.2
  have hhal_v : hal.v_base.toNat = 0xFFFFF80002000000 := congrArg UInt64.toNat hplaced.fixed.1
  have hkd_v : kd.v_base.toNat = 0xFFFFF80000600000 := congrArg UInt64.toNat hplaced.fixed.2.1
  have hkdcom_v : kdcom.v_base.toNat = 0xFFFFF80000800000 := congrArg UInt64.toNat hplaced.fixed.2.2
  have hdriver_v := DRIVER_VBASE_toNat
  have hvirtual : Follows LoadedModule.v_base DRIVER_VBASE drivers := hplaced.virtual
  have hextent : DRIVER_VBASE.toNat + extent drivers < 2 ^ 64 := by
    have hsize := MEM_SIZE_toNat
    have hcursor : (0x2000000 : UInt64).toNat = 0x2000000 := rfl
    have hphysical := hplaced.physical.extent_le (by omega)
      (fun loaded hmem => (hloaded loaded (List.mem_cons_of_mem _ hmem)).p_base_le) (by omega)
    simp only [extent_cons] at hphysical
    omega
  have hsizes : (driverNames host dir).map (fileSize host dir) = drivers.map fun loaded => loaded.size.toNat := by
    rw [← hplaced.names.2.2.2.2, List.map_map]
    apply List.map_congr_left
    intro loaded hmem
    exact (hplaced.sizes loaded (by simp [hmem])).symm
  rw [hsizes, ← hplaced.names.1, ← hplaced.names.2.1, ← hplaced.names.2.2.1, ← hplaced.names.2.2.2.1,
    ← hplaced.sizes ntoskrnl (by simp), ← hplaced.sizes hal (by simp), ← hplaced.sizes kd (by simp),
    ← hplaced.sizes kdcom (by simp)]
  have hnt_hal := fixed_iff (by decide) (show ntoskrnl.v_base.toNat + 0x1E00000 = hal.v_base.toNat by omega)
  have hnt_kd := fixed_iff (by decide) (show ntoskrnl.v_base.toNat + 0x400000 = kd.v_base.toNat by omega)
  have hnt_kdcom := fixed_iff (by decide) (show ntoskrnl.v_base.toNat + 0x600000 = kdcom.v_base.toNat by omega)
  have hkd_hal := fixed_iff (by decide) (show kd.v_base.toNat + 0x1A00000 = hal.v_base.toNat by omega)
  have hkd_kdcom := fixed_iff (by decide) (show kd.v_base.toNat + 0x200000 = kdcom.v_base.toNat by omega)
  have hkdcom_hal := fixed_iff (by decide) (show kdcom.v_base.toNat + 0x1800000 = hal.v_base.toNat by omega)
  have hnt_drivers := drivers_iff hvirtual hextent (show ntoskrnl.v_base.toNat + 0x3FE00000 = _ by omega)
  have hhal_drivers := drivers_iff hvirtual hextent (show hal.v_base.toNat + 0x3E000000 = _ by omega)
  have hkd_drivers := drivers_iff hvirtual hextent (show kd.v_base.toNat + 0x3FA00000 = _ by omega)
  have hkdcom_drivers := drivers_iff hvirtual hextent (show kdcom.v_base.toNat + 0x3F800000 = _ by omega)
  simp only [VirtuallyFree, List.pairwise_cons, List.forall_mem_cons]
  rw [hnt_hal, hnt_kd, hnt_kdcom, hnt_drivers, hhal_drivers, hkd_kdcom, hkd_drivers, hkdcom_drivers]
  constructor
  · rintro ⟨⟨hkernel_hal, hkernel_kd, hkernel_kdcom, hkernel⟩, ⟨hhal_kd, hhal_kdcom, hhal⟩, ⟨hdebug, hkd⟩, hkdcom, _⟩
    exact ⟨⟨hkernel_kd, hkernel_kdcom, hkernel_hal, hkernel⟩, ⟨hdebug, hkd_hal.mp hhal_kd.symm, hkd⟩,
      ⟨hkdcom_hal.mp hhal_kdcom.symm, hkdcom⟩, hhal⟩
  · rintro ⟨⟨hkernel_kd, hkernel_kdcom, hkernel_hal, hkernel⟩, ⟨hdebug, hkd_before, hkd⟩, ⟨hkdcom_before, hkdcom⟩, hhal⟩
    exact ⟨⟨hkernel_hal, hkernel_kd, hkernel_kdcom, hkernel⟩,
      ⟨(hkd_hal.mpr hkd_before).symm, (hkdcom_hal.mpr hkdcom_before).symm, hhal⟩, ⟨hdebug, hkd⟩, hkdcom,
      hvirtual.pairwise hextent⟩

theorem virtuallyFree_iff_fourFiles : ∃ kloader after,
    (loadModules releaseHost (fourFiles 0x1000 0x1000)).run ⟨fun _ => 0⟩ = .ok kloader after ∧
      VirtuallyFree kloader.modules := by
  obtain ⟨kloader, after, hload, _⟩ := loadModules_fourFiles
  refine ⟨kloader, after, hload, (virtuallyFree_iff peCrate_sound hload).mpr ?_⟩
  obtain ⟨hkernel, hhal, hothers⟩ := sizes_fourFiles
  injection hothers with _ hothers
  injection hothers with hkd hothers
  injection hothers with hkdcom hdrivers
  have hdrivers : (driverNames releaseHost (fourFiles 0x1000 0x1000)).map
      (fileSize releaseHost (fourFiles 0x1000 0x1000)) = [] := hdrivers
  rw [hkernel, hhal, hkd, hkdcom, hdrivers]
  constructor <;> decide

/-- A kernel of 6 MiB takes addresses of kd.dll, which physically lies behind
    it. -/
theorem not_virtuallyFree_large_kernel : ∃ kloader after,
    (loadModules releaseHost (fourFiles 0x600000 0x1000)).run ⟨fun _ => 0⟩ = .ok kloader after ∧
      ¬ VirtuallyFree kloader.modules := by
  obtain ⟨kloader, after, hload, hranges⟩ := Stateful.of_returns
    (show Stateful.returns (loadModules releaseHost (fourFiles 0x600000 0x1000)) ⟨fun _ => 0⟩ (fun kloader =>
      (kloader.modules.map fun loaded => (loaded.v_base, loaded.size)) =
        [(0xFFFFF80000200000, 0x601000), (0xFFFFF80002000000, 0x2000), (0xFFFFF80000600000, 0x2000),
          (0xFFFFF80000800000, 0x2000)]) = true by decide +kernel)
  refine ⟨kloader, after, hload, ?_⟩
  intro hfree
  have hpairs := (List.pairwise_map (f := fun loaded : LoadedModule => (loaded.v_base, loaded.size))
    (R := fun first second => Disjoint first.1.toNat first.2.toNat second.1.toNat second.2.toNat)).mpr hfree
  rw [of_decide_eq_true hranges] at hpairs
  revert hpairs
  decide

end vwfl.main
