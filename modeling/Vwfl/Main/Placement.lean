import Vwfl.Loader.Layout
import Vwfl.Main.Boot
import Vwfl.Pe.Crate

open Rust ByteStore
open vwfl.vm vwfl.pe vwfl.loader

namespace vwfl.main

/-- Regions that `main` writes after loading: the loader block area, the hive,
    the ACPI tables, the descriptor and page tables, the shared user page and
    the boot stack. -/
def bootRegions (hive_size : Nat) : List (Nat × Nat) :=
  [(LPB_PBASE.toNat, 0x200000), (0x4200000, hive_size), (ACPI_PBASE.toNat, 0x524), (SYSTEM_BASE.toNat, 0x180000),
    (KUSER_PBASE.toNat, 0x1000), (STACK_PBASE.toNat, 0x10000)]

/-- Physical ranges of the modules meet neither each other nor a boot region. -/
structure CollisionFree (hive_size : Nat) (modules : List LoadedModule) : Prop where
  pairwise : modules.Pairwise fun first second =>
    Disjoint first.p_base.toNat first.size.toNat second.p_base.toNat second.size.toNat
  regions : ∀ loaded ∈ modules, ∀ region ∈ bootRegions hive_size,
    Disjoint loaded.p_base.toNat loaded.size.toNat region.1 region.2

/-- Sizes of the images loaded behind the kernel. -/
def otherSizes (host : Host) (dir : Directory) : List Nat :=
  (["hal.dll", "kd.dll", "kdcom.dll"] ++ driverNames host dir).map (fileSize host dir)

/-- The images behind the kernel end before the loader block area, and the
    kernel ends before them, or before the area when they are all empty. -/
def FitsPhysically (kernel : Nat) (others : List Nat) : Prop :=
  (others.map roundUp).sum ≤ 0x2000000 ∧
    (kernel ≤ 0x1E00000 ∨ (∀ size ∈ others, size = 0) ∧ kernel ≤ 0x3E00000)

variable {host : Host} {dir : Directory} {before after : Vm} {kloader : KernelLoader}

/-- The loaded modules and the sizes of their files. -/
theorem loadModules_eq_ok (hload : (loadModules host dir).run before = .ok kloader after) :
    ∃ ntoskrnl hal kd kdcom drivers, kloader.modules = ntoskrnl :: hal :: kd :: kdcom :: drivers ∧
      Placed host dir KRNL_PBASE krnl_vbase ntoskrnl hal kd kdcom drivers ∧
      ntoskrnl.size.toNat = fileSize host dir "ntoskrnl.exe" ∧
      (hal :: kd :: kdcom :: drivers).map (fun loaded => loaded.size.toNat) = otherSizes host dir := by
  obtain ⟨ntoskrnl, hal, kd, kdcom, drivers, hmodules, hplaced⟩ :=
    planDirectory_eq_ok (KernelLoader.load_directory_plan hload)
  obtain ⟨hnt, hhal, hkd, hkdcom, hdrivers⟩ := hplaced.names
  refine ⟨ntoskrnl, hal, kd, kdcom, drivers, hmodules, hplaced, ?_, ?_⟩
  · rw [hplaced.sizes ntoskrnl (by simp), hnt]
  · have hnames : (hal :: kd :: kdcom :: drivers).map LoadedModule.name =
        ["hal.dll", "kd.dll", "kdcom.dll"] ++ driverNames host dir := by
      simp only [List.map_cons, hhal, hkd, hkdcom, hdrivers]
      rfl
    rw [otherSizes, ← hnames, List.map_map]
    apply List.map_congr_left
    intro loaded hloaded
    exact hplaced.sizes loaded (List.mem_cons_of_mem _ hloaded)

private theorem regions_above {hive_size start length : Nat} (h : start + length ≤ 0x4000000) :
    ∀ region ∈ bootRegions hive_size, Disjoint start length region.1 region.2 := by
  intro region hregion
  have habove : 0x4000000 ≤ region.1 := by
    simp only [bootRegions, List.mem_cons, List.not_mem_nil, or_false] at hregion
    rcases hregion with rfl | rfl | rfl | rfl | rfl | rfl
    case inr.inl => norm_num
    all_goals decide
  exact disjoint_of_le (by omega)

/-- Physical placement is collision free exactly when the images fit in front
    of the loader block area. -/
theorem collisionFree_iff (hive_size : Nat) (hload : (loadModules host dir).run before = .ok kloader after) :
    CollisionFree hive_size kloader.modules ↔
      FitsPhysically (fileSize host dir "ntoskrnl.exe") (otherSizes host dir) := by
  obtain ⟨ntoskrnl, hal, kd, kdcom, drivers, hmodules, hplaced, hkernel, hothers⟩ := loadModules_eq_ok hload
  generalize hrest : hal :: kd :: kdcom :: drivers = others at hmodules hothers
  have hfollows : Follows LoadedModule.p_base 0x2000000 others := hrest ▸ hplaced.physical
  have hbase : ntoskrnl.p_base.toNat = 0x200000 := by
    rw [hplaced.kernel.1]
    rfl
  have hcursor : (0x2000000 : UInt64).toNat = 0x2000000 := rfl
  have hextent : ((otherSizes host dir).map roundUp).sum = extent others := by
    rw [← hothers, List.map_map]
    rfl
  have hempty : (∀ size ∈ otherSizes host dir, size = 0) ↔ ∀ loaded ∈ others, loaded.size.toNat = 0 := by
    rw [← hothers]
    simp
  have hmisses : (∀ loaded ∈ others, Disjoint loaded.p_base.toNat loaded.size.toNat 0x4000000 0x200000) ↔
      (0x2000000 : UInt64).toNat + extent others ≤ 0x4000000 :=
    hfollows.misses_iff (by decide) (by decide) (by decide) (by decide) (by decide)
  rw [FitsPhysically, hextent, hempty, ← hkernel, hmodules]
  constructor
  · intro hfree
    obtain ⟨hhead, _⟩ := List.pairwise_cons.mp hfree.pairwise
    have hloader : ∀ loaded ∈ ntoskrnl :: others,
        Disjoint loaded.p_base.toNat loaded.size.toNat 0x4000000 0x200000 :=
      fun loaded hloaded => hfree.regions loaded hloaded _ List.mem_cons_self
    have hsum := hmisses.mp fun loaded hloaded => hloader loaded (List.mem_cons_of_mem _ hloaded)
    have hlimit := hloader ntoskrnl List.mem_cons_self
    rw [disjoint_iff, hbase] at hlimit
    refine ⟨by omega, ?_⟩
    rcases hfollows.first_nonempty with hall | ⟨loaded, hloaded, hp_base, hpositive⟩
    · exact .inr ⟨hall, by omega⟩
    · have hnext := hhead loaded hloaded
      rw [disjoint_iff, hbase, hp_base] at hnext
      exact .inl (by omega)
  · rintro ⟨hsum, hsize⟩
    have hwithin := hfollows.within (by omega)
    have hends : ∀ loaded ∈ ntoskrnl :: others, loaded.p_base.toNat + loaded.size.toNat ≤ 0x4000000 := by
      intro loaded hloaded
      rcases List.mem_cons.mp hloaded with rfl | hother
      · omega
      · obtain ⟨_, hhigh⟩ := hwithin loaded hother
        omega
    refine ⟨List.pairwise_cons.mpr ⟨?_, hfollows.pairwise (by omega)⟩, ?_⟩
    · intro loaded hloaded
      obtain ⟨hlow, _⟩ := hwithin loaded hloaded
      rw [disjoint_iff]
      rcases hsize with hsmall | ⟨hall, _⟩
      · omega
      · exact .inr (.inl (hall loaded hloaded))
    · intro loaded hloaded
      exact regions_above (hends loaded hloaded)

/-- A file whose image has one section of the given size and no data. -/
def emptyImage (virtual_size : UInt32) : List UInt8 :=
  peImage 0x180000000 0x1000 (0, 0) (0, 0) [⟨[0x2E, 0x74, 0x65, 0x78, 0x74], virtual_size, 0x1000, 0, 0⟩] []

/-- The four fixed files alone, with sections of the given sizes. -/
def fourFiles (kernel others : UInt32) : Directory where
  read name := .ok (emptyImage (if name == "ntoskrnl.exe" then kernel else others))
  read_dir := .ok (["ntoskrnl.exe", "hal.dll", "kd.dll", "kdcom.dll"].map fun name => some ⟨some name, true⟩)

def releaseHost : Host := ⟨.release, peCrate, CaseMap.ascii⟩

/-- Where the four files are loaded. -/
theorem loadModules_fourFiles : ∃ kloader after,
    (loadModules releaseHost (fourFiles 0x1000 0x1000)).run ⟨fun _ => 0⟩ = .ok kloader after ∧
      (kloader.modules.map fun loaded => (loaded.v_base, loaded.p_base, loaded.size)) =
        [(0xFFFFF80000200000, 0x200000, 0x2000), (0xFFFFF80002000000, 0x2000000, 0x2000),
          (0xFFFFF80000600000, 0x2200000, 0x2000), (0xFFFFF80000800000, 0x2400000, 0x2000)] := by
  obtain ⟨kloader, after, hload, hplaces⟩ := Stateful.of_returns
    (show Stateful.returns (loadModules releaseHost (fourFiles 0x1000 0x1000)) ⟨fun _ => 0⟩ (fun kloader =>
      (kloader.modules.map fun loaded => (loaded.v_base, loaded.p_base, loaded.size)) =
        [(0xFFFFF80000200000, 0x200000, 0x2000), (0xFFFFF80002000000, 0x2000000, 0x2000),
          (0xFFFFF80000600000, 0x2200000, 0x2000), (0xFFFFF80000800000, 0x2400000, 0x2000)]) = true by decide +kernel)
  exact ⟨kloader, after, hload, of_decide_eq_true hplaces⟩

theorem sizes_fourFiles : fileSize releaseHost (fourFiles 0x1000 0x1000) "ntoskrnl.exe" = 0x2000 ∧
    fileSize releaseHost (fourFiles 0x1000 0x1000) "hal.dll" = 0x2000 ∧
    otherSizes releaseHost (fourFiles 0x1000 0x1000) = [0x2000, 0x2000, 0x2000] := by decide +kernel

theorem collisionFree_iff_fourFiles : ∃ kloader after,
    (loadModules releaseHost (fourFiles 0x1000 0x1000)).run ⟨fun _ => 0⟩ = .ok kloader after ∧
      CollisionFree 0x1000 kloader.modules := by
  obtain ⟨kloader, after, hload, _⟩ := loadModules_fourFiles
  obtain ⟨hkernel, _, hothers⟩ := sizes_fourFiles
  refine ⟨kloader, after, hload, (collisionFree_iff 0x1000 hload).mpr ?_⟩
  rw [hkernel, hothers]
  exact ⟨by decide, .inl (by decide)⟩

/-- A kernel of 32 MiB runs into the module behind it. -/
theorem not_collisionFree_large_kernel : ∃ kloader after,
    (loadModules releaseHost (fourFiles 0x2000000 0x1000)).run ⟨fun _ => 0⟩ = .ok kloader after ∧
      ¬ CollisionFree 0x1000 kloader.modules := by
  obtain ⟨kloader, after, hload, hranges⟩ := Stateful.of_returns
    (show Stateful.returns (loadModules releaseHost (fourFiles 0x2000000 0x1000)) ⟨fun _ => 0⟩ (fun kloader =>
      (kloader.modules.map fun loaded => (loaded.p_base, loaded.size)) =
        [(0x200000, 0x2001000), (0x2000000, 0x2000), (0x2200000, 0x2000), (0x2400000, 0x2000)]) = true by
      decide +kernel)
  refine ⟨kloader, after, hload, ?_⟩
  intro hfree
  have hpairs := (List.pairwise_map (f := fun loaded : LoadedModule => (loaded.p_base, loaded.size))
    (R := fun first second => Disjoint first.1.toNat first.2.toNat second.1.toNat second.2.toNat)).mpr hfree.pairwise
  rw [of_decide_eq_true hranges] at hpairs
  revert hpairs
  decide

end vwfl.main
