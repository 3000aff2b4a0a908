import Vwfl.Loader.Isolation

open Rust ByteStore
open vwfl.vm vwfl.pe

namespace vwfl.loader

def DRIVER_VBASE : UInt64 := 0xFFFFF80040000000

/-- Drivers that both cursors passed in lock step, from the start of the
    physical cursor to the two last cursors. -/
structure LockStep (p_start last_p last_v : UInt64) (drivers : List LoadedModule) : Prop where
  bases : ∀ index (h : index < drivers.length),
    drivers[index].p_base.toNat = p_start.toNat + extent (drivers.take index) ∧
      drivers[index].v_base.toNat = DRIVER_VBASE.toNat + extent (drivers.take index)
  aligned : ∀ loaded ∈ drivers, loaded.p_base.toNat % 0x200000 = 0 ∧ loaded.v_base.toNat % 0x200000 = 0
  physical : drivers.Pairwise fun first second =>
    Disjoint first.p_base.toNat first.size.toNat second.p_base.toNat second.size.toNat
  virtual : drivers.Pairwise fun first second =>
    Disjoint first.v_base.toNat first.size.toNat second.v_base.toNat second.size.toNat
  distance : ∀ loaded ∈ drivers, loaded.v_base - loaded.p_base = DRIVER_VBASE - p_start
  no_overflow : ∀ loaded ∈ drivers, loaded.p_base.toNat + (alignedSize loaded.size).toNat < 2 ^ 64 ∧
    loaded.v_base.toNat + (alignedSize loaded.size).toNat < 2 ^ 64
  cursors : last_p.toNat = p_start.toNat + extent drivers ∧ last_v.toNat = DRIVER_VBASE.toNat + extent drivers
  -- The two sums of the next file come before its sections are loaded.
  next : ∀ size : UInt32, last_p.toNat + (alignedSize size).toNat < 2 ^ 64 ∧
    last_v.toNat + (alignedSize size).toNat < 2 ^ 64

variable {host : Host} {dir : Directory} {fixed result : KernelLoader} {before middle after : Vm}

theorem DRIVER_VBASE_toNat : DRIVER_VBASE.toNat = 0xFFFFF80040000000 := rfl

/-- Cursors that stay in lock step do so for every driver. -/
theorem lockStep_of_follows {p_start : UInt64} {drivers : List LoadedModule}
    (hphysical : Follows LoadedModule.p_base p_start drivers)
    (hvirtual : Follows LoadedModule.v_base DRIVER_VBASE drivers) (haligned : p_start.toNat % 0x200000 = 0)
    (hextent : p_start.toNat + extent drivers ≤ MEM_SIZE.toNat + 2 ^ 32) :
    LockStep p_start (cursorBehind p_start drivers) (cursorBehind DRIVER_VBASE drivers) drivers := by
  have hsize := MEM_SIZE_toNat
  have hstart := DRIVER_VBASE_toNat
  have hphysicalEnd : p_start.toNat + extent drivers < 2 ^ 64 := by omega
  have hvirtualEnd : DRIVER_VBASE.toNat + extent drivers < 2 ^ 64 := by omega
  have hlast_p := cursorBehind_toNat hphysicalEnd
  have hlast_v := cursorBehind_toNat hvirtualEnd
  have hbases : ∀ index (h : index < drivers.length),
      drivers[index].p_base.toNat = p_start.toNat + extent (drivers.take index) ∧
        drivers[index].v_base.toNat = DRIVER_VBASE.toNat + extent (drivers.take index) :=
    fun index hindex => ⟨hphysical.base_toNat hphysicalEnd index hindex, hvirtual.base_toNat hvirtualEnd index hindex⟩
  have hmember : ∀ loaded ∈ drivers, ∃ passed, passed % 0x200000 = 0 ∧ passed ≤ extent drivers ∧
      loaded.p_base.toNat = p_start.toNat + passed ∧ loaded.v_base.toNat = DRIVER_VBASE.toNat + passed := by
    intro loaded hloaded
    obtain ⟨index, hindex, rfl⟩ := List.getElem_of_mem hloaded
    obtain ⟨hp_base, hv_base⟩ := hbases index hindex
    exact ⟨_, extent_mod _, extent_take_le drivers index, hp_base, hv_base⟩
  have hstep : ∀ size : UInt32, (alignedSize size).toNat ≤ 2 ^ 32 := by
    intro size
    rw [alignedSize_toNat]
    exact roundUp_le size
  constructor
  case bases => exact hbases
  case aligned =>
    intro loaded hloaded
    obtain ⟨passed, hmod, _, hp_base, hv_base⟩ := hmember loaded hloaded
    omega
  case physical => exact hphysical.pairwise hphysicalEnd
  case virtual => exact hvirtual.pairwise hvirtualEnd
  case distance =>
    intro loaded hloaded
    obtain ⟨passed, _, hpassed, hp_base, hv_base⟩ := hmember loaded hloaded
    have hnat : (UInt64.ofNat passed).toNat = passed := UInt64.toNat_ofNat_of_lt' (show passed < 2 ^ 64 by omega)
    have hphysicalAt : loaded.p_base = p_start + UInt64.ofNat passed := by
      apply UInt64.toNat.inj
      rw [hp_base, BitField.toNat_add_of_lt (by omega), hnat]
    have hvirtualAt : loaded.v_base = DRIVER_VBASE + UInt64.ofNat passed := by
      apply UInt64.toNat.inj
      rw [hv_base, BitField.toNat_add_of_lt (by omega), hnat]
    rw [hphysicalAt, hvirtualAt]
    grind
  case no_overflow =>
    intro loaded hloaded
    obtain ⟨passed, _, hpassed, hp_base, hv_base⟩ := hmember loaded hloaded
    have hadvance := hstep loaded.size
    omega
  case cursors => exact ⟨hlast_p, hlast_v⟩
  case next =>
    intro size
    have hadvance := hstep size
    omega

/-- The drivers that are loaded after the fixed modules, in any number, stand
    where two cursors in lock step put them. -/
theorem loadDrivers_lockStep (hobject : host.object.Sound) {k_pbase k_vbase p_start last_p last_v : UInt64}
    {names : List String} (hfixed : (loadFixed host dir k_pbase k_vbase).run before = .ok (fixed, p_start) middle)
    (hdrivers : (loadDrivers host dir fixed names p_start DRIVER_VBASE).run middle =
      .ok (result, last_p, last_v) after) :
    ∃ drivers, result.modules = fixed.modules ++ drivers ∧ drivers.map LoadedModule.name = names ∧
      (∀ loaded ∈ drivers, openFile host dir loaded.name = .ok (loaded.pe, loaded.size)) ∧
      LockStep p_start last_p last_v drivers := by
  obtain ⟨ntoskrnl, hal, kd, kdcom, hloaded, _, hhal, hkd, hkdcom, rfl⟩ := loadFixed_eq_ok hfixed
  obtain ⟨drivers, hmodules, hplan, rfl, rfl⟩ := loadDrivers_eq_ok hdrivers
  obtain ⟨hnames, hphysical, hvirtual, hopened⟩ := planDrivers_eq_ok hplan
  have hsize := MEM_SIZE_toNat
  have hcursor : (0x2000000 : UInt64).toNat = 0x2000000 := rfl
  -- Every module lies in guest memory, so the physical cursor ends within one image of it.
  have htrace := loadDrivers_trace hobject (loadFixed_trace hobject hfixed) hdrivers
  have hfollows : Follows LoadedModule.p_base 0x2000000 ([hal, kd, kdcom] ++ drivers) :=
    ⟨(planModule_eq_ok hhal).2.1, (planModule_eq_ok hkd).2.1, (planModule_eq_ok hkdcom).2.1, hphysical⟩
  have hbases : ∀ loaded ∈ [hal, kd, kdcom] ++ drivers, loaded.p_base.toNat ≤ MEM_SIZE.toNat := by
    intro loaded hmem
    refine (htrace.loaded loaded ?_).p_base_le
    rw [hmodules, hloaded]
    exact List.mem_cons_of_mem _ hmem
  have hextent := hfollows.extent_le (by omega) hbases (by omega)
  rw [extent_append] at hextent
  have hstart : (cursorBehind 0x2000000 [hal, kd, kdcom]).toNat =
      (0x2000000 : UInt64).toNat + extent [hal, kd, kdcom] := cursorBehind_toNat (by omega)
  have hmod := extent_mod [hal, kd, kdcom]
  exact ⟨drivers, hmodules, hnames, hopened, lockStep_of_follows hphysical hvirtual (by omega) (by omega)⟩

/-- The cursors before and after two drivers of `relocDirectory`. -/
def passTwoDrivers : VmM (UInt64 × UInt64 × UInt64) := do
  let (fixed, p_start) ← loadFixed peHost (relocDirectory 0x1000) 0x200000 0xFFFFF80000200000
  let (_, last_p, last_v) ← loadDrivers peHost (relocDirectory 0x1000) fixed ["a.sys", "b.sys"] p_start DRIVER_VBASE
  return (p_start, last_p, last_v)

set_option maxRecDepth 10000 in
theorem loadDrivers_lockStep_twoDrivers : ∃ drivers, drivers.map LoadedModule.name = ["a.sys", "b.sys"] ∧
    LockStep 0x2600000 0x2A00000 0xFFFFF80040400000 drivers := by
  obtain ⟨cursors, after, hrun, hcursors⟩ := Stateful.of_returns
    (show Stateful.returns passTwoDrivers ⟨fun _ => 0⟩
      (fun cursors => cursors = (0x2600000, 0x2A00000, 0xFFFFF80040400000)) = true by decide +kernel)
  rw [of_decide_eq_true hcursors] at hrun
  obtain ⟨⟨fixed, p_start⟩, middle, hfixed, hrun⟩ := Stateful.bind_run_eq_ok_iff.mp hrun
  obtain ⟨⟨result, last_p, last_v⟩, _, hdrivers, hrun⟩ := Stateful.bind_run_eq_ok_iff.mp hrun
  injection hrun with hvalue _
  injection hvalue with hp_start hlast
  injection hlast with hlast_p hlast_v
  obtain ⟨drivers, _, hnames, _, hlockStep⟩ := loadDrivers_lockStep peCrate_sound hfixed hdrivers
  rw [hp_start, hlast_p, hlast_v] at hlockStep
  exact ⟨drivers, hnames, hlockStep⟩

end vwfl.loader
