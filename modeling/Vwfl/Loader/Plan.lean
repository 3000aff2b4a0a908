import Vwfl.Loader.Directory

open Rust
open vwfl.vm vwfl.pe

namespace vwfl.loader

/-- Files that the driver loop loads, in its order. -/
def driverNames (host : Host) (dir : Directory) : List String :=
  match dir.paths with
  | .ok paths => paths.filterMap (driverName host.cases)
  | .error _ => []

/-- The module that a file becomes at the given addresses. -/
def planModule (host : Host) (dir : Directory) (name : String) (p_base v_base : UInt64) : Result LoadedModule := do
  let (pe, size) ← openFile host dir name
  let entry ← host.profile.add64 v_base (pe.entry_point - pe.image_base)
  return { name, v_base, p_base, entry, size, pe }

/-- The modules of the driver loop from the two cursors on. -/
def planDrivers (host : Host) (dir : Directory) : List String → UInt64 → UInt64 → Result (List LoadedModule)
  | [], _, _ => .ok []
  | name :: names, p_cursor, v_cursor => do
    let loaded ← planModule host dir name p_cursor v_cursor
    let rest ← planDrivers host dir names (p_cursor + alignedSize loaded.size) (v_cursor + alignedSize loaded.size)
    return loaded :: rest

/-- The modules of a directory as its files determine them, without the guest
    memory they are loaded into. -/
def planDirectory (host : Host) (dir : Directory) (k_pbase k_vbase : UInt64) : Result (List LoadedModule) := do
  let ntoskrnl ← planModule host dir "ntoskrnl.exe" k_pbase k_vbase
  let hal_p := 0x2000000
  let hal ← planModule host dir "hal.dll" hal_p 0xFFFFF80002000000
  let kd_p := hal_p + alignedSize hal.size
  let kd ← planModule host dir "kd.dll" kd_p 0xFFFFF80000600000
  let kdcom_p := kd_p + alignedSize kd.size
  let kdcom ← planModule host dir "kdcom.dll" kdcom_p 0xFFFFF80000800000
  let drivers ← planDrivers host dir (driverNames host dir) (kdcom_p + alignedSize kdcom.size) 0xFFFFF80040000000
  return ntoskrnl :: hal :: kd :: kdcom :: drivers

variable {host : Host} {dir : Directory} {self result : KernelLoader} {before after : Vm}

/-- An opened file was read, parsed and measured. -/
theorem openFile_eq_ok {name : String} {pe : PeFile} {size : UInt32} (h : openFile host dir name = .ok (pe, size)) :
    ∃ buf, dir.read name = .ok buf ∧ parse host.object buf = .ok pe ∧ imageSize host.profile pe = .ok size := by
  obtain ⟨buf, hread, h⟩ := bind_eq_ok_iff.mp h
  obtain ⟨parsed, hparse, h⟩ := bind_eq_ok_iff.mp h
  obtain ⟨measured, hsize, h⟩ := bind_eq_ok_iff.mp h
  injection h with hpair
  injection hpair with hpe hmeasured
  subst hpe hmeasured
  refine ⟨buf, ?_, hparse, hsize⟩
  unfold ioResult at hread
  cases hfile : dir.read name with
  | error message =>
    rw [hfile] at hread
    cases hread
  | ok found =>
    rw [hfile] at hread
    injection hread with hbuf
    rw [hbuf]

/-- A planned module carries its name, its addresses and the parsed file. -/
theorem planModule_eq_ok {name : String} {p_base v_base : UInt64} {loaded : LoadedModule}
    (h : planModule host dir name p_base v_base = .ok loaded) :
    loaded.name = name ∧ loaded.p_base = p_base ∧ loaded.v_base = v_base ∧
      openFile host dir name = .ok (loaded.pe, loaded.size) := by
  obtain ⟨⟨pe, size⟩, hopen, h⟩ := bind_eq_ok_iff.mp h
  obtain ⟨entry, _, h⟩ := bind_eq_ok_iff.mp h
  injection h with hloaded
  subst hloaded
  exact ⟨rfl, rfl, rfl, hopen⟩

theorem planModule_of_ok {name : String} {p_base v_base entry : UInt64} {pe : PeFile} {size : UInt32}
    (hopen : openFile host dir name = .ok (pe, size))
    (hentry : host.profile.add64 v_base (pe.entry_point - pe.image_base) = .ok entry) :
    planModule host dir name p_base v_base = .ok { name, v_base, p_base, entry, size, pe } := by
  simp only [planModule, hopen, hentry, ok_bind]
  rfl

theorem load_sections_entry {profile : Profile} {pe_file : PeFile} {load_pbase load_vbase entry : UInt64}
    (h : (load_sections profile pe_file load_pbase load_vbase).run before = .ok entry after) :
    profile.add64 load_vbase (pe_file.entry_point - pe_file.image_base) = .ok entry := by
  unfold load_sections at h
  obtain ⟨_, _, _, h⟩ := Stateful.bind_run_eq_ok_iff.mp h
  obtain ⟨_, _, _, h⟩ := Stateful.bind_run_eq_ok_iff.mp h
  obtain ⟨_, _, _, h⟩ := Stateful.bind_run_eq_ok_iff.mp h
  exact (Stateful.lift_run_eq_ok_iff.mp h).1

/-- One file at a fixed address: the planned module is appended and the cursor
    advances. -/
theorem KernelLoader.load_file_fixed_eq_ok {name : String} {p_cursor v_base next : UInt64}
    (h : (self.load_file_fixed host dir name p_cursor v_base).run before = .ok (result, next) after) :
    ∃ loaded, result = self.push loaded ∧ planModule host dir name p_cursor v_base = .ok loaded ∧
      next = if name = "ntoskrnl.exe" then 0x2000000 else p_cursor + alignedSize loaded.size := by
  unfold load_file_fixed at h
  obtain ⟨⟨pe, size⟩, _, hopen, h⟩ := Stateful.bind_run_eq_ok_iff.mp h
  obtain ⟨advanced, _, hadvanced, h⟩ := Stateful.bind_run_eq_ok_iff.mp h
  obtain ⟨entry, _, hsections, h⟩ := Stateful.bind_run_eq_ok_iff.mp h
  have hfile := (Stateful.lift_run_eq_ok_iff.mp hopen).1
  have hsum := Profile.eq_of_add64 (Stateful.lift_run_eq_ok_iff.mp hadvanced).1
  injection h with hvalue
  injection hvalue with hresult hnext
  exact ⟨_, hresult.symm, planModule_of_ok hfile (load_sections_entry hsections), by rw [← hnext, hsum]⟩

theorem KernelLoader.load_file_dynamic_eq_ok {name : String} {p_cursor v_cursor next_p next_v : UInt64}
    (h : (self.load_file_dynamic host dir name p_cursor v_cursor).run before = .ok (result, next_p, next_v) after) :
    ∃ loaded, result = self.push loaded ∧ planModule host dir name p_cursor v_cursor = .ok loaded ∧
      next_p = p_cursor + alignedSize loaded.size ∧ next_v = v_cursor + alignedSize loaded.size := by
  unfold load_file_dynamic at h
  obtain ⟨⟨pe, size⟩, _, hopen, h⟩ := Stateful.bind_run_eq_ok_iff.mp h
  obtain ⟨advanced_p, _, hadvanced_p, h⟩ := Stateful.bind_run_eq_ok_iff.mp h
  obtain ⟨advanced_v, _, hadvanced_v, h⟩ := Stateful.bind_run_eq_ok_iff.mp h
  obtain ⟨entry, _, hsections, h⟩ := Stateful.bind_run_eq_ok_iff.mp h
  have hfile := (Stateful.lift_run_eq_ok_iff.mp hopen).1
  have hsum_p := Profile.eq_of_add64 (Stateful.lift_run_eq_ok_iff.mp hadvanced_p).1
  have hsum_v := Profile.eq_of_add64 (Stateful.lift_run_eq_ok_iff.mp hadvanced_v).1
  injection h with hvalue
  injection hvalue with hresult hnext
  injection hnext with hnext_p hnext_v
  exact ⟨_, hresult.symm, planModule_of_ok hfile (load_sections_entry hsections), by rw [← hnext_p, hsum_p],
    by rw [← hnext_v, hsum_v]⟩

/-- The loop over the fixed modules. -/
def loadFixed (host : Host) (dir : Directory) (k_pbase k_vbase : UInt64) : VmM (KernelLoader × UInt64) :=
  (essentials k_vbase).foldlM
    (fun (self, p_cursor) (name, fixed_v) => KernelLoader.load_file_fixed host self dir name p_cursor fixed_v)
    (KernelLoader.new, k_pbase)

/-- The loop over the drivers, from the two cursors on. -/
def loadDrivers (host : Host) (dir : Directory) (self : KernelLoader) (names : List String)
    (p_cursor v_cursor : UInt64) : VmM (KernelLoader × UInt64 × UInt64) :=
  names.foldlM
    (fun (self, p_cursor, v_cursor_drivers) fname =>
      KernelLoader.load_file_dynamic host self dir fname p_cursor v_cursor_drivers) (self, p_cursor, v_cursor)

/-- A cursor behind modules of the given list. -/
def cursorBehind : UInt64 → List LoadedModule → UInt64
  | cursor, [] => cursor
  | cursor, loaded :: rest => cursorBehind (cursor + alignedSize loaded.size) rest

/-- The fixed loop loads the four planned modules. -/
theorem loadFixed_eq_ok {k_pbase k_vbase p_start : UInt64}
    (h : (loadFixed host dir k_pbase k_vbase).run before = .ok (result, p_start) after) :
    ∃ ntoskrnl hal kd kdcom, result.modules = [ntoskrnl, hal, kd, kdcom] ∧
      planModule host dir "ntoskrnl.exe" k_pbase k_vbase = .ok ntoskrnl ∧
      planModule host dir "hal.dll" 0x2000000 0xFFFFF80002000000 = .ok hal ∧
      planModule host dir "kd.dll" (cursorBehind 0x2000000 [hal]) 0xFFFFF80000600000 = .ok kd ∧
      planModule host dir "kdcom.dll" (cursorBehind 0x2000000 [hal, kd]) 0xFFFFF80000800000 = .ok kdcom ∧
      p_start = cursorBehind 0x2000000 [hal, kd, kdcom] := by
  unfold loadFixed essentials at h
  simp only [List.foldlM_cons, List.foldlM_nil] at h
  obtain ⟨⟨_, _⟩, _, hfirst, h⟩ := Stateful.bind_run_eq_ok_iff.mp h
  obtain ⟨⟨_, _⟩, _, hsecond, h⟩ := Stateful.bind_run_eq_ok_iff.mp h
  obtain ⟨⟨_, _⟩, _, hthird, h⟩ := Stateful.bind_run_eq_ok_iff.mp h
  obtain ⟨⟨_, _⟩, _, hfourth, h⟩ := Stateful.bind_run_eq_ok_iff.mp h
  injection h with hvalue
  injection hvalue with hloader hcursor
  obtain ⟨ntoskrnl, rfl, hntoskrnl, rfl⟩ := KernelLoader.load_file_fixed_eq_ok hfirst
  obtain ⟨hal, rfl, hhal, rfl⟩ := KernelLoader.load_file_fixed_eq_ok hsecond
  obtain ⟨kd, rfl, hkd, rfl⟩ := KernelLoader.load_file_fixed_eq_ok hthird
  obtain ⟨kdcom, rfl, hkdcom, rfl⟩ := KernelLoader.load_file_fixed_eq_ok hfourth
  have hthree : ("hal.dll" ≠ "ntoskrnl.exe") ∧ ("kd.dll" ≠ "ntoskrnl.exe") ∧ ("kdcom.dll" ≠ "ntoskrnl.exe") := by
    decide
  simp only [if_true, if_neg hthree.1, if_neg hthree.2.1, if_neg hthree.2.2] at hhal hkd hkdcom hcursor
  refine ⟨ntoskrnl, hal, kd, kdcom, ?_, hntoskrnl, hhal, hkd, hkdcom, hcursor.symm⟩
  rw [← hloader]
  rfl

/-- The driver loop appends the planned drivers and leaves the cursors behind
    them. -/
theorem loadDrivers_eq_ok {names : List String} {p_cursor v_cursor last_p last_v : UInt64}
    (h : (loadDrivers host dir self names p_cursor v_cursor).run before = .ok (result, last_p, last_v) after) :
    ∃ drivers, result.modules = self.modules ++ drivers ∧
      planDrivers host dir names p_cursor v_cursor = .ok drivers ∧
      last_p = cursorBehind p_cursor drivers ∧ last_v = cursorBehind v_cursor drivers := by
  induction names generalizing self p_cursor v_cursor before with
  | nil =>
    injection h with hvalue
    injection hvalue with hresult hcursors
    injection hcursors with hlast_p hlast_v
    exact ⟨[], by simp [hresult], rfl, hlast_p.symm, hlast_v.symm⟩
  | cons name names ih =>
    rw [loadDrivers, List.foldlM_cons] at h
    obtain ⟨⟨middle, next_p, next_v⟩, between, hstep, hrest⟩ := Stateful.bind_run_eq_ok_iff.mp h
    obtain ⟨loaded, rfl, hloaded, rfl, rfl⟩ := KernelLoader.load_file_dynamic_eq_ok hstep
    obtain ⟨drivers, hmodules, hdrivers, hlast_p, hlast_v⟩ := ih hrest
    refine ⟨loaded :: drivers, ?_, ?_, hlast_p, hlast_v⟩
    · rw [hmodules, KernelLoader.push, List.append_assoc]
      rfl
    · rw [planDrivers, hloaded, ok_bind, hdrivers]
      rfl

/-- Loading a directory runs the two loops. -/
theorem KernelLoader.load_directory_eq_ok {k_pbase k_vbase : UInt64}
    (h : (KernelLoader.load_directory host .new dir k_pbase k_vbase).run before = .ok result after) :
    ∃ fixed p_start middle last_p last_v,
      (loadFixed host dir k_pbase k_vbase).run before = .ok (fixed, p_start) middle ∧
      (loadDrivers host dir fixed (driverNames host dir) p_start 0xFFFFF80040000000).run middle =
        .ok (result, last_p, last_v) after := by
  obtain ⟨⟨fixed, p_start⟩, middle, hfixed, h⟩ := Stateful.bind_run_eq_ok_iff.mp h
  obtain ⟨paths, _, hpaths, h⟩ := Stateful.bind_run_eq_ok_iff.mp h
  obtain ⟨⟨loader, last_p, last_v⟩, _, hdrivers, h⟩ := Stateful.bind_run_eq_ok_iff.mp h
  injection h with hresult hstate
  subst hresult hstate
  obtain ⟨hlisted, rfl⟩ := Stateful.lift_run_eq_ok_iff.mp hpaths
  have hlisting : driverNames host dir = paths.filterMap (driverName host.cases) := by rw [driverNames, hlisted]
  exact ⟨fixed, p_start, _, last_p, last_v, hfixed, hlisting ▸ hdrivers⟩

/-- Loading a directory into an empty loader gives the planned modules. -/
theorem KernelLoader.load_directory_plan {k_pbase k_vbase : UInt64}
    (h : (KernelLoader.load_directory host .new dir k_pbase k_vbase).run before = .ok result after) :
    planDirectory host dir k_pbase k_vbase = .ok result.modules := by
  obtain ⟨fixed, p_start, _, _, _, hfixed, hdrivers⟩ := KernelLoader.load_directory_eq_ok h
  obtain ⟨ntoskrnl, hal, kd, kdcom, hloaded, hntoskrnl, hhal, hkd, hkdcom, rfl⟩ := loadFixed_eq_ok hfixed
  obtain ⟨drivers, hmodules, hplan, _⟩ := loadDrivers_eq_ok hdrivers
  simp only [cursorBehind] at hkd hkdcom hplan
  simp only [planDirectory, hntoskrnl, hhal, hkd, hkdcom, hplan, ok_bind]
  rw [hmodules, hloaded]
  rfl

end vwfl.loader
