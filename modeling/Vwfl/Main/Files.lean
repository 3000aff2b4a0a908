import Vwfl.Main.Mapping
import Vwfl.Main.Writes

open Rust ByteStore
open vwfl.vm vwfl.gdb vwfl.pe vwfl.loader vwfl.loaderblock

namespace vwfl.main

/-- The files that `main` reads next to the modules. -/
structure BootFiles where
  sys_hive : List UInt8
  ansi_data : List UInt8
  oem_data : List UInt8
  apiset_buf : Option (List UInt8)

/-- The boot files of a directory. The API set schema may be missing. -/
def bootFiles (dir : Directory) : Option BootFiles := do
  let sys_hive ← (dir.read "config/SYSTEM").toOption
  let ansi_data ← (dir.read "C_1252.NLS").toOption
  let oem_data ← (dir.read "C_437.NLS").toOption
  return { sys_hive, ansi_data, oem_data, apiset_buf := (dir.read "apisetschema.dll").toOption }

/-- A directory with the four fixed modules and the given boot files. -/
def bootDirectory (files : BootFiles) : Directory where
  read name :=
    if name == "config/SYSTEM" then .ok files.sys_hive
    else if name == "C_1252.NLS" then .ok files.ansi_data
    else if name == "C_437.NLS" then .ok files.oem_data
    else if name == "apisetschema.dll" then
      match files.apiset_buf with
      | some apiset_buf => .ok apiset_buf
      | none => .error "No such file or directory"
    else .ok (emptyImage 0x1000)
  read_dir := .ok (["ntoskrnl.exe", "hal.dll", "kd.dll", "kdcom.dll"].map fun name => some ⟨some name, true⟩)

/-- Names of the loaded modules, in load order. -/
def moduleNames (host : Host) (dir : Directory) : List String :=
  ["ntoskrnl.exe", "hal.dll", "kd.dll", "kdcom.dll"] ++ driverNames host dir

theorem loadModules_names {host : Host} {dir : Directory} {before after : Vm} {kloader : KernelLoader}
    (hload : (loadModules host dir).run before = .ok kloader after) :
    kloader.modules.map LoadedModule.name = moduleNames host dir := by
  obtain ⟨ntoskrnl, hal, kd, kdcom, drivers, hmodules, hplaced, _, _⟩ := loadModules_eq_ok hload
  obtain ⟨hnt, hhal, hkd, hkdcom, hdrivers⟩ := hplaced.names
  rw [hmodules, moduleNames]
  simp only [List.map_cons, hnt, hhal, hkd, hkdcom, hdrivers]
  rfl

theorem bootFiles_bootDirectory (files : BootFiles) : bootFiles (bootDirectory files) = some files := by
  obtain ⟨sys_hive, ansi_data, oem_data, apiset_buf⟩ := files
  cases apiset_buf <;> rfl

/-- Guest memory when `main` loads the modules. -/
def bootState : Vm := ⟨store (fun _ => 0) KUSER_PBASE.toNat kuser_data⟩

/-- An empty hive, a short code page and nothing else. -/
def quietFiles : BootFiles := ⟨[], [0x0D, 0x00], [], none⟩

/-- A hive of four bytes and a code page for each of the two uses. -/
def fullFiles : BootFiles := ⟨[0x72, 0x65, 0x67, 0x66], [0x0D, 0x00], List.replicate 0x40 0xFF, none⟩

/-- The four modules load, whatever the other files are. -/
theorem loadModules_bootDirectory (files : BootFiles) : ∃ kloader after,
    (loadModules releaseHost (bootDirectory files)).run bootState = .ok kloader after := by
  have hsame : loadModules releaseHost (bootDirectory files) = loadModules releaseHost (bootDirectory quietFiles) := rfl
  obtain ⟨kloader, after, hload, _⟩ := Stateful.of_returns
    (show Stateful.returns (loadModules releaseHost (bootDirectory quietFiles)) bootState (fun _ => true) = true by
      decide +kernel)
  exact ⟨kloader, after, hsame ▸ hload⟩

theorem moduleNames_bootDirectory (files : BootFiles) :
    moduleNames releaseHost (bootDirectory files) = ["ntoskrnl.exe", "hal.dll", "kd.dll", "kdcom.dll"] := by
  have hlisting : moduleNames releaseHost (bootDirectory files) = moduleNames releaseHost (fourFiles 0 0) := rfl
  rw [hlisting]
  decide +kernel

end vwfl.main
