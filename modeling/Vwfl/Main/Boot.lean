import Vwfl.Acpi.Setup
import Vwfl.Debug.Idt
import Vwfl.Loader.Bind
import Vwfl.Loaderblock.Setup
import Vwfl.Main.Paging.Setup

open Rust LittleEndian
open vwfl.vm vwfl.pe vwfl.loader vwfl.loaderblock

namespace vwfl.main

def krnl_vbase : UInt64 := 0xFFFFF80000200000

def hive_p : UInt64 := 0x4200000

def hive_v : UInt64 := 0xFFFFF80045000000

def stack_v : UInt64 := STACK_VBASE + 0x10000

def gdt_v : UInt64 := K_VIRT_ANY + SYSTEM_BASE

def idt_v : UInt64 := gdt_v + 0x20000

def tss_v : UInt64 := gdt_v + 0x1000

def nls_p_base : UInt64 := LPB_PBASE + 0x30000

def nls_v_base : UInt64 := LPB_VBASE + 0x30000

def ansi_v : UInt64 := nls_v_base + 0x1000 + 0x20

def oem_v : UInt64 := nls_v_base + 0x11000 + 0x20

def case_v : UInt64 := nls_v_base + 0x21000

def ext_p : UInt64 := LPB_PBASE + LoaderParameterExtension.OFFSET_IN_LPB

def ext_v : UInt64 := LPB_VBASE + LoaderParameterExtension.OFFSET_IN_LPB

def apiset_p : UInt64 := LPB_PBASE + 0x60000

def apiset_v : UInt64 := LPB_VBASE + 0x60000

/-- `fs::read(path).expect(message)`. -/
def readExpected (dir : Directory) (name message : String) : Result (List UInt8) :=
  match dir.read name with
  | .ok data => .ok data
  | .error _ => .error (.panic message)

def kuser_data : List UInt8 :=
  splice (splice (List.replicate 4096 0) 0x26c (ofUInt32 19041)) 0x270 (ofUInt32 10)

def initKuser (profile : Profile) : VmM Unit := Stateful.ok (Vm.write_memory profile KUSER_PBASE kuser_data)

/-- The call of `load_directory` in `main`. -/
def loadModules (host : Host) (dir : Directory) : VmM KernelLoader :=
  KernelLoader.load_directory host .new dir KRNL_PBASE krnl_vbase

/-- The indexing `modules[i]`. -/
def moduleAt (modules : List LoadedModule) (i : Nat) : Result LoadedModule :=
  match modules[i]? with
  | some loaded => .ok loaded
  | none => .error (.panic "index out of bounds")

def mm_pte_base_paddr : UInt64 := KRNL_PBASE + 0xCFB358

def pte_base_vaddr : UInt64 := (0xFFFF000000000000 : UInt64) ||| ((493 : UInt64) <<< 39)

/-- Sections 1 and 2 of `main`: the modules, the patch of MmPteBase and the page
    tables. -/
def mapModules (host : Host) (dir : Directory) : VmM KernelLoader := do
  let kloader ← Stateful.expect (loadModules host dir) "Failed to load modules"
  let krnl_mod ← moduleAt kloader.modules 0
  let hal_mod ← moduleAt kloader.modules 1
  Stateful.expect (Vm.write_memory host.profile mm_pte_base_paddr (ofUInt64 pte_base_vaddr))
    "Failed to patch MmPteBase"
  Stateful.expect (setup_kernel_paging host.profile krnl_mod.v_base hal_mod.v_base) "Paging failed"
  return kloader

/-- Section 3: the hive. The check of its signature only prints. -/
def loadHive (profile : Profile) (sys_hive : List UInt8) : VmM Unit :=
  Stateful.expect (Vm.write_memory profile hive_p sys_hive) "Write Hive"

/-- One code unit of the upper-case table. -/
def upcase (i : Nat) : Nat :=
  if 0x0061 ≤ i ∧ i ≤ 0x007A then i - 0x20
  else if 0x00E0 ≤ i ∧ i ≤ 0x00FE ∧ i ≠ 0x00F7 then i - 0x20
  else if 0x0100 ≤ i ∧ i ≤ 0x012E ∧ i % 2 ≠ 0 then i - 1
  else if 0x0132 ≤ i ∧ i ≤ 0x0148 ∧ i % 2 ≠ 0 then i - 1
  else i

def generate_windows_upcase_table : List UInt8 :=
  (List.range 65536).flatMap fun i => ofUInt16 (UInt16.ofNat (upcase i))

/-- Section 4, first half: the code page tables and the block that points to
    them. -/
def loadNls (profile : Profile) (ansi_data oem_data : List UInt8) : VmM Unit := do
  Stateful.ok (Vm.write_memory profile (nls_p_base + 0x1000) ansi_data)
  Stateful.ok (Vm.write_memory profile (nls_p_base + 0x11000) oem_data)
  Stateful.ok (Vm.write_memory profile (nls_p_base + 0x21000) generate_windows_upcase_table)
  Stateful.ok (Vm.write_memory profile nls_p_base (NLS_DATA_BLOCK ansi_v oem_v case_v 0 0))

/-- Section 4, second half, and section 5: the processor region, the loader
    block, the ACPI tables and the extension. -/
def initBlocks (profile : Profile) (hive_size : UInt32) : VmM Unit := do
  Stateful.expect (Kpcr.setup profile KPCR_VBASE KPCR_PBASE gdt_v idt_v tss_v stack_v) "KPCR Init"
  Stateful.expect
    (LoaderParameterBlock.setup profile LPB_VBASE LPB_PBASE (KPCR_VBASE + 0x180) stack_v 0x10000 hive_v hive_size
      nls_v_base) "LPB Init"
  let rsdp_v ← Stateful.expect (acpi.setup profile ACPI_PBASE ACPI_VBASE) "ACPI failed"
  Stateful.expect (LoaderParameterExtension.setup profile ext_p ext_v) "Extension Init"
  Stateful.ok (LoaderParameterExtension.set_acpi profile ext_p rsdp_v)

/-- The API set schema, when the file can be read. -/
def loadApiSet (profile : Profile) (dir : Directory) : VmM Unit :=
  match dir.read "apisetschema.dll" with
  | .ok apiset_buf => do
    Stateful.ok (Vm.write_memory profile apiset_p apiset_buf)
    let actual_schema_v := apiset_v + 0x2000
    let actual_schema_size ← profile.sub32 (UInt32.ofNat apiset_buf.length) 0x2000
    Stateful.ok (LoaderParameterExtension.set_apiset profile ext_p actual_schema_v actual_schema_size)
  | .error _ => return ()

/-- Virtual and physical address of the node of a module. -/
def nodeAt (i : Nat) : UInt64 × UInt64 :=
  let offset := 0x40000 + UInt64.ofNat i * 0x1000
  (LPB_VBASE + offset, LPB_PBASE + offset)

/-- One round of the loop that writes the module nodes. The printed end of the
    module is computed as well. -/
def addNode (profile : Profile) (entry : LoadedModule × Nat) : VmM Unit := do
  let (m, i) := entry
  let (node_v, node_p) := nodeAt i
  let _v_end ← profile.add64 m.v_base m.size.toUInt64
  Stateful.ok (LdrDataTableEntry.add_module profile node_v node_p m.v_base m.entry m.size m.name)

/-- Write the forward and the backward link of a list entry. -/
def writeLinks (profile : Profile) (entry_p next_v prev_v : UInt64) : VmM Unit := do
  Stateful.ok (Vm.write_memory profile entry_p (ofUInt64 next_v))
  Stateful.ok (Vm.write_memory profile (entry_p + 8) (ofUInt64 prev_v))

def hal_ext_head_v : UInt64 := ext_v + 0xA18

def hal_ext_head_p : UInt64 := ext_p + 0xA18

def halExtNodes (cases : CaseMap) (modules : List LoadedModule) : List (UInt64 × UInt64) :=
  modules.zipIdx.filterMap fun (m, i) =>
    if contains (cases.to_lowercase m.name) "halext" then some (nodeAt i) else none

/-- The virtual address of a node of a list. -/
def nodeV (nodes : List (UInt64 × UInt64)) (i : Nat) : UInt64 := (nodes.getD i (0, 0)).1

def linkHalExtensions (profile : Profile) (nodes : List (UInt64 × UInt64)) : VmM Unit :=
  if nodes.isEmpty then return ()
  else do
    writeLinks profile hal_ext_head_p (nodeV nodes 0 + 0x20) (nodeV nodes (nodes.length - 1) + 0x20)
    forM nodes.zipIdx fun (node, i) => do
      let next_v := if i = nodes.length - 1 then hal_ext_head_v else nodeV nodes (i + 1) + 0x20
      let prev_v := if i = 0 then hal_ext_head_v else nodeV nodes (i - 1) + 0x20
      writeLinks profile (node.2 + 0x20) next_v prev_v

/-- The load-order list from the loader block, the empty boot driver list, and
    the memory-order list among the nodes. -/
def linkLoadOrder (profile : Profile) (nodes : List (UInt64 × UInt64)) : VmM Unit := do
  let head_v1 := LPB_VBASE + 0x10
  writeLinks profile (LPB_PBASE + 0x10) (nodeV nodes 0) (nodeV nodes (nodes.length - 1))
  let boot_ldr_head_v := LPB_VBASE + 0x30
  writeLinks profile (LPB_PBASE + 0x30) boot_ldr_head_v boot_ldr_head_v
  forM nodes.zipIdx fun (node, i) => do
    let next_v1 := if i = nodes.length - 1 then head_v1 else nodeV nodes (i + 1)
    let prev_v1 := if i = 0 then head_v1 else nodeV nodes (i - 1)
    writeLinks profile node.2 next_v1 prev_v1
    let next_v2 := if i = nodes.length - 1 then nodeV nodes 0 + 0x10 else nodeV nodes (i + 1) + 0x10
    let prev_v2 := if i = 0 then nodeV nodes (nodes.length - 1) + 0x10 else nodeV nodes (i - 1) + 0x10
    writeLinks profile (node.2 + 0x10) next_v2 prev_v2

/-- Section 6: the module nodes and the lists through them. -/
def registerModules (host : Host) (modules : List LoadedModule) : VmM Unit := do
  forM modules.zipIdx (addNode host.profile)
  linkHalExtensions host.profile (halExtNodes host.cases modules)
  linkLoadOrder host.profile ((List.range modules.length).map nodeAt)

def gdt_entries : List UInt64 :=
  let tss_low := ((0x89 : UInt64) <<< 40) ||| ((tss_v &&& 0xFFFFFF) <<< 16) ||| 0x67
  let tss_high := tss_v >>> 32
  [0, 0, 0x00AF9A000000FFFF, 0x00CF92000000FFFF, 0x00AFFA000000FFFF, 0x00CFF2000000FFFF, 0x00AFFA000000FFFF, 0,
    tss_low, tss_high, 0x00CFF3000000FFFF] ++ List.replicate 21 0

/-- Section 8: the task state segment and the descriptor table. -/
def initGdt (profile : Profile) : VmM Unit := do
  Stateful.expect (Vm.write_memory profile (SYSTEM_BASE + 0x1000) (List.replicate 104 0)) "Write TSS"
  forM gdt_entries.zipIdx fun (entry, i) =>
    Stateful.ok (Vm.write_memory profile (SYSTEM_BASE + UInt64.ofNat i * 8) (ofUInt64 entry))

def md_v (i : Nat) : UInt64 := LPB_VBASE + 0x20000 + UInt64.ofNat i * 0x1000

def md_p (i : Nat) : UInt64 := LPB_PBASE + 0x20000 + UInt64.ofNat i * 0x1000

/-- Base, size and type of the memory descriptors. Two more rows of the source
    are never linked. -/
def memory_map (hive_size : UInt32) : List (UInt64 × UInt64 × UInt32) :=
  let hive_end := 0x4200000 + ((hive_size.toUInt64 + 0xFFF) &&& ~~~0xFFF)
  [(0x0, 0x1000, 1), (0x1000, 0x1FF000, 0), (0x200000, 0x1E00000, 7), (0x2000000, 0x2000000, 8),
    (0x4000000, 0x200000, 15), (0x4200000, hive_size.toUInt64, 15), (hive_end, MEM_SIZE - hive_end, 0)]

/-- Section 9: the list of memory descriptors. -/
def linkMemory (profile : Profile) (hive_size : UInt32) : VmM Unit := do
  let mem_head_v := LPB_VBASE + 0x20
  forM (memory_map hive_size).zipIdx fun ((base, size, mem_type), i) => do
    Stateful.ok (LoaderParameterBlock.add_memory profile (md_p i) base size mem_type)
    let n_v := if i = 6 then mem_head_v else md_v (i + 1)
    let p_v := if i = 0 then mem_head_v else md_v (i - 1)
    writeLinks profile (md_p i) n_v p_v
  writeLinks profile (LPB_PBASE + 0x20) (md_v 0) (md_v 6)

set_option linter.dupNamespace false in
/-- `main` up to the call of `cpu::run`, with the loaded modules as its result.
    Sums of layout constants and of offsets bounded by a vector length do not
    overflow and are written without a check. -/
def main (host : Host) (dir : Directory) : VmM KernelLoader := do
  initKuser host.profile
  let kloader ← mapModules host dir
  let sys_hive ← readExpected dir "config/SYSTEM" "Read SYSTEM Hive"
  let hive_size := UInt32.ofNat sys_hive.length
  loadHive host.profile sys_hive
  let ansi_data ← readExpected dir "C_1252.NLS" "Read ANSI NLS"
  let oem_data ← readExpected dir "C_437.NLS" "Read OEM NLS"
  loadNls host.profile ansi_data oem_data
  initBlocks host.profile hive_size
  loadApiSet host.profile dir
  registerModules host kloader.modules
  Stateful.expect (kloader.bind_all host.profile host.cases) "Binding failed"
  initGdt host.profile
  linkMemory host.profile hive_size
  Stateful.expect (debug.setup_diagnostic_idt host.profile) "IDT failed"
  return kloader

end vwfl.main
