import Vwfl.Main.Extensions
import Vwfl.Main.Handoff
import Vwfl.Main.MemoryMap

open Rust ByteStore LittleEndian
open vwfl.vm vwfl.gdb vwfl.pe vwfl.loader vwfl.loaderblock

namespace vwfl.main

/-- An object of the boot environment: where the guest finds its start, where
    its start lies in guest memory, and the stores of `main` that make it up. -/
structure GuestObject where
  vaddr : UInt64
  paddr : Nat
  writes : List (Nat × List UInt8)

/-- The guest reaches every byte of the object where it was stored. -/
def GuestObject.Reached (self : GuestObject) (mem : Nat → UInt8) : Prop :=
  ∀ write ∈ self.writes, RangeMapped mem (self.vaddr + UInt64.ofNat (write.1 - self.paddr)) write.1 write.2.length

/-- A pointer that is stored at a physical address: it leads to an object, some
    bytes behind its start. -/
structure Pointer where
  field : Nat
  object : GuestObject
  offset : UInt64

def Pointer.value (self : Pointer) : UInt64 := self.object.vaddr + self.offset

/-- The guest finds the pointer in its field, and what it leads to is made of
    the given stores and reached. -/
structure Pointer.Reaches (pointer : Pointer) (writes : List (Nat × List UInt8)) (mem : Nat → UInt8) : Prop where
  held : word mem pointer.field = pointer.value
  stored : pointer.object.writes ⊆ writes
  reached : pointer.object.Reached mem

section Objects

/-- The loader block and its options. -/
def blockObject (hive_size : UInt32) : GuestObject :=
  ⟨LPB_VBASE, 0x4000000, LoaderParameterBlock.writes LPB_VBASE 0x4000000 (KPCR_VBASE + 0x180) stack_v 0x10000 hive_v
    hive_size nls_v_base⟩

/-- The loader extension with its ACPI fields. -/
def extensionObject : GuestObject :=
  ⟨ext_v, 0x4008000, LoaderParameterExtension.writes ext_v 0x4008000 ++
    [(0x4008078, ofUInt64 ACPI_VBASE), (0x4008080, ofUInt32 36)]⟩

/-- The processor region and the control block inside it. -/
def regionObject : GuestObject :=
  ⟨KPCR_VBASE, 0x4010000, Kpcr.writes KPCR_VBASE 0x4010000 gdt_v idt_v tss_v stack_v⟩

def hiveObject (sys_hive : List UInt8) : GuestObject := ⟨hive_v, 0x4200000, [(0x4200000, sys_hive)]⟩

def nlsObject : GuestObject := ⟨nls_v_base, 0x4030000, [(0x4030000, NLS_DATA_BLOCK ansi_v oem_v case_v 0 0)]⟩

def ansiObject (ansi_data : List UInt8) : GuestObject := ⟨nls_v_base + 0x1000, 0x4031000, [(0x4031000, ansi_data)]⟩

def oemObject (oem_data : List UInt8) : GuestObject := ⟨nls_v_base + 0x11000, 0x4041000, [(0x4041000, oem_data)]⟩

def caseObject : GuestObject := ⟨case_v, 0x4051000, [(0x4051000, generate_windows_upcase_table)]⟩

def acpiObject : GuestObject := ⟨ACPI_VBASE, 0x5000000, acpi.tableWrites 0x5000000 ACPI_VBASE⟩

def apisetObject (apiset_buf : List UInt8) : GuestObject := ⟨apiset_v, 0x4060000, [(0x4060000, apiset_buf)]⟩

/-- The descriptor table, with the task state behind it. -/
def gdtObject : GuestObject := ⟨gdt_v, 0x8000000, gdtWrites⟩

/-- The handlers and the gates lie behind the descriptor table. -/
def idtObject : GuestObject := ⟨gdt_v, 0x8000000, debug.idtWrites⟩

/-- The node of a module and its name. -/
def nodeObject (entry : LoadedModule × Nat) : GuestObject :=
  ⟨(nodeAt entry.2).1, 0x4040000 + 0x1000 * entry.2, nodeWrites entry⟩

/-- A memory descriptor. -/
def rowObject (entry : (UInt64 × UInt64 × UInt32) × Nat) : GuestObject :=
  ⟨md_v entry.2, 0x4020000 + entry.2 * 0x1000, rowWrites entry⟩

end Objects

/-- Forward and backward links of a circular list. Each entry is an object and
    the offset of its links. -/
def ringPointers (links : List (GuestObject × UInt64)) : List Pointer :=
  (links.zip (links.rotate 1)).flatMap fun (entry, next) =>
    [⟨entry.1.paddr + entry.2.toNat, next.1, next.2⟩, ⟨next.1.paddr + next.2.toNat + 8, entry.1, entry.2⟩]

/-- Fields of the loader block, apart from its lists and the stack. -/
def blockPointers (files : BootFiles) : List Pointer := [
  ⟨0x4000088, regionObject, 0x180⟩, -- Prcb
  ⟨0x40000A8, hiveObject files.sys_hive, 0⟩, -- RegistryBase
  ⟨0x40000D8, blockObject (UInt32.ofNat files.sys_hive.length), 0xC000⟩, -- LoadOptions
  ⟨0x40000E0, nlsObject, 0⟩, -- NlsData
  ⟨0x40000F0, extensionObject, 0⟩] -- Extension

/-- Fields of the processor region. -/
def regionPointers : List Pointer := [
  ⟨0x4010000, gdtObject, 0⟩, -- GdtBase
  ⟨0x4010008, gdtObject, 0x1000⟩, -- TssBase
  ⟨0x4010018, regionObject, 0⟩, -- SelfPcr
  ⟨0x4010020, regionObject, 0x180⟩, -- CurrentPrcb
  ⟨0x4010030, regionObject, 0⟩, -- Used_Self
  ⟨0x4010038, idtObject, 0x20000⟩] -- IdtBase

/-- The code pages are published behind their headers. -/
def nlsPointers (files : BootFiles) : List Pointer := [
  ⟨0x4030000, ansiObject files.ansi_data, 0x20⟩, -- AnsiCodePageData
  ⟨0x4030008, oemObject files.oem_data, 0x20⟩, -- OemCodePageData
  ⟨0x4030010, caseObject, 0⟩] -- UnicodeCaseTableData

/-- Fields of the loader extension. The last link of the structure itself leads
    to the list head in front of it. -/
def extensionPointers : List Pointer := [
  ⟨0x4008078, acpiObject, 0⟩, -- AcpiTable
  ⟨0x4008A28, extensionObject, 0xA18⟩] -- HalExtensionModuleList

/-- The schema is published from its section on. -/
def schemaPointers (files : BootFiles) : List Pointer :=
  files.apiset_buf.toList.map fun apiset_buf => ⟨0x4008A80, apisetObject apiset_buf, 0x2000⟩

/-- The chain of ACPI tables. -/
def acpiPointers : List Pointer := [
  ⟨0x5000018, acpiObject, 0x100⟩, -- the RSDP names the XSDT
  ⟨0x5000124, acpiObject, 0x300⟩, -- the XSDT names the FADT,
  ⟨0x500012C, acpiObject, 0x200⟩, -- the MADT
  ⟨0x5000134, acpiObject, 0x450⟩, -- and the HPET
  ⟨0x500038C, acpiObject, 0x500⟩] -- the FADT names the DSDT

/-- FullDllName and BaseDllName of each node. -/
def namePointers (modules : List LoadedModule) : List Pointer :=
  modules.zipIdx.flatMap fun entry =>
    [⟨0x4040050 + 0x1000 * entry.2, nodeObject entry, 0x150⟩, ⟨0x4040060 + 0x1000 * entry.2, nodeObject entry, 0x150⟩]

/-- The list head for the HAL extensions and their nodes. -/
def halExtRing (cases : CaseMap) (modules : List LoadedModule) : List (GuestObject × UInt64) :=
  (extensionObject, 0xA18) ::
    (modules.zipIdx.filter fun entry => isHalExt cases entry.1.name).map fun entry => (nodeObject entry, 0x20)

/-- The list through the nodes of the HAL extensions, when there is one. -/
def halExtPointers (cases : CaseMap) (modules : List LoadedModule) : List Pointer :=
  if (halExtIndices cases modules).isEmpty then [] else ringPointers (halExtRing cases modules)

/-- The load-order list, the memory-order list among the nodes, the empty list of
    boot drivers and the list of memory descriptors. -/
def listPointers (hive_size : UInt32) (modules : List LoadedModule) : List Pointer :=
  ringPointers ((blockObject hive_size, 0x10) :: modules.zipIdx.map fun entry => (nodeObject entry, 0)) ++
    (ringPointers (modules.zipIdx.map fun entry => (nodeObject entry, 0x10)) ++
      (ringPointers [(blockObject hive_size, 0x30)] ++
        ringPointers ((blockObject hive_size, 0x20) ::
          (memory_map hive_size).zipIdx.map fun entry => (rowObject entry, 0))))

/-- The pointers that `main` stores for the guest. -/
def pointers (cases : CaseMap) (files : BootFiles) (modules : List LoadedModule) : List Pointer :=
  blockPointers files ++ (regionPointers ++ (nlsPointers files ++ (extensionPointers ++ (schemaPointers files ++
    (acpiPointers ++ (namePointers modules ++ (halExtPointers cases modules ++
      listPointers (UInt32.ofNat files.sys_hive.length) modules)))))))

/-- What the pointers lead to is made of stores of `main`, and the guest reaches
    it where it was stored, and the boot stack too. -/
structure ObjectsReached (host : Host) (files : BootFiles) (modules : List LoadedModule) (mem : Nat → UInt8) :
    Prop where
  stored : ∀ pointer ∈ pointers host.cases files modules, pointer.object.writes ⊆ bootWrites host files modules
  reached : ∀ pointer ∈ pointers host.cases files modules, pointer.object.Reached mem
  stack : RangeMapped mem (stack_v - 0x10000) STACK_PBASE.toNat 0x10000

/-- Every pointer that `main` stores reaches what `main` stored behind it, and
    the stack pointers reach the boot stack below them. -/
structure PointersReach (host : Host) (files : BootFiles) (modules : List LoadedModule) (mem : Nat → UInt8) :
    Prop where
  pointers : ∀ pointer ∈ pointers host.cases files modules, pointer.Reaches (bootWrites host files modules) mem
  KernelStack : word mem 0x4000080 = stack_v
  RspBase : word mem 0x40101A8 = stack_v
  stack : RangeMapped mem (stack_v - 0x10000) STACK_PBASE.toNat 0x10000

/-- Every object but the hive ends in the first gibibyte. -/
structure InFirstGib (files : BootFiles) (modules : List LoadedModule) : Prop where
  ansi : 0x4031000 + files.ansi_data.length ≤ 2 ^ 30
  oem : 0x4041000 + files.oem_data.length ≤ 2 ^ 30
  apiset : ∀ apiset_buf ∈ files.apiset_buf, 0x4060000 + apiset_buf.length ≤ 2 ^ 30
  nodes : ∀ entry ∈ modules.zipIdx, 0x4040150 + 0x1000 * entry.2 + (nameBytes entry.1.name).length ≤ 2 ^ 30

/-- No resolved slot lies over one of the pointers. -/
def SlotsSpare (host : Host) (modules : List LoadedModule) (pointers : List Pointer) : Prop :=
  ∀ pointer ∈ pointers, ∀ slot ∈ resolvedSlots ⟨host.profile, host.cases, modules⟩, Disjoint pointer.field 8 slot 8

/-- Nothing is stored over the page tables or over a pointer: no file ends behind
    the start of the tables, the schema and the nodes end in front of the ACPI
    tables, and no resolved slot lies over a pointer. -/
structure PointersApart (host : Host) (files : BootFiles) (modules : List LoadedModule) : Prop
    extends HandoffApart host files modules where
  schema : ∀ apiset_buf ∈ files.apiset_buf, 0x4060000 + apiset_buf.length ≤ 0x5000000
  ends : ∀ entry ∈ modules.zipIdx, 0x4040150 + 0x1000 * entry.2 + (nameBytes entry.1.name).length ≤ 0x5000000
  fields : SlotsSpare host modules (pointers host.cases files modules)

section Lemmas

variable {files : BootFiles} {modules : List LoadedModule} {pointer : Pointer} {links : List (GuestObject × UInt64)}

/-- A pointer of a circular list is a link of one entry and leads to another. -/
theorem mem_ringPointers (hpointer : pointer ∈ ringPointers links) :
    (∃ link ∈ links, pointer.object = link.1) ∧
      ∃ link ∈ links, pointer.field = link.1.paddr + link.2.toNat ∨
        pointer.field = link.1.paddr + link.2.toNat + 8 := by
  obtain ⟨⟨entry, next⟩, hpair, hpointer⟩ := List.mem_flatMap.mp hpointer
  obtain ⟨hentry, hnext⟩ := List.of_mem_zip hpair
  have hnext := List.mem_rotate.mp hnext
  simp only [List.mem_cons, List.not_mem_nil, or_false] at hpointer
  rcases hpointer with rfl | rfl
  · exact ⟨⟨next, hnext, rfl⟩, entry, hentry, .inl rfl⟩
  · exact ⟨⟨entry, hentry, rfl⟩, next, hnext, .inr rfl⟩

theorem registryBase_mem (cases : CaseMap) :
    ⟨0x40000A8, hiveObject files.sys_hive, 0⟩ ∈ pointers cases files modules := by
  simp [pointers, blockPointers]

end Lemmas

end vwfl.main
