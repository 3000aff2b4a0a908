import Vwfl.Loaderblock.Records
import Vwfl.Rust.Str
import Vwfl.Vm.Memory

open Rust LittleEndian
open vwfl.vm

namespace vwfl.loaderblock

def Kpcr.setup (profile : Profile) (vaddr paddr gdt_v idt_v tss_v stack_v : UInt64) : VmM Unit := do
  let CurrentPrcb ← profile.add64 vaddr 0x180
  let kpcr_bytes := KPCR gdt_v tss_v vaddr CurrentPrcb vaddr idt_v 1 1 0x00000024
  let prcb_bytes := KPRCB 0x1F80 stack_v 3600 19041 10 3600000000 0x80050033 0x8102000 0x6f8
  Vm.write_memory profile paddr kpcr_bytes
  let prcb_p ← profile.add64 paddr 0x180
  Vm.write_memory profile prcb_p prcb_bytes
  let group_p ← profile.add64 prcb_p 0xc8
  Stateful.ok (Vm.write_memory profile group_p (ofUInt64 1))
  let apic_p ← profile.add64 prcb_p 0xd4
  Stateful.ok (Vm.write_memory profile apic_p (ofUInt32 0))

def LoaderParameterBlock.setup (profile : Profile) (lpb_v lpb_p prcb_v stack_v : UInt64) (stack_size : UInt32)
    (registry_v : UInt64) (registry_size : UInt32) (nls_v : UInt64) : VmM Unit := do
  let kpcr_v ← profile.sub64 prcb_v 0x180
  let Process ← profile.add64 kpcr_v 0x6000
  let Thread ← profile.add64 kpcr_v 0x5000
  let Extension ← profile.add64 lpb_v 0x8000
  -- The option string is empty, followed by its terminator.
  let options_bytes : List UInt8 := [0]
  let options_p ← profile.add64 lpb_p 0xC000
  Stateful.ok (Vm.write_memory profile options_p options_bytes)
  let LoadOptions ← profile.add64 lpb_v 0xC000
  Vm.write_memory profile lpb_p
    (LOADER_PARAMETER_BLOCK 10 0x160 stack_v prcb_v Process Thread stack_size registry_size registry_v LoadOptions
      nls_v Extension)

def LoaderParameterBlock.add_memory (profile : Profile) (entry_p base_addr size : UInt64) (mem_type : UInt32) :
    VmM Unit :=
  Vm.write_memory profile entry_p (MEMORY_ALLOCATION_DESCRIPTOR mem_type (base_addr >>> 12) (size >>> 12))

namespace LoaderParameterExtension

def OFFSET_IN_LPB : UInt64 := 0x8000

/-- The copy ends eight bytes before the end of the structure. -/
def setup (profile : Profile) (ext_p ext_v : UInt64) : VmM Unit := do
  let list_head_v ← profile.add64 ext_v 0xA18
  Vm.write_memory profile ext_p
    ((LOADER_PARAMETER_EXTENSION 0xE38 0x4000 list_head_v list_head_v 10 0).take 0xE38)

def set_acpi (profile : Profile) (ext_p rsdp_v : UInt64) : VmM Unit := do
  let table_p ← profile.add64 ext_p 0x78
  Vm.write_memory profile table_p (ofUInt64 rsdp_v)
  let size_p ← profile.add64 ext_p 0x80
  Vm.write_memory profile size_p (ofUInt32 36)

def set_apiset (profile : Profile) (ext_p apiset_v : UInt64) (size : UInt32) : VmM Unit := do
  let schema_p ← profile.add64 ext_p 0xA80
  Vm.write_memory profile schema_p (ofUInt64 apiset_v)
  let size_p ← profile.add64 ext_p 0xA88
  Vm.write_memory profile size_p (ofUInt32 size)

end LoaderParameterExtension

/-- The UTF-16 bytes of a module name. -/
def nameBytes (name : String) : List UInt8 := (encode_utf16 name).flatMap ofUInt16

def LdrDataTableEntry.add_module (profile : Profile) (entry_v entry_p img_base entry_point : UInt64) (size : UInt32)
    (name : String) : VmM Unit := do
  let name_v ← profile.add64 entry_v 0x150
  let name_u16 := nameBytes name
  let len := UInt16.ofNat name_u16.length
  let maximum ← profile.add16 len 2
  Vm.write_memory profile entry_p (LDR_DATA_TABLE_ENTRY img_base entry_point size len maximum name_v 0x40004 1)
  let name_p ← profile.add64 entry_p 0x150
  Vm.write_memory profile name_p name_u16

end vwfl.loaderblock
