import Vwfl.Rust.Slice
import Vwfl.Vm.Memory

open Rust LittleEndian
open vwfl.vm

namespace vwfl.acpi

/-- The wrapping sum of the bytes of a table. -/
def byteSum (data : List UInt8) : UInt8 := data.foldl (· + ·) 0

def write_header (data sig : List UInt8) (len : UInt32) (rev : UInt8) : List UInt8 :=
  let data := splice data 0 sig
  let data := splice data 4 (ofUInt32 len)
  let data := splice data 8 [rev]
  let data := splice data 10 [0x49, 0x4E, 0x54, 0x45, 0x4C, 0x20] -- "INTEL "
  splice data 16 [0x44, 0x45, 0x4C, 0x4C, 0x20, 0x20, 0x20, 0x20] -- "DELL    "

def update_checksum (data : List UInt8) : List UInt8 :=
  let data := splice data 9 [0]
  splice data 9 [0 - byteSum data]

def dsdt : List UInt8 :=
  update_checksum (write_header (List.replicate 36 0) [0x44, 0x53, 0x44, 0x54] 36 1)

def madt : List UInt8 :=
  let madt := write_header (List.replicate 44 0) [0x41, 0x50, 0x49, 0x43] 80 2
  let madt := splice madt 36 (ofUInt32 0xFEE00000)
  let madt := splice madt 40 (ofUInt32 1)
  let lapic_entry : List UInt8 := [0, 8, 0, 0, 1, 0, 0, 0]
  let ioapic_entry : List UInt8 := [1, 12, 1, 0, 0, 0, 0, 0, 0x00, 0x00, 0xC0, 0xFE]
  let iso_entry : List UInt8 := [2, 10, 0, 0, 2, 0, 0, 0, 0x05, 0x00]
  let nmi_entry : List UInt8 := [4, 6, 0xFF, 0x05, 0x00, 1]
  update_checksum (madt ++ lapic_entry ++ ioapic_entry ++ iso_entry ++ nmi_entry)

def fadt (dsdt_v : UInt64) : List UInt8 :=
  let fadt := write_header (List.replicate 276 0) [0x46, 0x41, 0x43, 0x50] 276 3
  let fadt := splice fadt 40 (ofUInt32 dsdt_v.toUInt32)
  let fadt := splice fadt 45 [1]
  let fadt := splice fadt 76 (ofUInt32 0x408)
  let fadt := splice fadt 91 [4]
  let fadt := splice fadt 109 (ofUInt16 3)
  let fadt := splice fadt 112 (ofUInt32 0x00000100)
  let fadt := splice fadt 140 (ofUInt64 dsdt_v)
  let fadt := splice fadt 208 [1, 32, 0, 3]
  let fadt := splice fadt 212 (ofUInt64 0x408)
  update_checksum fadt

def hpet : List UInt8 :=
  let hpet := write_header (List.replicate 56 0) [0x48, 0x50, 0x45, 0x54] 56 1
  let hpet := splice hpet 36 (ofUInt32 0x8086a201)
  let hpet := splice hpet 40 [0, 64, 0, 0]
  let hpet := splice hpet 44 (ofUInt64 0x00000000FED00000)
  let hpet := splice hpet 52 [0]
  let hpet := splice hpet 53 (ofUInt16 0x0080)
  update_checksum hpet

def xsdt (fadt_v madt_v hpet_v : UInt64) : List UInt8 :=
  let xsdt := write_header (List.replicate (36 + 24) 0) [0x58, 0x53, 0x44, 0x54] (36 + 24) 1
  let xsdt := splice xsdt 36 (ofUInt64 fadt_v)
  let xsdt := splice xsdt 44 (ofUInt64 madt_v)
  let xsdt := splice xsdt 52 (ofUInt64 hpet_v)
  update_checksum xsdt

def rsdp (xsdt_v : UInt64) : List UInt8 :=
  let rsdp := splice (List.replicate 36 0) 0 [0x52, 0x53, 0x44, 0x20, 0x50, 0x54, 0x52, 0x20] -- "RSD PTR "
  let rsdp := splice rsdp 10 [0x56, 0x57, 0x46, 0x4C, 0x20, 0x20] -- "VWFL  "
  let rsdp := splice rsdp 15 [2]
  let rsdp := splice rsdp 20 (ofUInt32 36)
  let rsdp := splice rsdp 24 (ofUInt64 xsdt_v)
  let rsdp := splice rsdp 8 [0 - byteSum (rsdp.take 20)]
  splice rsdp 32 [0 - byteSum rsdp]

/-- The six tables, written from the last to the first in the chain of
    pointers. -/
def writeTables (profile : Profile) (base_paddr base_vaddr : UInt64) : VmM Unit := do
  let xsdt_p ← profile.add64 base_paddr 0x100
  let madt_p ← profile.add64 base_paddr 0x200
  let fadt_p ← profile.add64 base_paddr 0x300
  let hpet_p ← profile.add64 base_paddr 0x450
  let dsdt_p ← profile.add64 base_paddr 0x500
  let xsdt_v ← profile.add64 base_vaddr 0x100
  let madt_v ← profile.add64 base_vaddr 0x200
  let fadt_v ← profile.add64 base_vaddr 0x300
  let hpet_v ← profile.add64 base_vaddr 0x450
  let dsdt_v ← profile.add64 base_vaddr 0x500
  Vm.write_memory profile dsdt_p dsdt
  Vm.write_memory profile madt_p madt
  Vm.write_memory profile fadt_p (fadt dsdt_v)
  Vm.write_memory profile hpet_p hpet
  Vm.write_memory profile xsdt_p (xsdt fadt_v madt_v hpet_v)
  Vm.write_memory profile base_paddr (rsdp xsdt_v)

def setup (profile : Profile) (base_paddr base_vaddr : UInt64) : VmM UInt64 := do
  writeTables profile base_paddr base_vaddr
  return base_vaddr

end vwfl.acpi
