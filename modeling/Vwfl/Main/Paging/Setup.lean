import Vwfl.Main.Layout
import Vwfl.Vm.Effects

open Rust ByteStore LittleEndian
open vwfl.vm

namespace vwfl.main

def setup_kernel_paging (profile : Profile) (_krnl_base hal_base : UInt64) : VmM Unit := do
  let paging_pbase := SYSTEM_BASE + 0x100000
  let pml4_p := paging_pbase + 0x2000
  let pdpt_high_p := paging_pbase + 0x3000
  let pdpt_low_p := paging_pbase + 0x6000
  let pd_kernel_p := paging_pbase + 0xD000
  let pd_hal_p := paging_pbase + 0x14000
  let pdpt_stack_p := paging_pbase + 0x4000
  let pd_stack_p := paging_pbase + 0xB000
  let pdpt_user_p := paging_pbase + 0x5000
  let pd_user_p := paging_pbase + 0xC000
  let pt_user_p := paging_pbase + 0x15000
  let bridge_p := paging_pbase + 0x50000
  let krnl_pml4_idx : UInt64 := 496
  let nx := (1 : UInt64) <<< 63
  Vm.write_memory profile paging_pbase (List.replicate 524288 0)
  Stateful.ok (Vm.write_memory profile bridge_p [0x0F, 0x01, 0xC1])
  -- PML4 table
  Vm.write_memory profile (pml4_p + krnl_pml4_idx * 8) (ofUInt64 (pdpt_high_p ||| 0x3))
  Vm.write_memory profile (pml4_p + 511 * 8) (ofUInt64 (pdpt_high_p ||| 0x3))
  Vm.write_memory profile pml4_p (ofUInt64 (pdpt_low_p ||| 0x3))
  Vm.write_memory profile (pml4_p + 509 * 8) (ofUInt64 (pdpt_stack_p ||| 0x3 ||| nx))
  Vm.write_memory profile (pml4_p + 495 * 8) (ofUInt64 (pdpt_user_p ||| 0x7))
  Vm.write_memory profile (pml4_p + 493 * 8) (ofUInt64 (pml4_p ||| 0x3 ||| nx))
  -- High half: kernel and HAL
  Vm.write_memory profile pdpt_high_p (ofUInt64 (pd_kernel_p ||| 0x3))
  Vm.write_memory profile (pdpt_high_p + 8) (ofUInt64 (pd_hal_p ||| 0x3))
  forM (List.range 512) fun j => do
    let phys := UInt64.ofNat j * 0x200000
    Vm.write_memory profile (pd_kernel_p + UInt64.ofNat j * 8) (ofUInt64 (phys ||| 0x83))
  let hal_pd_idx := (hal_base >>> 21) &&& 0x1FF
  forM (List.range 32) fun j => do
    let phys := HAL_PBASE + UInt64.ofNat j * 0x200000
    let entry_addr := pd_hal_p + (hal_pd_idx + UInt64.ofNat j) * 8
    Vm.write_memory profile entry_addr (ofUInt64 (phys ||| 0x83))
  -- MMIO: I/O APIC, HPET and local APIC
  let pd_mmio_p := paging_pbase + 0x60000
  let pt_ioapic_p := paging_pbase + 0x61000
  let pt_hpet_p := paging_pbase + 0x61800
  let pt_apic_p := paging_pbase + 0x62000
  Stateful.ok (Vm.write_memory profile (pdpt_high_p + 3 * 8) (ofUInt64 (pd_mmio_p ||| 0x3)))
  Stateful.ok (Vm.write_memory profile (pd_mmio_p + 502 * 8) (ofUInt64 (pt_ioapic_p ||| 0x3)))
  Stateful.ok (Vm.write_memory profile (pd_mmio_p + 503 * 8) (ofUInt64 (pt_hpet_p ||| 0x3)))
  Stateful.ok (Vm.write_memory profile (pd_mmio_p + 504 * 8) (ofUInt64 (pt_apic_p ||| 0x3)))
  Stateful.ok (Vm.write_memory profile pt_ioapic_p (ofUInt64 (0xFEC00000 ||| 0x1B ||| nx)))
  Stateful.ok (Vm.write_memory profile pt_hpet_p (ofUInt64 (0xFED00000 ||| 0x1B ||| nx)))
  Stateful.ok (Vm.write_memory profile pt_apic_p (ofUInt64 (0xFEE00000 ||| 0x1B ||| nx)))
  -- Stack
  Vm.write_memory profile pdpt_stack_p (ofUInt64 (pd_stack_p ||| 0x3 ||| nx))
  forM (List.range 512) fun j => do
    let phys := STACK_PBASE + UInt64.ofNat j * 0x200000
    Vm.write_memory profile (pd_stack_p + UInt64.ofNat j * 8) (ofUInt64 (phys ||| 0x83 ||| nx))
  -- KUSER_SHARED_DATA, four levels
  Vm.write_memory profile pdpt_user_p (ofUInt64 (pd_user_p ||| 0x7))
  Vm.write_memory profile pd_user_p (ofUInt64 (pt_user_p ||| 0x7))
  Vm.write_memory profile pt_user_p (ofUInt64 (KUSER_PBASE ||| 0x7))

end vwfl.main
