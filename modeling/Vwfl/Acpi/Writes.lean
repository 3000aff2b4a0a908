import Vwfl.Acpi.Setup
import Vwfl.Vm.Effects

open Rust ByteStore LittleEndian
open vwfl.vm

namespace vwfl.acpi

theorem length_dsdt : dsdt.length = 36 := by
  simp only [dsdt, update_checksum, write_header, length_splice, length_ofUInt32, List.length_cons,
    List.length_nil, List.length_replicate]
  norm_num

theorem length_madt : madt.length = 80 := by
  simp only [madt, update_checksum, write_header, length_splice, length_ofUInt32, List.length_cons,
    List.length_nil, List.length_replicate, List.length_append]
  norm_num

theorem length_fadt (dsdt_v : UInt64) : (fadt dsdt_v).length = 276 := by
  simp only [fadt, update_checksum, write_header, length_splice, length_ofUInt16, length_ofUInt32,
    length_ofUInt64, List.length_cons, List.length_nil, List.length_replicate]
  norm_num

theorem length_hpet : hpet.length = 56 := by
  simp only [hpet, update_checksum, write_header, length_splice, length_ofUInt16, length_ofUInt32,
    length_ofUInt64, List.length_cons, List.length_nil, List.length_replicate]
  norm_num

theorem length_xsdt (fadt_v madt_v hpet_v : UInt64) : (xsdt fadt_v madt_v hpet_v).length = 60 := by
  simp only [xsdt, update_checksum, write_header, length_splice, length_ofUInt32, length_ofUInt64,
    List.length_cons, List.length_nil, List.length_replicate]
  norm_num

theorem length_rsdp (xsdt_v : UInt64) : (rsdp xsdt_v).length = 36 := by
  simp only [rsdp, length_splice, length_ofUInt32, length_ofUInt64, List.length_cons, List.length_nil,
    List.length_replicate]
  norm_num

/-- The tables and where they are stored. -/
def tableWrites (base_paddr : Nat) (base_vaddr : UInt64) : List (Nat × List UInt8) := [
  (base_paddr + 0x500, dsdt), (base_paddr + 0x200, madt), (base_paddr + 0x300, fadt (base_vaddr + 0x500)),
  (base_paddr + 0x450, hpet),
  (base_paddr + 0x100, xsdt (base_vaddr + 0x300) (base_vaddr + 0x200) (base_vaddr + 0x450)),
  (base_paddr, rsdp (base_vaddr + 0x100))]

theorem tableWrites_misses {base_paddr start length : Nat} (base_vaddr : UInt64)
    (h : Disjoint start length base_paddr 0x524) : Misses start length (tableWrites base_paddr base_vaddr) := by
  intro write hwrite
  simp only [tableWrites, List.mem_cons, List.not_mem_nil, or_false] at hwrite
  rcases hwrite with rfl | rfl | rfl | rfl | rfl | rfl
  all_goals
    refine h.inner (by simp only; omega) ?_
    simp only [length_dsdt, length_madt, length_fadt, length_hpet, length_xsdt, length_rsdp]
    omega

theorem writeTables_performs (profile : Profile) {base_paddr base_vaddr : UInt64}
    (hpaddr : base_paddr.toNat + 0x524 ≤ MEM_SIZE.toNat) (hvaddr : base_vaddr.toNat + 0x500 < 2 ^ 64) :
    Performs (writeTables profile base_paddr base_vaddr) (tableWrites base_paddr.toNat base_vaddr) := by
  have hbound := hpaddr
  rw [MEM_SIZE_toNat] at hbound
  refine Performs.add_then profile 0x100 rfl (by omega) fun hxsdt => ?_
  refine Performs.add_then profile 0x200 rfl (by omega) fun hmadt => ?_
  refine Performs.add_then profile 0x300 rfl (by omega) fun hfadt => ?_
  refine Performs.add_then profile 0x450 rfl (by omega) fun hhpet => ?_
  refine Performs.add_then profile 0x500 rfl (by omega) fun hdsdt => ?_
  refine Performs.add_then profile 0x100 rfl (by omega) fun _ => ?_
  refine Performs.add_then profile 0x200 rfl (by omega) fun _ => ?_
  refine Performs.add_then profile 0x300 rfl (by omega) fun _ => ?_
  refine Performs.add_then profile 0x450 rfl (by omega) fun _ => ?_
  refine Performs.add_then profile 0x500 rfl (by omega) fun _ => ?_
  refine Performs.write_then profile hdsdt rfl (by rw [length_dsdt]; omega) ?_
  refine Performs.write_then profile hmadt rfl (by rw [length_madt]; omega) ?_
  refine Performs.write_then profile hfadt rfl (by rw [length_fadt]; omega) ?_
  refine Performs.write_then profile hhpet rfl (by rw [length_hpet]; omega) ?_
  refine Performs.write_then profile hxsdt rfl (by rw [length_xsdt]; omega) ?_
  exact Performs.write_memory profile (by rw [length_rsdp]; omega)

theorem setup_run (profile : Profile) {base_paddr base_vaddr : UInt64}
    (hpaddr : base_paddr.toNat + 0x524 ≤ MEM_SIZE.toNat) (hvaddr : base_vaddr.toNat + 0x500 < 2 ^ 64) (self : Vm) :
    (setup profile base_paddr base_vaddr).run self = .ok base_vaddr
      { self with mem := storeAll self.mem (tableWrites base_paddr.toNat base_vaddr) } := by
  rw [setup, Stateful.bind_run, writeTables_performs profile hpaddr hvaddr self]
  rfl

end vwfl.acpi
