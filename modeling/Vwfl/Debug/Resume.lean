import Vwfl.Debug.Stub

open Rust ByteStore LittleEndian
open vwfl.vm vwfl.main

namespace vwfl.debug

private theorem range_of_outside {base length target vaddr : UInt64} (hend : base.toNat + length.toNat < 2 ^ 64)
    (h : vaddr.toNat < base.toNat ∨ base.toNat + length.toNat ≤ vaddr.toNat) :
    range base length target vaddr = none := by
  unfold range
  apply if_neg
  rw [ge_iff_le, UInt64.le_iff_toNat_le, UInt64.lt_iff_toNat_lt, BitField.toNat_add_of_lt hend]
  omega

private theorem range_of_inside {base length target vaddr : UInt64} {offset : Nat}
    (hend : base.toNat + length.toNat < 2 ^ 64) (hvaddr : vaddr.toNat = base.toNat + offset)
    (hoffset : offset < length.toNat) (htarget : target.toNat + length.toNat < 2 ^ 64) :
    ∃ paddr, range base length target vaddr = some paddr ∧ paddr.toNat = target.toNat + offset := by
  have hdistance : (vaddr - base).toNat = offset := by
    rw [BitField.toNat_sub_of_le (by omega)]
    omega
  refine ⟨vaddr - base + target, ?_, ?_⟩
  · unfold range
    apply if_pos
    rw [ge_iff_le, UInt64.le_iff_toNat_le, UInt64.lt_iff_toNat_lt, BitField.toNat_add_of_lt hend]
    omega
  · rw [BitField.toNat_add_of_lt (by omega), hdistance]
    omega

/-- The range table knows the first 128 MiB of the stack window. -/
theorem virt_to_phys_stack {vaddr : UInt64} {offset : Nat} (hvaddr : vaddr.toNat = STACK_VBASE.toNat + offset)
    (hoffset : offset < 0x8000000) :
    ∃ paddr, virt_to_phys vaddr = some paddr ∧ paddr.toNat = STACK_PBASE.toNat + offset := by
  have hbase : STACK_VBASE.toNat = 0xFFFFFE8000000000 := rfl
  have hsystem : range (0xFFFFF80000000000 + SYSTEM_BASE) 0x8000000 SYSTEM_BASE vaddr = none := by
    apply range_of_outside (by decide)
    right
    change 0xFFFFF80008000000 + 0x8000000 ≤ vaddr.toNat
    omega
  have hkernel : range 0xFFFFF80000200000 0x8000000 KRNL_PBASE vaddr = none := by
    apply range_of_outside (by decide)
    right
    change 0xFFFFF80000200000 + 0x8000000 ≤ vaddr.toNat
    omega
  have hhal : range 0x1c0000000 0x2000000 HAL_PBASE vaddr = none := by
    apply range_of_outside (by decide)
    right
    change 0x1c0000000 + 0x2000000 ≤ vaddr.toNat
    omega
  obtain ⟨paddr, hstack, hpaddr⟩ := @range_of_inside 0xFFFFFE8000000000 0x8000000 STACK_PBASE vaddr offset (by decide)
    hvaddr hoffset (by decide)
  refine ⟨paddr, ?_, hpaddr⟩
  unfold virt_to_phys
  dsimp only
  rw [hsystem, hkernel, hhal, hstack]
  rfl

theorem dump_all_registers_run (profile : Profile) {guest : Guest} (hget : guest.refuses .get_regs = none)
    (hsregs : guest.refuses .get_sregs = none) : (dump_all_registers profile).run guest = .ok () guest := by
  have hdump : hex_dump_bytes profile guest.vm 0x4000000 0x100 = .ok (load guest.vm.mem 0x4000000 0x100) := by
    have hsize := MEM_SIZE_toNat
    have hcheck : ¬ (0x4000000 : UInt64) + UInt64.ofNat 0x100 > MEM_SIZE := by decide
    have hsum : profile.add64 0x4000000 (UInt64.ofNat 0x100) = .ok (0x4000000 + UInt64.ofNat 0x100) :=
      profile.add64_of_lt (by decide)
    unfold hex_dump_bytes
    rw [hsum, ok_bind, if_neg hcheck, Vm.copy_from, if_pos]
    · rfl
    · rw [hsize]
      decide
  have hstate : (get : GuestM Guest).run guest = .ok guest guest := rfl
  unfold dump_all_registers
  simp only [Stateful.bind_run, Guest.get_regs_run hget, Guest.call_run hsregs, hstate, hdump, Stateful.lift_ok_run]
  rfl

private theorem save_area_reads (profile : Profile) (vm : Vm) :
    ∀ slot : UInt64, slot.toNat ≤ 16 →
      ∃ value, safe_read_u64 profile vm (SYSTEM_BASE + 0x60000 + slot) = .ok value := by
  intro slot hslot
  have hsize := MEM_SIZE_toNat
  have hbase : (SYSTEM_BASE + 0x60000).toNat = 0x8060000 := rfl
  have haddress : (SYSTEM_BASE + 0x60000 + slot).toNat = 0x8060000 + slot.toNat := by
    rw [BitField.toNat_add_of_lt (by omega), hbase]
  exact ⟨_, safe_read_u64_of_le profile vm (by omega)⟩

/-- Every other vector is dumped, and the guest stays as it is. -/
theorem handle_diagnostic_trap_dumps (profile : Profile) {vector : UInt8} (hvector : ¬ (vector = 3 ∨ vector = 0x2d))
    {guest : Guest} (hget : guest.refuses .get_regs = none) (hsregs : guest.refuses .get_sregs = none)
    {rsp_phys : UInt64} (hrsp : virt_to_phys guest.regs.rsp = some rsp_phys)
    (hframe : rsp_phys.toNat + 40 ≤ MEM_SIZE.toNat) :
    (handle_diagnostic_trap profile vector).run guest = .ok () guest := by
  have hsize := MEM_SIZE_toNat
  generalize hoffset : (if has_error_code vector then 8 else 0 : UInt64) = offset
  have hbound : offset.toNat ≤ 8 := by
    rw [← hoffset]
    split <;> decide
  have hsum : profile.add64 rsp_phys offset = .ok (rsp_phys + offset) := profile.add64_of_lt (by omega)
  have hstart : (rsp_phys + offset).toNat = rsp_phys.toNat + offset.toNat := BitField.toNat_add_of_lt (by omega)
  have hword : ∀ place : UInt64, place.toNat ≤ 24 →
      profile.add64 (rsp_phys + offset) place = .ok (rsp_phys + offset + place) ∧
        ∃ value, safe_read_u64 profile guest.vm (rsp_phys + offset + place) = .ok value := by
    intro place hplace
    have haddress : (rsp_phys + offset + place).toNat = rsp_phys.toNat + offset.toNat + place.toNat := by
      rw [BitField.toNat_add_of_lt (by omega), hstart]
    exact ⟨profile.add64_of_lt (by omega), _, safe_read_u64_of_le profile guest.vm (by omega)⟩
  obtain ⟨hsum16, rflags, hrflags⟩ := hword 16 (by decide)
  obtain ⟨hsum24, old_rsp, hold⟩ := hword 24 le_rfl
  obtain ⟨rax, hrax⟩ := save_area_reads profile guest.vm 0 (by decide)
  obtain ⟨rcx, hrcx⟩ := save_area_reads profile guest.vm 8 (by decide)
  obtain ⟨rdx, hrdx⟩ := save_area_reads profile guest.vm 16 le_rfl
  have hzero : SYSTEM_BASE + 0x60000 + 0 = SYSTEM_BASE + 0x60000 := rfl
  rw [hzero] at hrax
  have herror := safe_read_u64_of_le profile guest.vm (show rsp_phys.toNat + 8 ≤ MEM_SIZE.toNat by omega)
  have hpushed := safe_read_u64_of_le profile guest.vm (show (rsp_phys + offset).toNat + 8 ≤ MEM_SIZE.toNat by omega)
  have hstate : (get : GuestM Guest).run guest = .ok guest guest := rfl
  have hdump := dump_all_registers_run profile hget hsregs
  unfold handle_diagnostic_trap
  cases hcode : has_error_code vector with
  | true =>
    obtain rfl : 8 = offset := by rw [← hoffset, hcode, if_pos rfl]
    simp only [Stateful.bind_run, Guest.get_regs_run hget, hrsp, hstate, if_true, hsum, hpushed, herror, hsum16,
      hrflags, hsum24, hold, hrax, hrcx, hrdx, if_neg hvector, Stateful.lift_ok_run, hdump]
  | false =>
    obtain rfl : 0 = offset := by rw [← hoffset, hcode, if_neg Bool.false_ne_true]
    simp only [Stateful.bind_run, Guest.get_regs_run hget, hrsp, hstate, Bool.false_eq_true, if_false, hsum, hpushed,
      hsum16, hrflags, hsum24, hold, hrax, hrcx, hrdx, if_neg hvector, Stateful.lift_ok_run, hdump]

end vwfl.debug
