import Vwfl.Main.Paging.Tables
import Vwfl.Gdb.Walk

open Rust ByteStore Paging
open vwfl.vm vwfl.gdb

namespace vwfl.main

/-- Root of the tables, which `cpu::run` loads into the vCPU. -/
def SYSTEM_CR3 : UInt64 := SYSTEM_BASE + 0x102000

/-- Memory that still holds the tables built by `setup_kernel_paging`. -/
def HoldsTables (mem : Nat → UInt8) (hal_index : Nat) : Prop :=
  ∀ slot < 0x10000, slot ≠ 0xA000 → wordAt mem pagingBase slot = pagingTable hal_index slot

theorem setup_kernel_paging_holds {profile : Profile} {krnl_base hal_base : UInt64} {before after : Vm}
    (hsetup : (setup_kernel_paging profile krnl_base hal_base).run before = .ok () after) :
    HoldsTables after.mem (halIndex hal_base) := by
  have hperforms := setup_kernel_paging_performs profile krnl_base hal_base before
  have hmem : after.mem = storeAll before.mem (pagingWrites hal_base) := by
    rw [(EStateM.Result.ok.inj (hsetup.symm.trans hperforms)).2]
  rw [hmem]
  intro slot hslot hbridge
  exact wordAt_pagingWrites before.mem hal_base hslot hbridge

variable {mem : Nat → UInt8} {hal_index : Nat}

/-- The walk reads the words of the area. -/
theorem HoldsTables.entryAt_eq (hholds : HoldsTables mem hal_index) {table level address slot : Nat} (first : Nat)
    (htable : table = pagingBase + 8 * first) (hslot : first + index level address = slot)
    (hrange : slot < 0x10000) (hbridge : slot ≠ 0xA000) :
    entryAt mem (table + index level address * 8) = some (pagingTable hal_index slot).toNat := by
  have haddress : table + index level address * 8 = pagingBase + 8 * slot := by omega
  have hbound : pagingBase + 8 * slot + 8 ≤ MEM_SIZE.toNat := by
    rw [MEM_SIZE_toNat, pagingBase]
    omega
  have hnumber := LittleEndian.number_lt (load mem (pagingBase + 8 * slot) 8)
  rw [length_load, show 256 ^ 8 = 2 ^ 64 by rfl] at hnumber
  rw [haddress, entryAt, if_pos hbound, ← hholds slot hrange hbridge, wordAt, LittleEndian.toUInt64,
    UInt64.toNat_ofNat', Nat.mod_eq_of_lt hnumber]

/-- One level of the walk through a word of the area that points to a table. -/
theorem HoldsTables.descend (hholds : HoldsTables mem hal_index) {table level address : Nat} (first slot : Nat)
    {entry : UInt64} (hentry : pagingTable hal_index slot = entry) (htable : table = pagingBase + 8 * first)
    (hslot : first + index (level + 1) address = slot) (hrange : slot < 0x10000) (hbridge : slot ≠ 0xA000)
    (hpresent : Present entry.toNat) (hlarge : ¬ Large (level + 1) entry.toNat) :
    walk (entryAt mem) (level + 1) table address = walk (entryAt mem) level (frame entry.toNat) address := by
  subst hentry
  exact walk_table (hholds.entryAt_eq first htable hslot hrange hbridge) hpresent hlarge

theorem pagingTable_kernel (hal_index : Nat) {j : Nat} (hj : j < 512) :
    pagingTable hal_index (0x1A00 + j) = kernelEntry j := by
  unfold pagingTable
  repeat rw [if_neg (by omega)]
  rw [if_pos (by omega), Nat.add_sub_cancel_left]

theorem pagingTable_stack (hal_index : Nat) {j : Nat} (hj : j < 512) :
    pagingTable hal_index (0x1600 + j) = stackEntry j := by
  unfold pagingTable
  repeat rw [if_neg (by omega)]
  rw [if_pos (by omega), Nat.add_sub_cancel_left]

theorem pagingTable_hal (hal_index : Nat) {j : Nat} (hj : j < 512) :
    pagingTable hal_index (0x2800 + j) =
      if hal_index ≤ j ∧ j < hal_index + 32 then halEntry (j - hal_index) else 0 := by
  unfold pagingTable
  by_cases hwindow : hal_index ≤ j ∧ j < hal_index + 32
  · repeat rw [if_neg (by omega)]
    rw [if_pos (by omega), if_pos hwindow]
    congr 1
    omega
  · rw [if_neg hwindow]
    repeat rw [if_neg (by omega)]

private theorem toNat_ofNat_small {j : Nat} (hj : j < 512) : (UInt64.ofNat j * 0x200000).toNat = j * 2 ^ 21 := by
  have hscale : (0x200000 : UInt64).toNat = 2 ^ 21 := rfl
  rw [UInt64.toNat_mul, UInt64.toNat_ofNat', hscale]
  omega

theorem kernelEntry_toNat {j : Nat} (hj : j < 512) : (kernelEntry j).toNat = j * 2 ^ 21 + 0x83 := by
  unfold kernelEntry
  rw [BitField.toNat_or_remainder (toNat_ofNat_small hj) (by decide), toNat_ofNat_small hj]
  rfl

theorem halEntry_toNat {j : Nat} (hj : j < 32) : (halEntry j).toNat = (16 + j) * 2 ^ 21 + 0x83 := by
  have hbase : HAL_PBASE.toNat = 16 * 2 ^ 21 := rfl
  have hscaled := toNat_ofNat_small (show j < 512 by omega)
  have hphys : (HAL_PBASE + UInt64.ofNat j * 0x200000).toNat = (16 + j) * 2 ^ 21 := by
    rw [BitField.toNat_add_of_lt (by omega)]
    omega
  unfold halEntry
  rw [BitField.toNat_or_remainder hphys (by decide), hphys]
  rfl

theorem stackEntry_toNat {j : Nat} (hj : j < 512) :
    (stackEntry j).toNat = (80 + j) * 2 ^ 21 + 0x83 + 2 ^ 63 := by
  have hbase : STACK_PBASE.toNat = 80 * 2 ^ 21 := rfl
  have hscaled := toNat_ofNat_small hj
  have hphys : (STACK_PBASE + UInt64.ofNat j * 0x200000).toNat = (80 + j) * 2 ^ 21 := by
    rw [BitField.toNat_add_of_lt (by omega)]
    omega
  have hflags := BitField.toNat_or_remainder hphys (show (0x83 : UInt64).toNat < 2 ^ 21 by decide)
  have hsmall : (0x83 : UInt64).toNat = 0x83 := rfl
  have hnx : (0x8000000000000000 : UInt64).toNat = 1 * 2 ^ 63 := rfl
  unfold stackEntry
  rw [UInt64.or_comm, BitField.toNat_or_remainder hnx (by omega), hflags]
  omega

theorem pagingTable_root (hal_index : Nat) :
    pagingTable hal_index 0x5F0 = 0x8103003 ∧ pagingTable hal_index 0x5FF = 0x8103003 ∧
      pagingTable hal_index 0x400 = 0x8106003 ∧ pagingTable hal_index 0x5EF = 0x8105007 ∧
      pagingTable hal_index 0x5ED = 0x8000000008102003 ∧ pagingTable hal_index 0x5FD = 0x8000000008104003 := by
  unfold pagingTable
  refine ⟨?_, ?_, ?_, ?_, ?_, ?_⟩ <;> repeat rw [if_neg (by omega)]
  all_goals rw [if_pos rfl]

theorem pagingTable_pdpt (hal_index : Nat) :
    pagingTable hal_index 0x600 = 0x810D003 ∧ pagingTable hal_index 0x601 = 0x8114003 := by
  unfold pagingTable
  refine ⟨?_, ?_⟩ <;> repeat rw [if_neg (by omega)]
  all_goals rw [if_pos rfl]

/-- The root entry of the self-map. -/
theorem HoldsTables.entryAt_self (hholds : HoldsTables mem hal_index) :
    entryAt mem (frame SYSTEM_CR3.toNat + 493 * 8) = some (0x8000000008102003 : UInt64).toNat := by
  have hindex : index 3 (493 * 2 ^ 39) = 493 := rfl
  have hentry : entryAt mem (frame SYSTEM_CR3.toNat + index 3 (493 * 2 ^ 39) * 8) =
      some (pagingTable hal_index 0x5ED).toNat :=
    hholds.entryAt_eq 0x400 rfl rfl (by decide) (by decide)
  rwa [hindex, (pagingTable_root hal_index).2.2.2.2.1] at hentry

/-- Below the root, the high half maps the first gibibyte of physical memory. -/
private theorem HoldsTables.walk_kernel (hholds : HoldsTables mem hal_index) {address base offset : Nat}
    (haddress : address = base * 2 ^ 39 + offset) (hoffset : offset < 2 ^ 30) :
    walk (entryAt mem) 2 (frame (0x8103003 : UInt64).toNat) address = some offset := by
  have hindex : offset / 2 ^ 21 < 512 := by omega
  have hentry : entryAt mem (frame (0x810D003 : UInt64).toNat + index 1 address * 8) =
      some (pagingTable hal_index (0x1A00 + offset / 2 ^ 21)).toNat :=
    hholds.entryAt_eq 0x1A00 rfl (by unfold index shift; omega) (by omega) (by omega)
  rw [pagingTable_kernel hal_index hindex, kernelEntry_toNat hindex] at hentry
  calc walk (entryAt mem) 2 (frame (0x8103003 : UInt64).toNat) address
    _ = walk (entryAt mem) 1 (frame (0x810D003 : UInt64).toNat) address :=
      hholds.descend 0x600 0x600 (pagingTable_pdpt hal_index).1 rfl (by unfold index shift; omega)
        (by decide) (by decide) (by decide) (by decide)
    _ = some (leaf 1 (offset / 2 ^ 21 * 2 ^ 21 + 0x83) address) :=
      walk_large hentry (by unfold Present; omega) (by unfold Large; omega)
    _ = some offset := by
      simp only [leaf, shift]
      congr 1
      omega

/-- The high half maps the first gibibyte of physical memory. -/
theorem HoldsTables.translate_kernel (hholds : HoldsTables mem hal_index) {vaddr : UInt64} {offset : Nat}
    (hvaddr : vaddr.toNat = K_VIRT_ANY.toNat + offset) (hoffset : offset < 2 ^ 30) :
    translate mem SYSTEM_CR3 vaddr = some offset := by
  have hbase : K_VIRT_ANY.toNat = 0x1FFFFF0 * 2 ^ 39 := rfl
  calc translate mem SYSTEM_CR3 vaddr
    _ = walk (entryAt mem) 2 (frame (0x8103003 : UInt64).toNat) vaddr.toNat :=
      hholds.descend 0x400 0x5F0 (pagingTable_root hal_index).1 rfl (by unfold index shift; omega)
        (by decide) (by decide) (by decide) (by decide)
    _ = some offset := hholds.walk_kernel (hvaddr.trans (by rw [hbase])) hoffset

/-- The last entry of the root selects the same tables as the high half. -/
theorem HoldsTables.translate_alias (hholds : HoldsTables mem hal_index) {vaddr : UInt64} {offset : Nat}
    (hvaddr : vaddr.toNat = 0xFFFFFF8000000000 + offset) (hoffset : offset < 2 ^ 30) :
    translate mem SYSTEM_CR3 vaddr = some offset := by
  have hbase : 0xFFFFFF8000000000 = 0x1FFFFFF * 2 ^ 39 := rfl
  calc translate mem SYSTEM_CR3 vaddr
    _ = walk (entryAt mem) 2 (frame (0x8103003 : UInt64).toNat) vaddr.toNat :=
      hholds.descend 0x400 0x5FF (pagingTable_root hal_index).2.1 rfl (by unfold index shift; omega)
        (by decide) (by decide) (by decide) (by decide)
    _ = some offset := hholds.walk_kernel (hvaddr.trans (by rw [hbase])) hoffset

/-- The second gibibyte of the high half holds the HAL window and is otherwise
    unmapped. -/
theorem HoldsTables.translate_hal (hholds : HoldsTables mem hal_index) {vaddr : UInt64} {offset : Nat}
    (hvaddr : vaddr.toNat = K_VIRT_ANY.toNat + 2 ^ 30 + offset) (hoffset : offset < 2 ^ 30) :
    translate mem SYSTEM_CR3 vaddr =
      if hal_index * 2 ^ 21 ≤ offset ∧ offset < (hal_index + 32) * 2 ^ 21 then
        some (HAL_PBASE.toNat + (offset - hal_index * 2 ^ 21))
      else none := by
  have hbase : K_VIRT_ANY.toNat = 0xFFFFF80000000000 := rfl
  have hphys : HAL_PBASE.toNat = 16 * 2 ^ 21 := rfl
  have hindex : offset / 2 ^ 21 < 512 := by omega
  have hentry : entryAt mem (frame (0x8114003 : UInt64).toNat + index 1 vaddr.toNat * 8) =
      some (pagingTable hal_index (0x2800 + offset / 2 ^ 21)).toNat :=
    hholds.entryAt_eq 0x2800 rfl (by unfold index shift; omega) (by omega) (by omega)
  rw [pagingTable_hal hal_index hindex] at hentry
  have hdescend : translate mem SYSTEM_CR3 vaddr =
      walk (entryAt mem) 1 (frame (0x8114003 : UInt64).toNat) vaddr.toNat :=
    calc translate mem SYSTEM_CR3 vaddr
      _ = walk (entryAt mem) 2 (frame (0x8103003 : UInt64).toNat) vaddr.toNat :=
        hholds.descend 0x400 0x5F0 (pagingTable_root hal_index).1 rfl (by unfold index shift; omega)
          (by decide) (by decide) (by decide) (by decide)
      _ = walk (entryAt mem) 1 (frame (0x8114003 : UInt64).toNat) vaddr.toNat :=
        hholds.descend 0x600 0x601 (pagingTable_pdpt hal_index).2 rfl (by unfold index shift; omega)
          (by decide) (by decide) (by decide) (by decide)
  rw [hdescend]
  by_cases hwindow : hal_index * 2 ^ 21 ≤ offset ∧ offset < (hal_index + 32) * 2 ^ 21
  · rw [if_pos (by omega), halEntry_toNat (by omega)] at hentry
    rw [if_pos hwindow, walk_large hentry (by unfold Present; omega) (by unfold Large; omega)]
    simp only [leaf, shift]
    congr 1
    omega
  · rw [if_neg (by omega)] at hentry
    rw [if_neg hwindow]
    exact walk_absent hentry (by decide)

theorem pagingTable_stack_pdpt (hal_index : Nat) : pagingTable hal_index 0x800 = 0x800000000810B003 := by
  unfold pagingTable
  repeat rw [if_neg (by omega)]
  rw [if_pos rfl]

/-- The stack window maps a gibibyte from the stack's physical base. -/
theorem HoldsTables.translate_stack (hholds : HoldsTables mem hal_index) {vaddr : UInt64} {offset : Nat}
    (hvaddr : vaddr.toNat = STACK_VBASE.toNat + offset) (hoffset : offset < 2 ^ 30) :
    translate mem SYSTEM_CR3 vaddr = some (STACK_PBASE.toNat + offset) := by
  have hbase : STACK_VBASE.toNat = 0xFFFFFE8000000000 := rfl
  have hphys : STACK_PBASE.toNat = 80 * 2 ^ 21 := rfl
  have hindex : offset / 2 ^ 21 < 512 := by omega
  have hentry : entryAt mem (frame (0x800000000810B003 : UInt64).toNat + index 1 vaddr.toNat * 8) =
      some (pagingTable hal_index (0x1600 + offset / 2 ^ 21)).toNat :=
    hholds.entryAt_eq 0x1600 rfl (by unfold index shift; omega) (by omega) (by omega)
  rw [pagingTable_stack hal_index hindex, stackEntry_toNat hindex] at hentry
  calc translate mem SYSTEM_CR3 vaddr
    _ = walk (entryAt mem) 2 (frame (0x8000000008104003 : UInt64).toNat) vaddr.toNat :=
      hholds.descend 0x400 0x5FD (pagingTable_root hal_index).2.2.2.2.2 rfl (by unfold index shift; omega)
        (by decide) (by decide) (by decide) (by decide)
    _ = walk (entryAt mem) 1 (frame (0x800000000810B003 : UInt64).toNat) vaddr.toNat :=
      hholds.descend 0x800 0x800 (pagingTable_stack_pdpt hal_index) rfl (by unfold index shift; omega)
        (by decide) (by decide) (by decide) (by decide)
    _ = some (leaf 1 ((80 + offset / 2 ^ 21) * 2 ^ 21 + 0x83 + 2 ^ 63) vaddr.toNat) :=
      walk_large hentry (by unfold Present; omega) (by unfold Large; omega)
    _ = some (STACK_PBASE.toNat + offset) := by
      simp only [leaf, shift]
      congr 1
      omega

theorem pagingTable_user_path (hal_index : Nat) :
    pagingTable hal_index 0xA00 = 0x810C007 ∧ pagingTable hal_index 0x1800 = 0x8115007 := by
  unfold pagingTable
  refine ⟨?_, ?_⟩ <;> repeat rw [if_neg (by omega)]
  all_goals rw [if_pos rfl]

theorem pagingTable_user (hal_index : Nat) {j : Nat} (hj : j < 512) :
    pagingTable hal_index (0x2A00 + j) =
      if j = 0 then 0x9000007
      else if hal_index ≤ 512 + j ∧ 512 + j < hal_index + 32 then halEntry (512 + j - hal_index) else 0 := by
  unfold pagingTable
  by_cases hfirst : j = 0
  · rw [if_pos (by omega), if_pos hfirst]
  · rw [if_neg hfirst]
    by_cases hwindow : hal_index ≤ 512 + j ∧ 512 + j < hal_index + 32
    · repeat rw [if_neg (by omega)]
      rw [if_pos (by omega), if_pos hwindow]
      congr 1
      omega
    · rw [if_neg hwindow]
      repeat rw [if_neg (by omega)]

/-- Addresses of the user window's first two mebibytes are translated by its
    page table. -/
private theorem HoldsTables.walk_user (hholds : HoldsTables mem hal_index) {vaddr : UInt64} {offset : Nat}
    (hvaddr : vaddr.toNat = 0xFFFFF78000000000 + offset) (hoffset : offset < 2 ^ 21) :
    translate mem SYSTEM_CR3 vaddr = walk (entryAt mem) 0 (frame (0x8115007 : UInt64).toNat) vaddr.toNat ∧
      entryAt mem (frame (0x8115007 : UInt64).toNat + index 0 vaddr.toNat * 8) =
        some (pagingTable hal_index (0x2A00 + offset / 2 ^ 12)).toNat := by
  refine ⟨?_, hholds.entryAt_eq 0x2A00 rfl (by unfold index shift; omega) (by omega) (by omega)⟩
  calc translate mem SYSTEM_CR3 vaddr
    _ = walk (entryAt mem) 2 (frame (0x8105007 : UInt64).toNat) vaddr.toNat :=
      hholds.descend 0x400 0x5EF (pagingTable_root hal_index).2.2.2.1 rfl (by unfold index shift; omega)
        (by decide) (by decide) (by decide) (by decide)
    _ = walk (entryAt mem) 1 (frame (0x810C007 : UInt64).toNat) vaddr.toNat :=
      hholds.descend 0xA00 0xA00 (pagingTable_user_path hal_index).1 rfl (by unfold index shift; omega)
        (by decide) (by decide) (by decide) (by decide)
    _ = walk (entryAt mem) 0 (frame (0x8115007 : UInt64).toNat) vaddr.toNat :=
      hholds.descend 0x1800 0x1800 (pagingTable_user_path hal_index).2 rfl (by unfold index shift; omega)
        (by decide) (by decide) (by decide) (by decide)

/-- The shared page of the user window. -/
theorem HoldsTables.translate_user (hholds : HoldsTables mem hal_index) {vaddr : UInt64} {offset : Nat}
    (hvaddr : vaddr.toNat = 0xFFFFF78000000000 + offset) (hoffset : offset < 4096) :
    translate mem SYSTEM_CR3 vaddr = some (KUSER_PBASE.toNat + offset) := by
  have hphys : KUSER_PBASE.toNat = 0x9000000 := rfl
  have hword : (0x9000007 : UInt64).toNat = 0x9000007 := rfl
  obtain ⟨hdescend, hentry⟩ := hholds.walk_user hvaddr (by omega)
  rw [pagingTable_user hal_index (by omega), if_pos (by omega), hword] at hentry
  rw [hdescend, walk_page hentry (by decide)]
  simp only [leaf, shift]
  congr 1
  omega

/-- Behind the shared page the user window holds no page of the shared area,
    also where the last HAL entries spill into its page table. -/
theorem HoldsTables.translate_user_ne (hholds : HoldsTables mem hal_index) {vaddr : UInt64} {offset : Nat}
    (hvaddr : vaddr.toNat = 0xFFFFF78000000000 + offset) (hpast : 4096 ≤ offset) (hoffset : offset < 2 ^ 21) :
    translate mem SYSTEM_CR3 vaddr ≠ some (KUSER_PBASE.toNat + offset) := by
  have hphys : KUSER_PBASE.toNat = 72 * 2 ^ 21 := rfl
  obtain ⟨hdescend, hentry⟩ := hholds.walk_user hvaddr hoffset
  rw [pagingTable_user hal_index (by omega), if_neg (by omega)] at hentry
  rw [hdescend]
  split at hentry
  · rename_i hspill
    rw [halEntry_toNat (by omega)] at hentry
    rw [walk_page hentry (by unfold Present; omega), Ne, Option.some.injEq]
    simp only [leaf, shift]
    omega
  · rw [walk_absent hentry (by decide)]
    exact Option.some_ne_none _ |>.symm

private theorem pagingTable_low (hal_index : Nat) {j : Nat} (hj : j < 512) :
    pagingTable hal_index (0xC00 + j) = 0 := by
  unfold pagingTable
  repeat rw [if_neg (by omega)]

/-- The table of the lower half's first entry is empty. -/
theorem HoldsTables.translate_low (hholds : HoldsTables mem hal_index) {vaddr : UInt64}
    (hvaddr : index 3 vaddr.toNat = 0) : translate mem SYSTEM_CR3 vaddr = none := by
  have hindex := index_lt 2 vaddr.toNat
  have hentry : entryAt mem (frame (0x8106003 : UInt64).toNat + index 2 vaddr.toNat * 8) =
      some (pagingTable hal_index (0xC00 + index 2 vaddr.toNat)).toNat :=
    hholds.entryAt_eq 0xC00 rfl rfl (by omega) (by omega)
  rw [pagingTable_low hal_index hindex] at hentry
  calc translate mem SYSTEM_CR3 vaddr
    _ = walk (entryAt mem) 2 (frame (0x8106003 : UInt64).toNat) vaddr.toNat :=
      hholds.descend 0x400 0x400 (pagingTable_root hal_index).2.2.1 rfl (by rw [hvaddr])
        (by decide) (by decide) (by decide) (by decide)
    _ = none := walk_absent hentry (by decide)

end vwfl.main
