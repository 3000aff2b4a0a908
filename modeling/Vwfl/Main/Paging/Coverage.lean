import Vwfl.Main.Paging.Windows

open Rust ByteStore Paging
open vwfl.vm vwfl.gdb

namespace vwfl.main

/-- The tables map every byte of a window, in order, from a physical base. -/
def MapsWindow (mem : Nat → UInt8) (vbase : UInt64) (pbase length : Nat) : Prop :=
  ∀ offset < length, translate mem SYSTEM_CR3 (vbase + UInt64.ofNat offset) = some (pbase + offset)

/-- The windows of guest memory that the tables are built for. The directory
    of the lower half stays empty. -/
structure RamWindows (mem : Nat → UInt8) (hal_index : Nat) : Prop where
  kernel : MapsWindow mem 0xFFFFF80000000000 0 (2 ^ 30)
  high : MapsWindow mem 0xFFFFFF8000000000 0 (2 ^ 30)
  stack : MapsWindow mem 0xFFFFFE8000000000 0x0A000000 (2 ^ 30)
  user : MapsWindow mem 0xFFFFF78000000000 0x09000000 4096
  hal : MapsWindow mem (0xFFFFF80040000000 + UInt64.ofNat hal_index * 0x200000) 0x02000000 0x4000000
  low : ∀ vaddr : UInt64, (vaddr >>> 39) &&& 0x1FF = 0 → translate mem SYSTEM_CR3 vaddr = none

private theorem toNat_window {vbase : UInt64} {start offset : Nat} (hbase : vbase.toNat = start)
    (h : start + offset < 2 ^ 64) : (vbase + UInt64.ofNat offset).toNat = start + offset := by
  rw [BitField.toNat_add_ofNat (by omega), hbase]

/-- Tables that are still in place give every window, as long as the HAL
    window does not run over the end of its page directory. -/
theorem HoldsTables.ramWindows {mem : Nat → UInt8} {hal_index : Nat} (hholds : HoldsTables mem hal_index)
    (hfits : hal_index ≤ 480) : RamWindows mem hal_index where
  kernel := by
    intro offset hoffset
    have hvaddr := toNat_window (show (0xFFFFF80000000000 : UInt64).toNat = 0xFFFFF80000000000 from rfl)
      (show 0xFFFFF80000000000 + offset < 2 ^ 64 by omega)
    rw [Nat.zero_add]
    exact hholds.translate_kernel hvaddr hoffset
  high := by
    intro offset hoffset
    have hvaddr := toNat_window (show (0xFFFFFF8000000000 : UInt64).toNat = 0xFFFFFF8000000000 from rfl)
      (show 0xFFFFFF8000000000 + offset < 2 ^ 64 by omega)
    rw [Nat.zero_add]
    exact hholds.translate_alias hvaddr hoffset
  stack := by
    intro offset hoffset
    have hvaddr := toNat_window (show (0xFFFFFE8000000000 : UInt64).toNat = 0xFFFFFE8000000000 from rfl)
      (show 0xFFFFFE8000000000 + offset < 2 ^ 64 by omega)
    exact hholds.translate_stack hvaddr hoffset
  user := by
    intro offset hoffset
    have hvaddr := toNat_window (show (0xFFFFF78000000000 : UInt64).toNat = 0xFFFFF78000000000 from rfl)
      (show 0xFFFFF78000000000 + offset < 2 ^ 64 by omega)
    exact hholds.translate_user hvaddr hoffset
  hal := by
    intro offset hoffset
    have hgigabyte : K_VIRT_ANY.toNat + 2 ^ 30 = 0xFFFFF80040000000 := rfl
    have hphys : HAL_PBASE.toNat = 0x02000000 := rfl
    have hbase : (0xFFFFF80040000000 + UInt64.ofNat hal_index * 0x200000 : UInt64).toNat =
        0xFFFFF80040000000 + hal_index * 0x200000 := BitField.toNat_add_index rfl rfl (by omega)
    have hvaddr : (0xFFFFF80040000000 + UInt64.ofNat hal_index * 0x200000 + UInt64.ofNat offset : UInt64).toNat =
        K_VIRT_ANY.toNat + 2 ^ 30 + (hal_index * 2 ^ 21 + offset) := by
      rw [toNat_window hbase (by omega), hgigabyte]
      omega
    rw [hholds.translate_hal hvaddr (by omega), if_pos (by omega), hphys, Nat.add_sub_cancel_left]
  low := by
    intro vaddr hvaddr
    have hindex : ((vaddr >>> 39) &&& 0x1FF).toNat = index 3 vaddr.toNat := by
      rw [BitField.toNat_and_low _ _ 9 rfl, BitField.toNat_shiftRight vaddr 39 (by decide)]
      rfl
    rw [hvaddr] at hindex
    exact hholds.translate_low hindex.symm

/-- The setup completes from every memory, leaves the intended windows behind
    and writes nothing outside the page-table area. -/
theorem setup_kernel_paging_ramWindows (profile : Profile) (krnl_base hal_base : UInt64) (before : Vm)
    (hfits : halIndex hal_base ≤ 480) :
    ∃ after, (setup_kernel_paging profile krnl_base hal_base).run before = .ok () after ∧
      RamWindows after.mem (halIndex hal_base) ∧
      ∀ address, ¬ (SYSTEM_BASE.toNat + 0x100000 ≤ address ∧ address < SYSTEM_BASE.toNat + 0x180000) →
        after.mem address = before.mem address := by
  have hsetup := setup_kernel_paging_performs profile krnl_base hal_base before
  refine ⟨_, hsetup, (setup_kernel_paging_holds hsetup).ramWindows hfits, ?_⟩
  intro address haddress
  have hbase : SYSTEM_BASE.toNat = 0x8000000 := rfl
  have harea : pagingBase = 0x8100000 := rfl
  apply storeAll_untouched
  rintro write hwrite ⟨hlow, hhigh⟩
  obtain ⟨hfirst, hlast⟩ := pagingWrites_inside hal_base write hwrite
  omega

/-- The directory index that the loader always produces. -/
theorem setup_kernel_paging_ramWindows_hal :
    ∃ after, (setup_kernel_paging .dev 0xFFFFF80000200000 0xFFFFF80042000000).run ⟨fun _ => 0⟩ = .ok () after ∧
      RamWindows after.mem 16 ∧
      ∀ address, ¬ (SYSTEM_BASE.toNat + 0x100000 ≤ address ∧ address < SYSTEM_BASE.toNat + 0x180000) →
        after.mem address = 0 :=
  setup_kernel_paging_ramWindows .dev 0xFFFFF80000200000 0xFFFFF80042000000 ⟨fun _ => 0⟩ (by decide)

end vwfl.main
