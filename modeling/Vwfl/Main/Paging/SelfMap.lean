import Vwfl.Main.Paging.Windows

open Rust ByteStore Paging
open vwfl.vm vwfl.gdb

namespace vwfl.main

/-- Slot 493 of the root table selects the root table itself. -/
def SelfMapped (mem : Nat → UInt8) (cr3 : UInt64) : Prop :=
  ∃ entry, entryAt mem (frame cr3.toNat + 493 * 8) = some entry ∧ Present entry ∧ frame entry = frame cr3.toNat

/-- An address is translated by a page table: the entries of the three levels
    above it are readable and present, and none of them maps a page. -/
structure SelectsPageTable (mem : Nat → UInt8) (cr3 vaddr pml4e pdpte pde : UInt64) : Prop where
  pml4 : entryAt mem (frame cr3.toNat + index 3 vaddr.toNat * 8) = some pml4e.toNat
  pml4_present : Present pml4e.toNat
  pml4_clear : pml4e.toNat / 2 ^ 7 % 2 = 0
  pdpt : entryAt mem (frame pml4e.toNat + index 2 vaddr.toNat * 8) = some pdpte.toNat
  pdpt_present : Present pdpte.toNat
  pdpt_table : ¬ Large 2 pdpte.toNat
  pd : entryAt mem (frame pdpte.toNat + index 1 vaddr.toNat * 8) = some pde.toNat
  pd_present : Present pde.toNat
  pd_table : ¬ Large 1 pde.toNat

/-- Address of an address's page-table entry in the self-mapped region, as the
    patched `MmPteBase` makes the guest compute it. -/
def pteAddress (vaddr : UInt64) : UInt64 := (0xFFFFF68000000000 : UInt64) + ((vaddr >>> 9) &&& 0x7FFFFFFFF8)

private theorem pteAddress_toNat (vaddr : UInt64) :
    (pteAddress vaddr).toNat = 0x1FFFFED * 2 ^ 39 + vaddr.toNat / 2 ^ 12 % 2 ^ 36 * 2 ^ 3 := by
  have hbase : (0xFFFFF68000000000 : UInt64).toNat = 0x1FFFFED * 2 ^ 39 := rfl
  have hfield : ((vaddr >>> 9) &&& 0x7FFFFFFFF8).toNat = vaddr.toNat / 2 ^ 12 % 2 ^ 36 * 2 ^ 3 := by
    rw [BitField.toNat_and_field _ _ 3 36 rfl, BitField.toNat_shiftRight vaddr 9 (by decide),
      Nat.div_div_eq_div_mul]
    rfl
  unfold pteAddress
  rw [BitField.toNat_add_of_lt (by omega), hbase, hfield]

private theorem index_pteAddress (vaddr : UInt64) :
    index 3 (pteAddress vaddr).toNat = 493 ∧
      ∀ level ≤ 2, index level (pteAddress vaddr).toNat = index (level + 1) vaddr.toNat := by
  rw [pteAddress_toNat]
  refine ⟨by unfold index shift; omega, fun level hlevel => ?_⟩
  interval_cases level <;> unfold index shift <;> omega

theorem SelectsPageTable.descends {mem : Nat → UInt8} {cr3 vaddr pml4e pdpte pde : UInt64}
    (h : SelectsPageTable mem cr3 vaddr pml4e pdpte pde) :
    Descends (entryAt mem) vaddr.toNat 3 (frame cr3.toNat) (frame pde.toNat) := by
  have hpdpt : pdpte.toNat / 2 ^ 7 % 2 = 0 := by
    have := h.pdpt_table
    unfold Large at this
    omega
  have hpd : pde.toNat / 2 ^ 7 % 2 = 0 := by
    have := h.pd_table
    unfold Large at this
    omega
  exact .step h.pml4 h.pml4_present h.pml4_clear
    (.step h.pdpt h.pdpt_present hpdpt (.step h.pd h.pd_present hpd (.here _)))

/-- Through a self-mapped root the walk of an address's entry address stops one
    level early and yields the entry itself. The tables that the boot code
    builds have such a root. -/
theorem selfMap_exact :
    (∀ (mem : Nat → UInt8) (cr3 vaddr pml4e pdpte pde : UInt64), SelfMapped mem cr3 →
      SelectsPageTable mem cr3 vaddr pml4e pdpte pde →
      translate mem cr3 ((0xFFFFF68000000000 : UInt64) + ((vaddr >>> 9) &&& 0x7FFFFFFFF8)) =
        some ((pde &&& (0x000FFFFFFFFFF000 : UInt64)) + ((vaddr >>> 12) &&& 0x1FF) * 8).toNat) ∧
    ∀ (profile : Profile) (krnl_base hal_base : UInt64) (before : Vm),
      ∃ after, (setup_kernel_paging profile krnl_base hal_base).run before = .ok () after ∧
        SelfMapped after.mem SYSTEM_CR3 := by
  refine ⟨?_, ?_⟩
  · intro mem cr3 vaddr pml4e pdpte pde hself htables
    obtain ⟨entry, hentry, hpresent, hframe⟩ := hself
    obtain ⟨hroot, hshift⟩ := index_pteAddress vaddr
    have hoffset : (pteAddress vaddr).toNat % 2 ^ 12 = index 0 vaddr.toNat * 8 := by
      rw [pteAddress_toNat]
      unfold index shift
      omega
    rw [← hroot] at hentry
    change translate mem cr3 (pteAddress vaddr) = _
    rw [toNat_entry_location pde vaddr 12 0 (by decide) rfl, ← hoffset]
    calc translate mem cr3 (pteAddress vaddr)
      _ = walk (entryAt mem) 2 (frame entry) (pteAddress vaddr).toNat :=
        walk_table hentry hpresent (by unfold Large; omega)
      _ = some (frame pde.toNat + (pteAddress vaddr).toNat % 2 ^ 12) := by
        rw [hframe]
        exact walk_of_descends htables.descends hshift
  · intro profile krnl_base hal_base before
    have hsetup := setup_kernel_paging_performs profile krnl_base hal_base before
    exact ⟨_, hsetup, _, (setup_kernel_paging_holds hsetup).entryAt_self, by decide, rfl⟩

/-- A root at `0x1000` with a self-map and one page table at `0x4000`. -/
def selfMappedTables : Nat → UInt8 :=
  storeAll (fun _ => 0) [(0x1000, LittleEndian.ofUInt64 0x2003), (0x1F68, LittleEndian.ofUInt64 0x1003),
    (0x2000, LittleEndian.ofUInt64 0x3003), (0x3000, LittleEndian.ofUInt64 0x4003)]

theorem selfMap_exact_small :
    translate selfMappedTables 0x1000 0xFFFFF68000000028 = some 0x4028 := by
  have hself : SelfMapped selfMappedTables 0x1000 := ⟨0x1003, by decide +kernel, by decide, by decide⟩
  have htables : SelectsPageTable selfMappedTables 0x1000 0x5000 0x2003 0x3003 0x4003 := by
    constructor <;> decide +kernel
  exact selfMap_exact.1 selfMappedTables 0x1000 0x5000 0x2003 0x3003 0x4003 hself htables

end vwfl.main
