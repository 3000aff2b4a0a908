import Vwfl.Main.Paging.Windows
import Vwfl.Paging.Extend

open Rust ByteStore LittleEndian Paging
open vwfl.vm vwfl.gdb

namespace vwfl.main

/-- Memory that still maps what `setup_kernel_paging` mapped. The processor may
    have set flags in the entries, and the guest may have added others. -/
def KeepsTables (mem : Nat → UInt8) (hal_index : Nat) : Prop :=
  ∀ slot < 0x10000, slot ≠ 0xA000 → Present (pagingTable hal_index slot).toNat →
    SameMapping (pagingTable hal_index slot).toNat (wordAt mem pagingBase slot).toNat

theorem HoldsTables.keeps {mem : Nat → UInt8} {hal_index : Nat} (h : HoldsTables mem hal_index) :
    KeepsTables mem hal_index := by
  intro slot hslot hbridge _
  rw [h slot hslot hbridge]
  exact SameMapping.refl _

/-- Memory that is the same in the area of the tables keeps them as well. -/
theorem KeepsTables.congr {mem other : Nat → UInt8} {hal_index : Nat} (h : KeepsTables mem hal_index)
    (hsame : ∀ address, Within pagingBase 0x80000 address → other address = mem address) :
    KeepsTables other hal_index := by
  intro slot hslot hbridge hpresent
  have hword : wordAt other pagingBase slot = wordAt mem pagingBase slot := by
    unfold wordAt
    congr 1
    apply load_congr
    intro address haddress
    apply hsame
    unfold Within at *
    omega
  rw [hword]
  exact h slot hslot hbridge hpresent

/-- The words of the tables and nothing else. -/
private def tableWords (hal_index : Nat) : List (Nat × List UInt8) :=
  (List.range 0x10000).map fun slot =>
    (pagingBase + 8 * (0 + slot), ofUInt64 (if slot = 0xA000 then 0 else pagingTable hal_index slot))

private theorem wordAt_tableWords (hal_index : Nat) {slot : Nat} (hslot : slot < 0x10000) :
    wordAt (storeAll (fun _ => 0) (tableWords hal_index)) pagingBase slot =
      if slot = 0xA000 then 0 else pagingTable hal_index slot := by
  unfold tableWords
  rw [wordAt_storeAll_range, if_pos (by omega), Nat.sub_zero]

private theorem holdsTables_tableWords (hal_index : Nat) :
    HoldsTables (storeAll (fun _ => 0) (tableWords hal_index)) hal_index := by
  intro slot hslot hbridge
  rw [wordAt_tableWords hal_index hslot, if_neg hbridge]

private theorem entryAt_pagingBase (mem : Nat → UInt8) {slot : Nat} (hslot : slot < 0x10000) :
    entryAt mem (pagingBase + 8 * slot) = some (wordAt mem pagingBase slot).toNat := by
  have hbound : pagingBase + 8 * slot + 8 ≤ MEM_SIZE.toNat := by
    rw [MEM_SIZE_toNat, pagingBase]
    omega
  have hnumber := LittleEndian.number_lt (load mem (pagingBase + 8 * slot) 8)
  rw [length_load, show 256 ^ 8 = 2 ^ 64 by rfl] at hnumber
  rw [entryAt, if_pos hbound, wordAt, LittleEndian.toUInt64, UInt64.toNat_ofNat', Nat.mod_eq_of_lt hnumber]

/-- Nothing is present outside the area when the tables are all there is. -/
private theorem entryAt_tableWords {hal_index address entry : Nat}
    (houtside : ∀ slot < 0x10000, address ≠ pagingBase + 8 * slot) (haligned : address % 8 = 0)
    (hentry : entryAt (storeAll (fun _ => 0) (tableWords hal_index)) address = some entry) : entry = 0 := by
  have hzeros : load (storeAll (fun _ => 0) (tableWords hal_index)) address 8 = List.replicate 8 0 := by
    refine (load_storeAll_of_disjoint _ _ ?_).trans rfl
    intro write hwrite
    obtain ⟨slot, hslot, rfl⟩ := List.mem_map.mp hwrite
    have hother := houtside slot (List.mem_range.mp hslot)
    unfold pagingBase at *
    refine disjoint_of_le ?_
    simp only [length_ofUInt64]
    omega
  unfold entryAt at hentry
  rw [hzeros] at hentry
  split at hentry
  · exact (Option.some.inj hentry).symm
  · cases hentry

/-- Every entry of the tables alone is one of the memory that keeps them. -/
private theorem KeepsTables.extends {mem : Nat → UInt8} {hal_index : Nat} (h : KeepsTables mem hal_index) :
    Extends (entryAt (storeAll (fun _ => 0) (tableWords hal_index))) (entryAt mem) := by
  intro address entry haligned hentry hpresent
  by_cases hinside : ∃ slot < 0x10000, address = pagingBase + 8 * slot
  · obtain ⟨slot, hslot, rfl⟩ := hinside
    rw [entryAt_pagingBase _ hslot, wordAt_tableWords hal_index hslot] at hentry
    obtain rfl := Option.some.inj hentry
    by_cases hbridge : slot = 0xA000
    · rw [if_pos hbridge] at hpresent
      exact absurd hpresent (by decide)
    · rw [if_neg hbridge] at hpresent ⊢
      exact ⟨_, entryAt_pagingBase mem hslot, h slot hslot hbridge hpresent⟩
  · push Not at hinside
    rw [entryAt_tableWords hinside haligned hentry] at hpresent
    exact absurd hpresent (by decide)

private theorem KeepsTables.translate {mem : Nat → UInt8} {hal_index : Nat} (h : KeepsTables mem hal_index)
    {vaddr : UInt64} {target : Nat}
    (hmapped : translate (storeAll (fun _ => 0) (tableWords hal_index)) SYSTEM_CR3 vaddr = some target) :
    translate mem SYSTEM_CR3 vaddr = some target :=
  h.extends.walk_eq rfl hmapped

variable {mem : Nat → UInt8} {hal_index : Nat}

theorem KeepsTables.translate_kernel (h : KeepsTables mem hal_index) {vaddr : UInt64} {offset : Nat}
    (hvaddr : vaddr.toNat = K_VIRT_ANY.toNat + offset) (hoffset : offset < 2 ^ 30) :
    gdb.translate mem SYSTEM_CR3 vaddr = some offset :=
  h.translate ((holdsTables_tableWords hal_index).translate_kernel hvaddr hoffset)

theorem KeepsTables.translate_stack (h : KeepsTables mem hal_index) {vaddr : UInt64} {offset : Nat}
    (hvaddr : vaddr.toNat = STACK_VBASE.toNat + offset) (hoffset : offset < 2 ^ 30) :
    gdb.translate mem SYSTEM_CR3 vaddr = some (STACK_PBASE.toNat + offset) :=
  h.translate ((holdsTables_tableWords hal_index).translate_stack hvaddr hoffset)

end vwfl.main
