import Vwfl.Main.Paging.Setup
import Vwfl.ByteStore.Words

open Rust ByteStore LittleEndian
open vwfl.vm

namespace vwfl.main

/-- Start of the page-table area, also the base of its table of words. -/
def pagingBase : Nat := 0x8100000

/-- One word of the page-table area. -/
def pagingWord (slot : Nat) (value : UInt64) : Nat × List UInt8 := (pagingBase + 8 * slot, ofUInt64 value)

/-- Page-directory index that the HAL window starts at. -/
def halIndex (hal_base : UInt64) : Nat := ((hal_base >>> 21) &&& 0x1FF).toNat

def kernelEntry (j : Nat) : UInt64 := UInt64.ofNat j * 0x200000 ||| 0x83

def halEntry (j : Nat) : UInt64 := HAL_PBASE + UInt64.ofNat j * 0x200000 ||| 0x83

def stackEntry (j : Nat) : UInt64 := STACK_PBASE + UInt64.ofNat j * 0x200000 ||| 0x83 ||| 0x8000000000000000

/-- The stores of `setup_kernel_paging` in program order. -/
def pagingWrites (hal_base : UInt64) : List (Nat × List UInt8) :=
  (pagingBase, List.replicate 524288 0) :: (pagingBase + 0x50000, [0x0F, 0x01, 0xC1]) ::
  pagingWord 0x5F0 0x8103003 :: pagingWord 0x5FF 0x8103003 :: pagingWord 0x400 0x8106003 ::
  pagingWord 0x5FD 0x8000000008104003 :: pagingWord 0x5EF 0x8105007 :: pagingWord 0x5ED 0x8000000008102003 ::
  pagingWord 0x600 0x810D003 :: pagingWord 0x601 0x8114003 ::
  ((List.range 512).map (fun j => pagingWord (0x1A00 + j) (kernelEntry j)) ++
  ((List.range 32).map (fun j => pagingWord (0x2800 + halIndex hal_base + j) (halEntry j)) ++
  (pagingWord 0x603 0x8160003 :: pagingWord 0xC1F6 0x8161003 :: pagingWord 0xC1F7 0x8161803 ::
  pagingWord 0xC1F8 0x8162003 :: pagingWord 0xC200 0x80000000FEC0001B :: pagingWord 0xC300 0x80000000FED0001B ::
  pagingWord 0xC400 0x80000000FEE0001B :: pagingWord 0x800 0x800000000810B003 ::
  ((List.range 512).map (fun j => pagingWord (0x1600 + j) (stackEntry j)) ++
  [pagingWord 0xA00 0x810C007, pagingWord 0x1800 0x8115007, pagingWord 0x2A00 0x9000007]))))

theorem halIndex_lt (hal_base : UInt64) : halIndex hal_base < 512 := by
  unfold halIndex
  rw [BitField.toNat_and_low _ _ 9 rfl]
  exact Nat.mod_lt _ (by decide)

/-- Location of an entry of a table in the page-table area. -/
private theorem toNat_entry {table index : UInt64} {first : Nat} (htable : table.toNat = pagingBase + 8 * first)
    (hbound : first + index.toNat ≤ 0x10000) :
    (table + index * 8).toNat = pagingBase + 8 * (first + index.toNat) := by
  have hbase : pagingBase = 0x8100000 := rfl
  have height : (8 : UInt64).toNat = 8 := rfl
  have hscaled : (index * 8).toNat = index.toNat * 8 := by
    rw [UInt64.toNat_mul, height]
    omega
  rw [BitField.toNat_add_of_lt (by omega), hscaled, htable]
  omega

private theorem toNat_index {j : Nat} (hj : j < 0x10000) : (UInt64.ofNat j).toNat = j := by
  rw [UInt64.toNat_ofNat']
  omega

private theorem performs_entries (profile : Profile) {count first : Nat} {offset : Nat → UInt64}
    {values : Nat → UInt64} {rest : VmM Unit} {writes : List (Nat × List UInt8)}
    (hoffset : ∀ j < count, (offset j).toNat = pagingBase + 8 * (first + j))
    (hbound : first + count ≤ 0x10000) (hrest : Performs rest writes) :
    Performs (do
        forM (List.range count) fun j => Vm.write_memory profile (offset j) (ofUInt64 (values j))
        rest)
      ((List.range count).map (fun j => pagingWord (first + j) (values j)) ++ writes) := by
  rw [← List.flatMap_singleton' ((List.range count).map _), List.flatMap_map]
  refine Performs.bind (Performs.forM ?_) hrest
  intro j hj
  have hlt := List.mem_range.mp hj
  have hfit : (offset j).toNat + (ofUInt64 (values j)).length ≤ MEM_SIZE.toNat := by
    rw [hoffset j hlt, length_ofUInt64, MEM_SIZE_toNat, pagingBase]
    omega
  have hstore := Performs.write_memory profile hfit
  rw [hoffset j hlt] at hstore
  exact hstore

/-- The tables are built under both profiles, whatever was in memory. -/
theorem setup_kernel_paging_performs (profile : Profile) (krnl_base hal_base : UInt64) :
    Performs (setup_kernel_paging profile krnl_base hal_base) (pagingWrites hal_base) := by
  have hhal := halIndex_lt hal_base
  unfold setup_kernel_paging pagingWrites
  refine Performs.write_then profile rfl rfl (by rw [List.length_replicate]; decide) ?_
  refine Performs.write_ok_then profile rfl rfl (by decide) ?_
  iterate 8 refine Performs.write_then profile rfl rfl (by decide) ?_
  refine performs_entries profile ?_ (by decide) ?_
  · intro j hj
    have hindex := toNat_index (show j < 0x10000 by omega)
    rw [toNat_entry (show _ = pagingBase + 8 * 0x1A00 from rfl) (by omega), hindex]
  refine performs_entries profile ?_ (by omega) ?_
  · intro j hj
    have hindex := toNat_index (show j < 0x10000 by omega)
    have hsum : (((hal_base >>> 21) &&& 0x1FF) + UInt64.ofNat j).toNat = halIndex hal_base + j := by
      have hfirst : ((hal_base >>> 21) &&& 0x1FF).toNat = halIndex hal_base := rfl
      rw [BitField.toNat_add_of_lt (by omega), hindex, hfirst]
    rw [toNat_entry (show _ = pagingBase + 8 * 0x2800 from rfl) (by omega), hsum]
    omega
  iterate 7 refine Performs.write_ok_then profile rfl rfl (by decide) ?_
  refine Performs.write_then profile rfl rfl (by decide) ?_
  refine performs_entries profile ?_ (by decide) ?_
  · intro j hj
    have hindex := toNat_index (show j < 0x10000 by omega)
    rw [toNat_entry (show _ = pagingBase + 8 * 0x1600 from rfl) (by omega), hindex]
  iterate 2 refine Performs.write_then profile rfl rfl (by decide) ?_
  exact Performs.write_memory profile (by decide)

/-- A store that stays in the page-table area. -/
def InPagingArea (write : Nat × List UInt8) : Prop :=
  pagingBase ≤ write.1 ∧ write.1 + write.2.length ≤ pagingBase + 0x80000

private theorem pagingWord_inside {slot : Nat} (value : UInt64) (hslot : slot < 0x10000) :
    InPagingArea (pagingWord slot value) := by
  unfold InPagingArea pagingWord
  rw [length_ofUInt64]
  omega

private theorem pagingWords_inside {count first : Nat} (values : Nat → UInt64) (hbound : first + count ≤ 0x10000) :
    ∀ write ∈ (List.range count).map (fun j => pagingWord (first + j) (values j)), InPagingArea write := by
  intro write hwrite
  obtain ⟨j, hj, rfl⟩ := List.mem_map.mp hwrite
  have hlt := List.mem_range.mp hj
  exact pagingWord_inside (values j) (by omega)

private theorem zeros_inside {count : Nat} (hcount : count ≤ 0x80000) :
    InPagingArea (pagingBase, List.replicate count 0) := by
  unfold InPagingArea
  rw [List.length_replicate]
  omega

theorem pagingWrites_inside (hal_base : UInt64) : ∀ write ∈ pagingWrites hal_base, InPagingArea write := by
  have hhal := halIndex_lt hal_base
  have hzero : InPagingArea (pagingBase, List.replicate 524288 0) := zeros_inside le_rfl
  have hbridge : InPagingArea (pagingBase + 0x50000, [0x0F, 0x01, 0xC1]) := by
    unfold InPagingArea
    decide
  unfold pagingWrites
  simp only [List.forall_mem_cons, List.forall_mem_append]
  refine ⟨hzero, hbridge, ?_⟩
  refine ⟨pagingWord_inside _ ?_, pagingWord_inside _ ?_, pagingWord_inside _ ?_, pagingWord_inside _ ?_,
    pagingWord_inside _ ?_, pagingWord_inside _ ?_, pagingWord_inside _ ?_, pagingWord_inside _ ?_,
    pagingWords_inside _ ?_, pagingWords_inside _ ?_, ?_⟩
  on_goal 11 =>
    refine ⟨pagingWord_inside _ ?_, pagingWord_inside _ ?_, pagingWord_inside _ ?_, pagingWord_inside _ ?_,
      pagingWord_inside _ ?_, pagingWord_inside _ ?_, pagingWord_inside _ ?_, pagingWord_inside _ ?_,
      pagingWords_inside _ ?_, pagingWord_inside _ ?_, pagingWord_inside _ ?_, pagingWord_inside _ ?_,
      List.forall_mem_nil _⟩
  all_goals omega

/-- The words of the page-table area once the tables are built. A later store
    to the same slot comes first. -/
def pagingTable (hal_index slot : Nat) : UInt64 :=
  if slot = 0x2A00 then 0x9000007
  else if slot = 0x1800 then 0x8115007
  else if slot = 0xA00 then 0x810C007
  else if 0x1600 ≤ slot ∧ slot < 0x1600 + 512 then stackEntry (slot - 0x1600)
  else if slot = 0x800 then 0x800000000810B003
  else if slot = 0xC400 then 0x80000000FEE0001B
  else if slot = 0xC300 then 0x80000000FED0001B
  else if slot = 0xC200 then 0x80000000FEC0001B
  else if slot = 0xC1F8 then 0x8162003
  else if slot = 0xC1F7 then 0x8161803
  else if slot = 0xC1F6 then 0x8161003
  else if slot = 0x603 then 0x8160003
  else if 0x2800 + hal_index ≤ slot ∧ slot < 0x2800 + hal_index + 32 then halEntry (slot - (0x2800 + hal_index))
  else if 0x1A00 ≤ slot ∧ slot < 0x1A00 + 512 then kernelEntry (slot - 0x1A00)
  else if slot = 0x601 then 0x8114003
  else if slot = 0x600 then 0x810D003
  else if slot = 0x5ED then 0x8000000008102003
  else if slot = 0x5EF then 0x8105007
  else if slot = 0x5FD then 0x8000000008104003
  else if slot = 0x400 then 0x8106003
  else if slot = 0x5FF then 0x8103003
  else if slot = 0x5F0 then 0x8103003
  else 0

/-- Every word of the area other than the one with the bridge code is the table
    word, whatever was in memory before. -/
theorem wordAt_pagingWrites (mem : Nat → UInt8) (hal_base : UInt64) {slot : Nat} (hslot : slot < 0x10000)
    (hbridge : slot ≠ 0xA000) :
    wordAt (storeAll mem (pagingWrites hal_base)) pagingBase slot = pagingTable (halIndex hal_base) slot := by
  have hzero : wordAt (store (store mem pagingBase (List.replicate 524288 0)) (pagingBase + 0x50000)
      [0x0F, 0x01, 0xC1]) pagingBase slot = 0 := by
    rw [wordAt_store_of_disjoint _ _ _ _ _ (disjoint_of_le (by simp only [List.length_cons, List.length_nil]; omega))]
    exact wordAt_store_zeros mem pagingBase slot 524288 (by omega)
  unfold pagingWrites pagingTable
  simp only [storeAll_cons, storeAll_append, storeAll_nil, pagingWord, wordAt_store_word, wordAt_storeAll_range,
    hzero]

end vwfl.main
