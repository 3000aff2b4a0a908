import Vwfl.ByteStore.Patch
import Vwfl.Main.Writes

open Rust ByteStore LittleEndian
open vwfl.vm vwfl.loaderblock

namespace vwfl.main

/-- Guest memory behind a pointer into the high half. -/
def physical (vaddr : UInt64) : Nat := (vaddr - K_VIRT_ANY).toNat

/-- The forward link of the list entry at a virtual address. -/
def flink (mem : Nat → UInt8) (entry_v : UInt64) : UInt64 := word mem (physical entry_v)

/-- The backward link of the list entry at a virtual address. -/
def blink (mem : Nat → UInt8) (entry_v : UInt64) : UInt64 := word mem (physical entry_v + 8)

theorem physical_eq {vaddr : UInt64} {offset : Nat} (h : vaddr.toNat = K_VIRT_ANY.toNat + offset) :
    physical vaddr = offset := by
  have hbase : K_VIRT_ANY.toNat ≤ vaddr.toNat := by omega
  rw [physical, BitField.toNat_sub_of_le hbase]
  omega

theorem linkWrites_eq (address : Nat) (next_v prev_v : UInt64) (writes : List (Nat × List UInt8)) :
    linkWrites address next_v prev_v ++ writes =
      (address, ofUInt64 next_v) :: (address + 8, ofUInt64 prev_v) :: writes := rfl

variable {start length : Nat}

theorem linkWrites_misses {address : Nat} (next_v prev_v : UInt64) (h : Disjoint start length address 16) :
    Misses start length (linkWrites address next_v prev_v) := by
  refine misses_cons.mpr ⟨?_, misses_cons.mpr ⟨?_, misses_nil start length⟩⟩
  · rw [length_ofUInt64]
    exact h.inner (by omega) (by omega)
  · rw [length_ofUInt64]
    exact h.inner (by omega) (by omega)

/-- Links are read back when every later store misses them. -/
theorem links_survive (mem : Nat → UInt8) {before after : List (Nat × List UInt8)} {address : Nat}
    {entry_v next_v prev_v : UInt64} (hentry : physical entry_v = address) (hafter : Misses address 16 after) :
    flink (storeAll mem (before ++ (linkWrites address next_v prev_v ++ after))) entry_v = next_v ∧
      blink (storeAll mem (before ++ (linkWrites address next_v prev_v ++ after))) entry_v = prev_v := by
  subst hentry
  rw [linkWrites_eq]
  constructor
  · refine word_storeAll_of_split mem next_v (misses_cons.mpr ⟨?_, hafter.mono (by omega) (by omega)⟩)
    exact disjoint_of_le (by rw [length_ofUInt64]; omega)
  · rw [List.append_cons]
    exact word_storeAll_of_split mem prev_v (hafter.mono (by omega) (by omega))

/-- MemoryDescriptorListHead. -/
def mem_head_v : UInt64 := LPB_VBASE + 0x20

/-- Stores for a row of the map and its number. -/
def rowWrites (entry : (UInt64 × UInt64 × UInt32) × Nat) : List (Nat × List UInt8) :=
  let ((base, size, mem_type), i) := entry
  (0x4020000 + i * 0x1000, MEMORY_ALLOCATION_DESCRIPTOR mem_type (base >>> 12) (size >>> 12)) ::
    linkWrites (0x4020000 + i * 0x1000) (if i = 6 then mem_head_v else md_v (i + 1))
      (if i = 0 then mem_head_v else md_v (i - 1))

theorem memoryWrites_eq (hive_size : UInt32) :
    memoryWrites hive_size =
      (memory_map hive_size).zipIdx.flatMap rowWrites ++ linkWrites 0x4000020 (md_v 0) (md_v 6) := rfl

theorem rowWrites_misses (entry : (UInt64 × UInt64 × UInt32) × Nat)
    (h : Disjoint start length (0x4020000 + entry.2 * 0x1000) 0x28) : Misses start length (rowWrites entry) := by
  obtain ⟨⟨base, size, mem_type⟩, i⟩ := entry
  refine misses_cons.mpr ⟨?_, linkWrites_misses _ _ (h.inner (by omega) (by omega))⟩
  rw [length_MEMORY_ALLOCATION_DESCRIPTOR]
  exact h

end vwfl.main
