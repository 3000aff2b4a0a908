import Vwfl.Linked
import Vwfl.Main.Links
import Vwfl.Main.Survival

open Rust ByteStore LittleEndian Linked
open vwfl.vm vwfl.pe vwfl.loader vwfl.loaderblock

namespace vwfl.main

/-- What a memory descriptor tells the guest. -/
structure Descriptor where
  MemoryType : UInt32
  BasePage : UInt64
  PageCount : UInt64

/-- The descriptor at a virtual address, behind its links. -/
def descriptorAt (mem : Nat → UInt8) (entry_v : UInt64) : Descriptor where
  MemoryType := toUInt32 (load mem (physical entry_v + 0x10) 4)
  BasePage := word mem (physical entry_v + 0x18)
  PageCount := word mem (physical entry_v + 0x20)

/-- The guest meets the entry when it follows the list from its head. -/
def Listed (mem : Nat → UInt8) (entry_v : UInt64) : Prop :=
  entry_v ≠ mem_head_v ∧ ∃ steps, (flink mem)^[steps] mem_head_v = entry_v

/-- A listed descriptor of type LoaderFree contains the page. -/
def OfferedFree (mem : Nat → UInt8) (page : Nat) : Prop :=
  ∃ entry_v, Listed mem entry_v ∧ (descriptorAt mem entry_v).MemoryType = 0 ∧
    Within (descriptorAt mem entry_v).BasePage.toNat (descriptorAt mem entry_v).PageCount.toNat page

/-- Start and length of what is in use or absent: the hive, the descriptor and
    page tables, the shared user page, the boot stack, the hole between the two
    memory slots and the ACPI tables. -/
def usedRegions (hive_length : Nat) : List (Nat × Nat) :=
  [(hive_p.toNat, hive_length), (SYSTEM_BASE.toNat, 0x180000), (KUSER_PBASE.toNat, 0x1000),
    (STACK_PBASE.toNat, 0x10000), (MMIO_HOLE_START.toNat, MMIO_HOLE_SIZE.toNat)] ++
    (acpi.tableWrites ACPI_PBASE.toNat ACPI_VBASE).map fun (address, table) => (address, table.length)

/-- No page of what is in use or absent is offered as free. -/
def MapSound (mem : Nat → UInt8) (hive_length : Nat) : Prop :=
  ∀ region ∈ usedRegions hive_length, ∀ address, Within region.1 region.2 address → ¬ OfferedFree mem (address / 0x1000)

theorem physical_md_v {i : Nat} (hi : i < 7) : physical (md_v i) = 0x4020000 + i * 0x1000 := by
  refine physical_eq ?_
  have hbase : (LPB_VBASE + 0x20000).toNat = K_VIRT_ANY.toNat + 0x4020000 := rfl
  have hk : K_VIRT_ANY.toNat = 0xFFFFF80000000000 := rfl
  have hstride : (0x1000 : UInt64).toNat = 0x1000 := rfl
  rw [md_v, BitField.toNat_add_index hbase hstride (by omega)]
  omega

section Rows

variable (mem : Nat → UInt8) (hive_size : UInt32)

/-- The head of the list points to the first and the last row. -/
theorem head_survives :
    flink (storeAll mem (memoryWrites hive_size ++ debug.idtWrites)) mem_head_v = md_v 0 ∧
      blink (storeAll mem (memoryWrites hive_size ++ debug.idtWrites)) mem_head_v = md_v 6 := by
  rw [memoryWrites_eq, List.append_assoc]
  exact links_survive mem (physical_eq (by decide)) (debug.idtWrites_misses (by decide))

/-- Stores for a row. Later ones miss its descriptor. -/
theorem row_split {entry : (UInt64 × UInt64 × UInt32) × Nat} (hrow : entry ∈ (memory_map hive_size).zipIdx) :
    ∃ before later, memoryWrites hive_size ++ debug.idtWrites = before ++ (rowWrites entry ++ later) ∧
      Misses (0x4020000 + entry.2 * 0x1000) 0x28 later := by
  have hi : entry.2 < 7 := List.snd_lt_of_mem_zipIdx hrow
  obtain ⟨earlier, later, hsplit, hlater⟩ := split_of_mem_zipIdx hrow
  have hrest : Misses (0x4020000 + entry.2 * 0x1000) 0x28
      (later.flatMap rowWrites ++ (linkWrites 0x4000020 (md_v 0) (md_v 6) ++ debug.idtWrites)) := by
    refine misses_append.mpr ⟨misses_flatMap ?_, misses_append.mpr ⟨?_, debug.idtWrites_misses (by omega)⟩⟩
    · intro other hother
      have horder := (hlater other hother).2
      exact rowWrites_misses other (disjoint_of_le (by omega))
    · exact linkWrites_misses _ _ (disjoint_of_le (by omega))
  refine ⟨earlier.flatMap rowWrites, _, ?_, hrest⟩
  rw [memoryWrites_eq, hsplit, List.flatMap_append, List.flatMap_cons]
  simp only [List.append_assoc]

/-- A row is linked to its neighbours. -/
theorem row_links {entry : (UInt64 × UInt64 × UInt32) × Nat} (hrow : entry ∈ (memory_map hive_size).zipIdx) :
    flink (storeAll mem (memoryWrites hive_size ++ debug.idtWrites)) (md_v entry.2) =
        (if entry.2 = 6 then mem_head_v else md_v (entry.2 + 1)) ∧
      blink (storeAll mem (memoryWrites hive_size ++ debug.idtWrites)) (md_v entry.2) =
        (if entry.2 = 0 then mem_head_v else md_v (entry.2 - 1)) := by
  have hplace := physical_md_v (show entry.2 < 7 from List.snd_lt_of_mem_zipIdx hrow)
  obtain ⟨before, later, hwrites, hlater⟩ := row_split hive_size hrow
  rw [hwrites, rowWrites, List.cons_append, List.append_cons]
  exact links_survive mem hplace (hlater.mono (by omega) (by omega))

/-- A row holds its base, size and type. -/
theorem row_survives {base size : UInt64} {mem_type : UInt32} {i : Nat}
    (hrow : ((base, size, mem_type), i) ∈ (memory_map hive_size).zipIdx) :
    descriptorAt (storeAll mem (memoryWrites hive_size ++ debug.idtWrites)) (md_v i) =
      ⟨mem_type, base >>> 12, size >>> 12⟩ := by
  have hplace := physical_md_v (show i < 7 from List.snd_lt_of_mem_zipIdx hrow)
  have hlength := length_MEMORY_ALLOCATION_DESCRIPTOR mem_type (base >>> 12) (size >>> 12)
  obtain ⟨htype, hbase, hcount⟩ := fields_MEMORY_ALLOCATION_DESCRIPTOR mem_type (base >>> 12) (size >>> 12)
  obtain ⟨before, later, hwrites, hlater⟩ := row_split hive_size hrow
  rw [hwrites, rowWrites, List.cons_append]
  generalize MEMORY_ALLOCATION_DESCRIPTOR mem_type (base >>> 12) (size >>> 12) = record at hlength htype hbase hcount ⊢
  -- The links overwrite the front of the record only.
  have hbehind : ∀ next_v prev_v, Misses (0x4020000 + i * 0x1000 + 0x10) (record.drop 0x10).length
      (linkWrites (0x4020000 + i * 0x1000) next_v prev_v ++ later) := by
    intro next_v prev_v
    rw [List.length_drop, hlength]
    refine misses_append.mpr ⟨linkWrites_misses _ _ (disjoint_of_le (by omega)), ?_⟩
    exact hlater.mono (by simp only; omega) (by simp only; omega)
  have htail := @load_storeAll_drop _ mem before _ _ _ record (by omega)
    (hbehind (if i = 6 then mem_head_v else md_v (i + 1)) (if i = 0 then mem_head_v else md_v (i - 1)))
  rw [descriptorAt, hplace, word, word, load_of_drop htail (by omega) (by omega),
    load_of_drop htail (by omega) (by omega), load_of_drop htail (by omega) (by omega), htype, hbase, hcount,
    toUInt32_ofUInt32, toUInt64_ofUInt64, toUInt64_ofUInt64]

/-- The entries of the list, its head first. -/
def mapEntry : Nat → UInt64
  | 0 => mem_head_v
  | i + 1 => md_v i

theorem exists_row {i : Nat} (hi : i < 7) :
    ∃ base size mem_type, ((base, size, mem_type), i) ∈ (memory_map hive_size).zipIdx := by
  obtain ⟨⟨⟨base, size, mem_type⟩, _⟩, hrow, rfl⟩ := exists_mem_zipIdx (show i < (memory_map hive_size).length from hi)
  exact ⟨base, size, mem_type, hrow⟩

/-- The list runs through the seven rows and back to its head. -/
theorem memoryWrites_closed :
    Closed (flink (storeAll mem (memoryWrites hive_size ++ debug.idtWrites))) mapEntry 7 := by
  constructor
  · intro i hi
    cases i with
    | zero => exact (head_survives mem hive_size).1
    | succ i =>
      obtain ⟨base, size, mem_type, hrow⟩ := exists_row hive_size (show i < 7 by omega)
      rw [mapEntry, (row_links mem hive_size hrow).1, if_neg (by simp only; omega), mapEntry]
  · obtain ⟨base, size, mem_type, hrow⟩ := exists_row hive_size (show 6 < 7 by omega)
    have hlast := (row_links mem hive_size hrow).1
    rw [if_pos rfl] at hlast
    exact hlast

/-- The same way back. -/
theorem memoryWrites_closedBack :
    ClosedBack (blink (storeAll mem (memoryWrites hive_size ++ debug.idtWrites))) mapEntry 7 := by
  refine ⟨?_, (head_survives mem hive_size).2⟩
  intro i hi
  obtain ⟨base, size, mem_type, hrow⟩ := exists_row hive_size hi
  rw [mapEntry, (row_links mem hive_size hrow).2]
  cases i with
  | zero => rfl
  | succ i => rw [if_neg (by simp only; omega), mapEntry, Nat.add_sub_cancel]

/-- The guest finds the seven rows. -/
theorem listed_iff (entry_v : UInt64) :
    Listed (storeAll mem (memoryWrites hive_size ++ debug.idtWrites)) entry_v ↔ ∃ i < 7, entry_v = md_v i := by
  have hreached := (memoryWrites_closed mem hive_size).reached_iff entry_v
  have hhead : ∀ i < 7, md_v i ≠ mem_head_v := by decide
  constructor
  · rintro ⟨hne, hsteps⟩
    obtain ⟨i, hi, rfl⟩ := hreached.mp hsteps
    cases i with
    | zero => exact absurd rfl hne
    | succ i => exact ⟨i, by omega, rfl⟩
  · rintro ⟨i, hi, rfl⟩
    exact ⟨hhead i hi, hreached.mpr ⟨i + 1, by omega, rfl⟩⟩

/-- A page is offered exactly when it lies in a free row of the map. -/
theorem offeredFree_iff_row (page : Nat) :
    OfferedFree (storeAll mem (memoryWrites hive_size ++ debug.idtWrites)) page ↔
      ∃ row ∈ memory_map hive_size, row.2.2 = 0 ∧ Within (row.1 >>> 12).toNat (row.2.1 >>> 12).toNat page := by
  constructor
  · rintro ⟨entry_v, hlisted, hfree, hpage⟩
    obtain ⟨i, hi, rfl⟩ := (listed_iff mem hive_size entry_v).mp hlisted
    obtain ⟨base, size, mem_type, hrow⟩ := exists_row hive_size hi
    rw [row_survives mem hive_size hrow] at hfree hpage
    exact ⟨(base, size, mem_type), List.fst_mem_of_mem_zipIdx hrow, hfree, hpage⟩
  · rintro ⟨⟨base, size, mem_type⟩, hrow, hfree, hpage⟩
    obtain ⟨i, hi, hget⟩ := List.getElem_of_mem hrow
    have hentry : ((base, size, mem_type), i) ∈ (memory_map hive_size).zipIdx := by
      rw [List.mem_zipIdx_iff_getElem?, List.getElem?_eq_getElem hi, hget]
    refine ⟨md_v i, (listed_iff mem hive_size _).mpr ⟨i, hi, rfl⟩, ?_⟩
    rw [row_survives mem hive_size hentry]
    exact ⟨hfree, hpage⟩

end Rows

/-- First page behind the hive, as the map computes it from the 32-bit size. -/
def hiveEndPage (hive_size : UInt32) : Nat := 0x4200 + (hive_size.toNat + 0xFFF) / 0x1000

theorem hive_end_toNat (hive_size : UInt32) :
    (0x4200000 + ((hive_size.toUInt64 + 0xFFF) &&& ~~~0xFFF)).toNat = 0x1000 * hiveEndPage hive_size := by
  have hsize := hive_size.toNat_lt
  have hmargin : (0xFFF : UInt64).toNat = 0xFFF := rfl
  have hstart : (0x4200000 : UInt64).toNat = 0x4200000 := rfl
  have hsum : (hive_size.toUInt64 + 0xFFF).toNat = hive_size.toNat + 0xFFF := by
    rw [BitField.toNat_add_of_lt (by rw [UInt32.toNat_toUInt64]; omega), UInt32.toNat_toUInt64, hmargin]
  have hround : ((hive_size.toUInt64 + 0xFFF) &&& ~~~0xFFF).toNat = 0x1000 * ((hive_size.toNat + 0xFFF) / 0x1000) := by
    rw [BitField.toNat_and_field _ _ 12 52 rfl, hsum]
    omega
  rw [BitField.toNat_add_of_lt (by omega), hround, hiveEndPage]
  omega

/-- Pages of the free row behind the hive. -/
theorem free_row_pages (hive_size : UInt32) :
    let hive_end := 0x4200000 + ((hive_size.toUInt64 + 0xFFF) &&& ~~~0xFFF)
    hiveEndPage hive_size ≤ 0x104200 ∧ (hive_end >>> 12).toNat = hiveEndPage hive_size ∧
      ((MEM_SIZE - hive_end) >>> 12).toNat = 0x200000 - hiveEndPage hive_size := by
  intro hive_end
  have hsize := hive_size.toNat_lt
  have hend : hive_end.toNat = 0x1000 * hiveEndPage hive_size := hive_end_toNat hive_size
  have hpages : hiveEndPage hive_size ≤ 0x104200 := by
    unfold hiveEndPage
    omega
  have hmemory := MEM_SIZE_toNat
  have hshift : (12 : UInt64).toNat = 12 := rfl
  refine ⟨hpages, ?_, ?_⟩
  · rw [BitField.toNat_shiftRight _ _ (by omega), hend, hshift]
    omega
  · rw [BitField.toNat_shiftRight _ _ (by omega), BitField.toNat_sub_of_le (by omega), hend, hshift]
    omega

/-- The pages offered to the guest: those below the kernel except the first, and
    everything behind the hive up to the size of the host mapping. -/
theorem offeredFree_iff (mem : Nat → UInt8) (hive_size : UInt32) (page : Nat) :
    OfferedFree (storeAll mem (memoryWrites hive_size ++ debug.idtWrites)) page ↔
      (1 ≤ page ∧ page < 0x200) ∨ (hiveEndPage hive_size ≤ page ∧ page < 0x200000) := by
  obtain ⟨hpages, hfirst, hcount⟩ := free_row_pages hive_size
  rw [offeredFree_iff_row]
  have hlow : ((0x1000 : UInt64) >>> 12).toNat = 1 ∧ ((0x1FF000 : UInt64) >>> 12).toNat = 0x1FF := ⟨rfl, rfl⟩
  have hused : (1 : UInt32) ≠ 0 ∧ (7 : UInt32) ≠ 0 ∧ (8 : UInt32) ≠ 0 ∧ (15 : UInt32) ≠ 0 := by decide
  simp only [memory_map, List.mem_cons, List.not_mem_nil, or_false, exists_eq_or_imp, exists_eq_left, hused, hlow,
    false_and, false_or, true_and, Within, hfirst, hcount]
  omega

/-- What is in use apart from the hive ends below four gibibytes, and nothing of
    it lies below the kernel. -/
theorem usedRegions_bounds {hive_length : Nat} {region : Nat × Nat} (hregion : region ∈ usedRegions hive_length) :
    region = (0x4200000, hive_length) ∨ (0x200000 ≤ region.1 ∧ region.1 + region.2 ≤ 0x100000000) := by
  simp only [usedRegions, acpi.tableWrites, List.map_cons, List.map_nil, List.cons_append, List.nil_append,
    List.mem_cons, List.not_mem_nil, or_false] at hregion
  rcases hregion with rfl | rfl | rfl | rfl | rfl | rfl | rfl | rfl | rfl | rfl | rfl
  · exact .inl rfl
  all_goals right
  all_goals simp only [acpi.length_dsdt, acpi.length_madt, acpi.length_fadt, acpi.length_hpet, acpi.length_xsdt,
    acpi.length_rsdp]
  all_goals decide

theorem hole_mem_usedRegions (hive_length : Nat) : (0xC0000000, 0x40000000) ∈ usedRegions hive_length :=
  List.mem_append_left _ (List.mem_cons_of_mem _ (by decide))

/-- The pages that the map computes for a hive spare everything in use exactly
    when its size fits 32 bits and the hive reaches over the hole. -/
theorem memoryWrites_mapSound_iff (mem : Nat → UInt8) {hive_length : Nat}
    (hbound : 0x4200000 + hive_length ≤ MEM_SIZE.toNat) :
    MapSound (storeAll mem (memoryWrites (UInt32.ofNat hive_length) ++ debug.idtWrites)) hive_length ↔
      0xFBDFF000 < hive_length ∧ hive_length < 2 ^ 32 := by
  have hmemory := MEM_SIZE_toNat
  have hsize : (UInt32.ofNat hive_length).toNat = hive_length % 2 ^ 32 := UInt32.toNat_ofNat'
  have hend : hiveEndPage (UInt32.ofNat hive_length) = 0x4200 + (hive_length % 2 ^ 32 + 0xFFF) / 0x1000 := by
    rw [hiveEndPage, hsize]
  constructor
  · intro hsound
    by_contra hnot
    by_cases hwide : hive_length < 2 ^ 32
    · -- The free row starts in front of the last page of the hole.
      refine hsound _ (hole_mem_usedRegions hive_length) 0xFFFFF000 (by decide) ((offeredFree_iff _ _ _).mpr (.inr ?_))
      omega
    · -- The size is cut off, and the free row starts inside the hive.
      refine hsound _ List.mem_cons_self (0x4200000 + (hive_length - 1)) ?_ ((offeredFree_iff _ _ _).mpr (.inr ?_))
      · exact ⟨Nat.le_add_right _ _, Nat.add_lt_add_left (by omega) _⟩
      · omega
  · rintro ⟨hlong, hwide⟩ region hregion address hin hoffered
    have hpages := (offeredFree_iff _ _ _).mp hoffered
    obtain ⟨hlow, hhigh⟩ := hin
    rcases usedRegions_bounds hregion with rfl | ⟨hstart, hstop⟩
    · simp only at hlow hhigh
      omega
    · omega

/-- The map spares what is in use and what is absent only for a hive that
    reaches over the hole: the two rows for the tables and the stack are never
    linked, and the free row behind the hive covers them. -/
theorem mapSound_iff {host : Host} {dir : Directory} {files : BootFiles} {before after : Vm} {kloader : KernelLoader}
    (hmain : (main host dir).run before = .ok kloader after) (hfiles : bootFiles dir = some files) :
    MapSound after.mem files.sys_hive.length ↔
      0xFBDFF000 < files.sys_hive.length ∧ files.sys_hive.length < 2 ^ 32 := by
  obtain ⟨found, middle, hfound, hbound, hmem⟩ := main_closing hmain
  obtain rfl : found = files := Option.some.inj (hfound.symm.trans hfiles)
  rw [hmem]
  exact memoryWrites_mapSound_iff middle hbound

/-- A hive that ends with the hole. -/
def vastFiles : BootFiles := ⟨List.replicate 0xFBE00000 0, [], [], none⟩

theorem mapSound_iff_vastFiles : ∃ kloader after,
    (main releaseHost (bootDirectory vastFiles)).run ⟨fun _ => 0⟩ = .ok kloader after ∧
      MapSound after.mem vastFiles.sys_hive.length := by
  have hlength : vastFiles.sys_hive.length = 0xFBE00000 := List.length_replicate
  have hsize := MEM_SIZE_toNat
  obtain ⟨kloader, loaded, hload⟩ := loadModules_bootDirectory vastFiles
  obtain ⟨after, hmain⟩ := main_run_bootDirectory hload (by omega) (Nat.zero_le _) (Nat.zero_le _) rfl
  refine ⟨kloader, after, hmain, (mapSound_iff hmain (bootFiles_bootDirectory vastFiles)).mpr ?_⟩
  omega

/-- Behind a hive of four bytes the hole is offered as free memory. -/
theorem not_mapSound_fullFiles : ∃ kloader after,
    bootFiles (bootDirectory fullFiles) = some fullFiles ∧
      (main releaseHost (bootDirectory fullFiles)).run ⟨fun _ => 0⟩ = .ok kloader after ∧
      ¬ MapSound after.mem fullFiles.sys_hive.length := by
  obtain ⟨kloader, loaded, hload⟩ := loadModules_bootDirectory fullFiles
  obtain ⟨after, hmain⟩ := main_run_bootDirectory hload (by decide) (by decide) (by decide) rfl
  refine ⟨kloader, after, bootFiles_bootDirectory fullFiles, hmain, ?_⟩
  obtain ⟨found, middle, hfound, hbound, hmem⟩ := main_closing hmain
  obtain rfl : found = fullFiles := Option.some.inj (hfound.symm.trans (bootFiles_bootDirectory fullFiles))
  rw [hmem, memoryWrites_mapSound_iff middle hbound]
  decide

end vwfl.main
