import Vwfl.Main.MemoryMap

open Rust ByteStore Linked
open vwfl.vm vwfl.loader vwfl.loaderblock

namespace vwfl.main

/-- Entries that the guest meets from the head of the list until it is back
    there. -/
structure InListOrder (mem : Nat → UInt8) (entries : List UInt64) : Prop where
  met : ∀ index (h : index < entries.length), entries[index] = (flink mem)^[index + 1] mem_head_v
  apart : mem_head_v ∉ entries
  back : (flink mem)^[entries.length + 1] mem_head_v = mem_head_v

/-- Descriptors that take the pages from `start` to `stop`, one behind the
    other. -/
def Tiles : Nat → List Descriptor → Nat → Prop
  | start, [], stop => start = stop
  | start, descriptor :: rest, stop =>
    descriptor.BasePage.toNat = start ∧ Tiles (start + descriptor.PageCount.toNat) rest stop

/-- The descriptor of type LoaderMemoryData at the first page of the hive. -/
def Descriptor.IsHive (self : Descriptor) : Prop :=
  self.MemoryType = 15 ∧ self.BasePage.toNat = hive_p.toNat / 0x1000

/-- The list tiles guest memory from its first page to its end, and the
    descriptor of the hive contains every page with bytes of the hive. -/
def MapTiles (mem : Nat → UInt8) (hive_length : Nat) : Prop :=
  ∃ entries, InListOrder mem entries ∧ Tiles 0 (entries.map (descriptorAt mem)) (MEM_SIZE.toNat / 0x1000) ∧
    ∃ entry ∈ entries, (descriptorAt mem entry).IsHive ∧
      ∀ address, Within hive_p.toNat hive_length address →
        Within (descriptorAt mem entry).BasePage.toNat (descriptorAt mem entry).PageCount.toNat (address / 0x1000)

/-- A list that runs through the seven rows has them in this order. -/
theorem inListOrder_iff {mem : Nat → UInt8} (hclosed : Closed (flink mem) mapEntry 7) (entries : List UInt64) :
    InListOrder mem entries ↔ entries = (List.range 7).map md_v := by
  have hhead : ∀ i < 7, md_v i ≠ mem_head_v := by decide
  have hiterate : ∀ steps, (flink mem)^[steps] mem_head_v = mapEntry (steps % 8) := hclosed.iterate
  constructor
  · rintro ⟨hmet, hapart, hback⟩
    -- The walk is back after eight steps for the first time.
    have hlength : entries.length = 7 := by
      have hshort : entries.length < 8 := by
        by_contra hlong
        have heighth : entries[7] = mem_head_v := by
          rw [hmet, hiterate]
          rfl
        exact hapart (heighth ▸ List.getElem_mem _)
      rw [hiterate] at hback
      by_contra hother
      rw [Nat.mod_eq_of_lt (by omega)] at hback
      exact hhead _ (by omega) hback
    refine List.ext_getElem (by rw [hlength]; rfl) ?_
    intro index hindex _
    rw [hmet index hindex, hiterate, Nat.mod_eq_of_lt (by omega), List.getElem_map, List.getElem_range]
    rfl
  · rintro rfl
    constructor
    · intro index hindex
      rw [List.length_map, List.length_range] at hindex
      rw [List.getElem_map, List.getElem_range, hiterate, Nat.mod_eq_of_lt (by omega)]
      rfl
    · intro hmem
      obtain ⟨i, hi, hentry⟩ := List.mem_map.mp hmem
      exact hhead i (List.mem_range.mp hi) hentry
    · rw [List.length_map, List.length_range, hiterate]
      rfl

/-- The descriptor that a row of the map becomes. -/
def rowDescriptor (row : UInt64 × UInt64 × UInt32) : Descriptor where
  MemoryType := row.2.2
  BasePage := row.1 >>> 12
  PageCount := row.2.1 >>> 12

def mapDescriptors (hive_size : UInt32) : List Descriptor := (memory_map hive_size).map rowDescriptor

theorem descriptors_eq (mem : Nat → UInt8) (hive_size : UInt32) :
    ((List.range 7).map md_v).map (descriptorAt (storeAll mem (memoryWrites hive_size ++ debug.idtWrites))) =
      mapDescriptors hive_size := by
  refine List.ext_getElem
    (by rw [List.length_map, List.length_map, List.length_range, mapDescriptors, List.length_map]; rfl) ?_
  intro index hindex hrow
  rw [List.length_map, List.length_map, List.length_range] at hindex
  obtain ⟨base, size, mem_type, hentry⟩ := exists_row hive_size hindex
  obtain ⟨hbound, hget⟩ := List.getElem?_eq_some_iff.mp (List.mem_zipIdx_iff_getElem?.mp hentry)
  rw [List.getElem_map, List.getElem_map, List.getElem_range, row_survives mem hive_size hentry]
  simp only [mapDescriptors, List.getElem_map, hget, rowDescriptor]

theorem hive_pages (hive_size : UInt32) : (hive_size.toUInt64 >>> 12).toNat = hive_size.toNat / 0x1000 := by
  rw [BitField.toNat_shiftRight _ _ (by decide), UInt32.toNat_toUInt64]
  rfl

/-- The rows tile guest memory exactly when the size of the hive is a whole
    number of pages. -/
theorem mapDescriptors_tile_iff (hive_size : UInt32) :
    Tiles 0 (mapDescriptors hive_size) (MEM_SIZE.toNat / 0x1000) ↔ hive_size.toNat % 0x1000 = 0 := by
  obtain ⟨hpages, hfirst, hcount⟩ := free_row_pages hive_size
  have hpage : ((0 : UInt64) >>> 12).toNat = 0 ∧ ((0x1000 : UInt64) >>> 12).toNat = 1 ∧
      ((0x200000 : UInt64) >>> 12).toNat = 0x200 ∧ ((0x2000000 : UInt64) >>> 12).toNat = 0x2000 ∧
      ((0x4000000 : UInt64) >>> 12).toNat = 0x4000 ∧ ((0x4200000 : UInt64) >>> 12).toNat = 0x4200 := by decide
  have hcount_fixed : ((0x1FF000 : UInt64) >>> 12).toNat = 0x1FF ∧ ((0x1E00000 : UInt64) >>> 12).toNat = 0x1E00 := by
    decide
  have hmemory := MEM_SIZE_toNat
  simp only [mapDescriptors, memory_map, List.map_cons, List.map_nil, Tiles, rowDescriptor, hfirst, hcount,
    hive_pages, hpage, hcount_fixed, hmemory, true_and]
  unfold hiveEndPage at hpages ⊢
  omega

theorem exists_hive_descriptor (hive_size : UInt32) : ∃ descriptor ∈ mapDescriptors hive_size, descriptor.IsHive := by
  have hrow : (0x4200000, hive_size.toUInt64, 15) ∈ memory_map hive_size := by simp [memory_map]
  have hbase : ((0x4200000 : UInt64) >>> 12).toNat = hive_p.toNat / 0x1000 := by decide
  exact ⟨_, List.mem_map_of_mem hrow, rfl, hbase⟩

/-- The size of the hive is cut to whole pages in its row. -/
theorem hive_descriptor {hive_size : UInt32} {descriptor : Descriptor}
    (hmem : descriptor ∈ mapDescriptors hive_size) (hhive : descriptor.IsHive) :
    descriptor.BasePage.toNat = 0x4200 ∧ descriptor.PageCount.toNat = hive_size.toNat / 0x1000 := by
  obtain ⟨htype, hbase⟩ := hhive
  refine ⟨hbase, ?_⟩
  obtain ⟨row, hrow, rfl⟩ := List.mem_map.mp hmem
  simp only [rowDescriptor] at htype hbase ⊢
  simp only [memory_map, List.mem_cons, List.not_mem_nil, or_false] at hrow
  rcases hrow with rfl | rfl | rfl | rfl | rfl | rfl | rfl
  case inr.inr.inr.inr.inr.inl => exact hive_pages hive_size
  case inr.inr.inr.inr.inl => exact absurd hbase (by decide)
  all_goals simp at htype

/-- The rows tile guest memory and hold the hive exactly when its length is a
    whole number of pages and fits 32 bits. -/
theorem memoryWrites_mapTiles_iff (mem : Nat → UInt8) {hive_length : Nat}
    (hbound : 0x4200000 + hive_length ≤ MEM_SIZE.toNat) :
    MapTiles (storeAll mem (memoryWrites (UInt32.ofNat hive_length) ++ debug.idtWrites)) hive_length ↔
      hive_length % 0x1000 = 0 ∧ hive_length < 2 ^ 32 := by
  have hmemory := MEM_SIZE_toNat
  have hhive_p : hive_p.toNat = 0x4200000 := rfl
  have hsize : (UInt32.ofNat hive_length).toNat = hive_length % 2 ^ 32 := UInt32.toNat_ofNat'
  have hentries := inListOrder_iff (memoryWrites_closed mem (UInt32.ofNat hive_length))
  have htile := mapDescriptors_tile_iff (UInt32.ofNat hive_length)
  have hdescriptors := descriptors_eq mem (UInt32.ofNat hive_length)
  constructor
  · rintro ⟨entries, horder, htiles, entry, hentry, hhive, hcovers⟩
    obtain rfl := (hentries entries).mp horder
    have hmem : descriptorAt (storeAll mem (memoryWrites (UInt32.ofNat hive_length) ++ debug.idtWrites)) entry ∈
        mapDescriptors (UInt32.ofNat hive_length) := by
      rw [← hdescriptors]
      exact List.mem_map_of_mem hentry
    obtain ⟨hbase, hcount⟩ := hive_descriptor hmem hhive
    rw [hdescriptors, htile, hsize] at htiles
    refine ⟨by omega, ?_⟩
    by_contra hwide
    -- The last byte of a longer hive lies behind the pages of its row.
    obtain ⟨_, hlast⟩ := hcovers (0x4200000 + (hive_length - 1)) ⟨by omega, by omega⟩
    rw [hbase, hcount, hsize] at hlast
    omega
  · rintro ⟨haligned, hwide⟩
    obtain ⟨descriptor, hmem, hhive⟩ := exists_hive_descriptor (UInt32.ofNat hive_length)
    obtain ⟨hbase, hcount⟩ := hive_descriptor hmem hhive
    rw [← hdescriptors] at hmem
    obtain ⟨entry, hentry, rfl⟩ := List.mem_map.mp hmem
    refine ⟨_, (hentries _).mpr rfl, ?_, entry, hentry, hhive, ?_⟩
    · rw [hdescriptors, htile]
      omega
    · rintro address ⟨hlow, hhigh⟩
      rw [hbase, hcount, hsize]
      constructor <;> omega

/-- The descriptors tile guest memory exactly when the hive is a whole number
    of pages and its length fits 32 bits. -/
theorem mapTiles_iff {host : Host} {dir : Directory} {files : BootFiles} {before after : Vm} {kloader : KernelLoader}
    (hmain : (main host dir).run before = .ok kloader after) (hfiles : bootFiles dir = some files) :
    MapTiles after.mem files.sys_hive.length ↔
      files.sys_hive.length % 0x1000 = 0 ∧ files.sys_hive.length < 2 ^ 32 := by
  obtain ⟨found, middle, hfound, hbound, hmem⟩ := main_closing hmain
  obtain rfl : found = files := Option.some.inj (hfound.symm.trans hfiles)
  rw [hmem]
  exact memoryWrites_mapTiles_iff middle hbound

/-- A hive of one page. -/
def pageFiles : BootFiles := ⟨List.replicate 0x1000 0, [], [], none⟩

theorem mapTiles_iff_pageFiles : ∃ kloader after,
    (main releaseHost (bootDirectory pageFiles)).run ⟨fun _ => 0⟩ = .ok kloader after ∧
      MapTiles after.mem pageFiles.sys_hive.length := by
  have hlength : pageFiles.sys_hive.length = 0x1000 := List.length_replicate
  have hsize := MEM_SIZE_toNat
  obtain ⟨kloader, loaded, hload⟩ := loadModules_bootDirectory pageFiles
  obtain ⟨after, hmain⟩ := main_run_bootDirectory hload (by omega) (Nat.zero_le _) (Nat.zero_le _) rfl
  refine ⟨kloader, after, hmain, (mapTiles_iff hmain (bootFiles_bootDirectory pageFiles)).mpr ?_⟩
  omega

/-- The page of a hive of four bytes belongs to no descriptor. -/
theorem not_mapTiles_fullFiles : ∃ kloader after,
    bootFiles (bootDirectory fullFiles) = some fullFiles ∧
      (main releaseHost (bootDirectory fullFiles)).run ⟨fun _ => 0⟩ = .ok kloader after ∧
      ¬ MapTiles after.mem fullFiles.sys_hive.length := by
  obtain ⟨kloader, loaded, hload⟩ := loadModules_bootDirectory fullFiles
  obtain ⟨after, hmain⟩ := main_run_bootDirectory hload (by decide) (by decide) (by decide) rfl
  refine ⟨kloader, after, bootFiles_bootDirectory fullFiles, hmain, ?_⟩
  obtain ⟨found, middle, hfound, hbound, hmem⟩ := main_closing hmain
  obtain rfl : found = fullFiles := Option.some.inj (hfound.symm.trans (bootFiles_bootDirectory fullFiles))
  rw [hmem, memoryWrites_mapTiles_iff middle hbound]
  decide

end vwfl.main
