import Vwfl.Acpi.Chain
import Vwfl.Main.Pointers

open Rust ByteStore LittleEndian Linked
open vwfl.vm vwfl.gdb vwfl.pe vwfl.loader vwfl.loaderblock

namespace vwfl.main

variable {host : Host} {files : BootFiles} {modules : List LoadedModule} {mem : Nat → UInt8}
  {links : List (GuestObject × UInt64)}

section Fields

/-- The stores of `main` around those for the modules. -/
theorem bootWrites_register (host : Host) (files : BootFiles) (modules : List LoadedModule) :
    bootWrites host files modules =
      ((0x4200000, files.sys_hive) :: nlsWrites files.ansi_data files.oem_data ++
        (blockWrites (UInt32.ofNat files.sys_hive.length) ++ schemaWrites files.apiset_buf)) ++
        (registerWrites host.cases modules ++
          closingWrites host (UInt32.ofNat files.sys_hive.length) modules) := by
  simp only [bootWrites, lateWrites, List.append_assoc, List.cons_append, List.nil_append]

-- Guest memory behind the page tables, and a word of it.
variable (mem : Nat → UInt8) (hapart : PointersApart host files modules) {field : Nat}
  (hslots : ∀ slot ∈ resolvedSlots ⟨host.profile, host.cases, modules⟩, Disjoint field 8 slot 8)

/-- A word is settled as soon as the later stores miss it. -/
theorem word_of_stage {front stage later : List (Nat × List UInt8)}
    (hsplit : bootWrites host files modules = front ++ (stage ++ later)) (hlater : Misses field 8 later) :
    word (storeAll mem (bootWrites host files modules)) field = word (storeAll (storeAll mem front) stage) field := by
  rw [hsplit, storeAll_append, storeAll_append, word, word, load_storeAll_of_disjoint _ _ hlater]

include hapart hslots

/-- The schema, the modules and everything behind them miss a word in front of
    the nodes that is no list head, and a word of the ACPI tables. -/
theorem schemaOn_misses (harea : 0x4008000 ≤ field ∧ field + 8 ≤ 0x4008A18 ∨ 0x4008A28 ≤ field ∧ field + 8 ≤ 0x4008A80 ∨
      0x4027000 ≤ field ∧ field + 8 ≤ 0x4040000 ∨ 0x5000000 ≤ field ∧ field + 8 ≤ 0x8000000) :
    Misses field 8 (schemaWrites files.apiset_buf ++
      (registerWrites host.cases modules ++ closingWrites host (UInt32.ofNat files.sys_hive.length) modules)) := by
  refine misses_append.mpr ⟨schemaWrites_misses ?_ (disjoint_of_le (by omega)), misses_append.mpr ⟨?_, ?_⟩⟩
  · intro apiset_buf hbuf
    have hend := hapart.schema apiset_buf hbuf
    exact disjoint_of_le (by omega)
  · refine registerWrites_misses host.cases hapart.nodesApart (disjoint_of_le (by omega)) (disjoint_of_le (by omega)) ?_
    intro entry hentry
    have hend := hapart.ends entry hentry
    omega
  · exact closingWrites_misses _ (by omega) hslots

/-- A field of the block that points to the code pages. -/
theorem nls_word {index : Nat} {value : UInt64} (hfield : field = 0x4030000 + index)
    (hvalue : ((NLS_DATA_BLOCK ansi_v oem_v case_v 0 0).drop index).take 8 = ofUInt64 value) (hindex : index + 8 ≤ 40) :
    word (storeAll mem (bootWrites host files modules)) field = value := by
  have hsplit : bootWrites host files modules =
      [(0x4200000, files.sys_hive), (0x4031000, files.ansi_data), (0x4041000, files.oem_data),
        (0x4051000, generate_windows_upcase_table)] ++
        (0x4030000, NLS_DATA_BLOCK ansi_v oem_v case_v 0 0) :: lateWrites host files modules := rfl
  have hlater : Misses field 8 (lateWrites host files modules) := by
    refine misses_append.mpr ⟨?_, schemaOn_misses hapart hslots (by omega)⟩
    refine misses_append.mpr ⟨Kpcr.writes_misses (disjoint_of_le (by omega)), misses_append.mpr
      ⟨LoaderParameterBlock.writes_misses (disjoint_of_le (by omega)) (disjoint_of_le (by omega)), misses_append.mpr
        ⟨acpi.tableWrites_misses _ (disjoint_of_le (by omega)), misses_append.mpr
          ⟨LoaderParameterExtension.writes_misses (disjoint_of_le (by omega)),
            acpiFields_misses (disjoint_of_le (by omega))⟩⟩⟩⟩
  subst hfield
  rw [hsplit, word, load_storeAll_inside mem (by rw [length_NLS_DATA_BLOCK]; omega) hlater, hvalue, toUInt64_ofUInt64]

/-- A pointer in one of the ACPI tables. -/
theorem acpi_word {address offset : Nat} {table : List UInt8} {value : UInt64} (hfield : field = address + offset)
    (htable : (address, table) ∈ acpi.tableWrites 0x5000000 ACPI_VBASE) (hpart : HoldsAt table offset (ofUInt64 value))
    (harea : 0x5000000 ≤ field ∧ field + 8 ≤ 0x8000000) :
    word (storeAll mem (bootWrites host files modules)) field = value := by
  have hsplit : bootWrites host files modules =
      ((0x4200000, files.sys_hive) :: nlsWrites files.ansi_data files.oem_data ++
        (Kpcr.writes KPCR_VBASE 0x4010000 gdt_v idt_v tss_v stack_v ++
          LoaderParameterBlock.writes LPB_VBASE 0x4000000 (KPCR_VBASE + 0x180) stack_v 0x10000 hive_v
            (UInt32.ofNat files.sys_hive.length) nls_v_base)) ++
        (acpi.tableWrites 0x5000000 ACPI_VBASE ++ ((LoaderParameterExtension.writes ext_v 0x4008000 ++
          [(0x4008078, ofUInt64 ACPI_VBASE), (0x4008080, ofUInt32 36)]) ++ (schemaWrites files.apiset_buf ++
            (registerWrites host.cases modules ++
              closingWrites host (UInt32.ofNat files.sys_hive.length) modules)))) := by
    simp only [bootWrites, lateWrites, blockWrites, List.append_assoc, List.cons_append, List.nil_append]
  have hlater := misses_append.mpr ⟨misses_append.mpr
    ⟨@LoaderParameterExtension.writes_misses field 8 ext_v 0x4008000 (disjoint_of_le (by omega)),
      acpiFields_misses (disjoint_of_le (by omega))⟩, schemaOn_misses hapart hslots (by omega)⟩
  rw [word_of_stage mem hsplit hlater, hfield]
  exact acpi.word_of_holdsAt (load_storeAll_of_mem _ (acpi.tableWrites_pairwise 0x5000000 ACPI_VBASE) htable) hpart

/-- The extension names the ACPI tables, and its last link leads back into it. -/
theorem extension_word :
    (field = 0x4008078 → word (storeAll mem (bootWrites host files modules)) field = ACPI_VBASE) ∧
      (field = 0x4008A28 → word (storeAll mem (bootWrites host files modules)) field = ext_v + 0xA18) := by
  have hsplit : bootWrites host files modules =
      ((0x4200000, files.sys_hive) :: nlsWrites files.ansi_data files.oem_data ++
        (Kpcr.writes KPCR_VBASE 0x4010000 gdt_v idt_v tss_v stack_v ++
          (LoaderParameterBlock.writes LPB_VBASE 0x4000000 (KPCR_VBASE + 0x180) stack_v 0x10000 hive_v
            (UInt32.ofNat files.sys_hive.length) nls_v_base ++ acpi.tableWrites 0x5000000 ACPI_VBASE))) ++
        (0x4008000, (LOADER_PARAMETER_EXTENSION 0xE38 0x4000 (ext_v + 0xA18) (ext_v + 0xA18) 10 0).take 0xE38) ::
          ([(0x4008078, ofUInt64 ACPI_VBASE), (0x4008080, ofUInt32 36)] ++ (schemaWrites files.apiset_buf ++
            (registerWrites host.cases modules ++
              closingWrites host (UInt32.ofNat files.sys_hive.length) modules))) := by
    simp only [bootWrites, lateWrites, blockWrites, LoaderParameterExtension.writes, List.append_assoc,
      List.cons_append, List.nil_append]
  have hrecord := length_LOADER_PARAMETER_EXTENSION 0xE38 0x4000 (ext_v + 0xA18) (ext_v + 0xA18) 10 0
  have hlink := (fields_LOADER_PARAMETER_EXTENSION 0xE38 0x4000 (ext_v + 0xA18) (ext_v + 0xA18) 10 0).2.2
  rw [hsplit]
  generalize LOADER_PARAMETER_EXTENSION 0xE38 0x4000 (ext_v + 0xA18) (ext_v + 0xA18) 10 0 = record at hrecord hlink ⊢
  constructor
  · rintro rfl
    rw [List.append_cons, List.cons_append]
    refine word_storeAll_of_split mem ACPI_VBASE (misses_cons.mpr ⟨?_, schemaOn_misses hapart hslots (by omega)⟩)
    exact disjoint_of_le (by simp only [length_ofUInt32]; omega)
  · rintro rfl
    have hpart : ((record.take 0xE38).drop 0xA28).take 8 = ofUInt64 (ext_v + 0xA18) := by
      rw [List.drop_take, List.take_take, Nat.min_eq_left (by decide), hlink]
    have hlater := misses_append.mpr
      ⟨@acpiFields_misses 0x4008A28 8 (disjoint_of_le (by omega)), schemaOn_misses hapart hslots (by omega)⟩
    rw [word, @load_storeAll_inside _ mem _ _ 0x4008000 0xA28 8 (record.take 0xE38)
      (by rw [List.length_take, hrecord]; omega) hlater, hpart, toUInt64_ofUInt64]

/-- The extension names the schema. -/
theorem schema_word {apiset_buf : List UInt8} (hbuf : files.apiset_buf = some apiset_buf) (hfield : field = 0x4008A80) :
    word (storeAll mem (bootWrites host files modules)) field = apiset_v + 0x2000 := by
  subst hfield
  have hsplit : bootWrites host files modules =
      ((0x4200000, files.sys_hive) :: nlsWrites files.ansi_data files.oem_data ++
        (blockWrites (UInt32.ofNat files.sys_hive.length) ++ [(0x4060000, apiset_buf)])) ++
        (0x4008A80, ofUInt64 (apiset_v + 0x2000)) ::
          ((0x4008A88, ofUInt32 (UInt32.ofNat apiset_buf.length - 0x2000)) :: (registerWrites host.cases modules ++
            closingWrites host (UInt32.ofNat files.sys_hive.length) modules)) := by
    simp only [bootWrites, lateWrites, hbuf, schemaWrites, apisetWrites, List.append_assoc, List.cons_append,
      List.nil_append]
  rw [hsplit]
  refine word_storeAll_of_split mem _ (misses_cons.mpr ⟨?_, misses_append.mpr ⟨?_, ?_⟩⟩)
  · exact disjoint_of_le (by simp only [length_ofUInt32]; omega)
  · exact registerWrites_misses host.cases hapart.nodesApart (disjoint_of_le (by omega)) (disjoint_of_le (by omega))
      fun entry _ => .inl (by omega)
  · exact closingWrites_misses _ (by omega) hslots

/-- A node names its module's name. -/
theorem name_word {entry : LoadedModule × Nat} (hentry : entry ∈ modules.zipIdx)
    (hfield : field = 0x4040050 + 0x1000 * entry.2 ∨ field = 0x4040060 + 0x1000 * entry.2) :
    word (storeAll mem (bootWrites host files modules)) field = (nodeAt entry.2).1 + 0x150 := by
  have hplace := hapart.nodesApart.node_toNat hentry
  have hend := hapart.ends entry hentry
  have hlinks := linkBytes_bounds host.cases entry.1.name
  obtain ⟨_, _, _, hfull, _, hbase⟩ := fields_nodeRecord entry
  have hclosing := closingWrites_misses (UInt32.ofNat files.sys_hive.length) (by omega) hslots
  have hpart : ∀ index, field = (nodeAt entry.2).2.toNat + index → 0x30 ≤ index → index + 8 ≤ 0x120 →
      load (storeAll mem (bootWrites host files modules)) field 8 = ((nodeRecord entry).drop index).take 8 := by
    rintro index rfl hlow hhigh
    rw [bootWrites_register]
    exact nodeRecord_survives mem host.cases _ hapart.nodesApart hentry (by omega) hhigh hclosing
  rw [word]
  rcases hfield with hfield | hfield
  · rw [hpart 0x50 (by omega) (by omega) (by omega), hfull, toUInt64_ofUInt64]
  · rw [hpart 0x60 (by omega) (by omega) (by omega), hbase, toUInt64_ofUInt64]

end Fields

section Lists

/-- The links of a circular list hold the pointers of the ring. -/
theorem ring_held {entry : Nat → UInt64} {count : Nat} (hlength : links.length = count + 1)
    (hentry : ∀ i (hi : i < links.length), links[i].1.vaddr + links[i].2 = entry i ∧
      physical (entry i) = links[i].1.paddr + links[i].2.toNat)
    (hclosed : Closed (flink mem) entry count) (hback : ClosedBack (blink mem) entry count) :
    ∀ pointer ∈ ringPointers links, word mem pointer.field = pointer.value := by
  intro pointer hpointer
  obtain ⟨⟨first, next⟩, hpair, hpointer⟩ := List.mem_flatMap.mp hpointer
  obtain ⟨i, hi, hget⟩ := List.getElem_of_mem hpair
  rw [List.length_zip, List.length_rotate, Nat.min_self] at hi
  rw [List.getElem_zip, List.getElem_rotate, Prod.mk.injEq] at hget
  obtain ⟨rfl, rfl⟩ := hget
  have hwrap : (i + 1) % links.length < links.length := Nat.mod_lt _ (by omega)
  obtain ⟨hvalue, hplace⟩ := hentry i hi
  obtain ⟨hnextValue, hnextPlace⟩ := hentry _ hwrap
  have hlinks : flink mem (entry i) = entry ((i + 1) % links.length) ∧
      blink mem (entry ((i + 1) % links.length)) = entry i := by
    by_cases hlast : i = count
    · have hzero : (i + 1) % links.length = 0 := by rw [hlast, hlength, Nat.mod_self]
      rw [hzero, hlast]
      exact ⟨hclosed.last, hback.last⟩
    · rw [Nat.mod_eq_of_lt (by omega)]
      exact ⟨hclosed.step i (by omega), hback.step i (by omega)⟩
  simp only [List.mem_cons, List.not_mem_nil, or_false] at hpointer
  rcases hpointer with rfl | rfl
  · rw [Pointer.value, hnextValue, ← hplace]
    exact hlinks.1
  · rw [Pointer.value, hvalue, ← hnextPlace]
    exact hlinks.2

variable (mem : Nat → UInt8) (hapart : PointersApart host files modules)

include hapart

omit hapart in
/-- Links that the stores for the modules leave hold behind all stores of
    `main`. -/
theorem register_ring {entry : Nat → UInt64} {count : Nat} (hlength : links.length = count + 1)
    (hspare : SlotsSpare host modules (ringPointers links))
    (hentry : ∀ i (hi : i < links.length), links[i].1.vaddr + links[i].2 = entry i ∧
      physical (entry i) = links[i].1.paddr + links[i].2.toNat)
    (hplaces : ∀ link ∈ links, link.1.paddr + link.2.toNat + 16 ≤ 0x4000020 ∨
      0x4000030 ≤ link.1.paddr + link.2.toNat ∧ link.1.paddr + link.2.toNat + 16 ≤ 0x4020000 ∨
        0x4027000 ≤ link.1.paddr + link.2.toNat ∧ link.1.paddr + link.2.toNat + 16 ≤ 0x8000000)
    (hclosed : ∀ cells, Closed (flink (storeAll cells (registerWrites host.cases modules))) entry count)
    (hback : ∀ cells, ClosedBack (blink (storeAll cells (registerWrites host.cases modules))) entry count) :
    ∀ pointer ∈ ringPointers links, word (storeAll mem (bootWrites host files modules)) pointer.field =
      pointer.value := by
  intro pointer hpointer
  obtain ⟨_, link, hlink, hfield⟩ := mem_ringPointers hpointer
  have hplace := hplaces link hlink
  have hclosing := closingWrites_misses (UInt32.ofNat files.sys_hive.length) (by omega) (hspare pointer hpointer)
  rw [word_of_stage mem (bootWrites_register host files modules) hclosing]
  exact ring_held hlength hentry (hclosed _) (hback _) pointer hpointer

theorem loadOrder_ring (hne : 0 < modules.length)
    (hspare : SlotsSpare host modules (ringPointers ((blockObject (UInt32.ofNat files.sys_hive.length), 0x10) ::
      modules.zipIdx.map fun entry => (nodeObject entry, 0)))) :
    ∀ pointer ∈ ringPointers ((blockObject (UInt32.ofNat files.sys_hive.length), 0x10) ::
      modules.zipIdx.map fun entry => (nodeObject entry, 0)),
        word (storeAll mem (bootWrites host files modules)) pointer.field = pointer.value := by
  have hinside := hapart.nodesApart.inside
  refine register_ring mem (by simp) hspare ?_ ?_ (fun cells => loadOrder_closed cells host.cases hinside hne)
    fun cells => loadOrder_closedBack cells host.cases hinside hne
  · intro i hi
    cases i with
    | zero => exact ⟨rfl, show physical head_v1 = 0x4000010 from physical_eq (by decide)⟩
    | succ i =>
      have hi : i < modules.length := by simpa using hi
      simp only [List.getElem_cons_succ, List.getElem_map, List.getElem_zipIdx, nodeObject, Nat.zero_add,
        UInt64.add_zero, loadOrderEntry]
      exact ⟨trivial, physical_node hinside hi⟩
  · intro link hlink
    rcases List.mem_cons.mp hlink with rfl | hlink
    · exact .inl (show 0x4000000 + (0x10 : UInt64).toNat + 16 ≤ 0x4000020 by decide)
    · obtain ⟨entry, hentry, rfl⟩ := List.mem_map.mp hlink
      have hend := hapart.ends entry hentry
      have hzero : (0 : UInt64).toNat = 0 := rfl
      simp only [nodeObject, hzero]
      omega

theorem memoryOrder_ring (hne : 0 < modules.length)
    (hspare : SlotsSpare host modules (ringPointers (modules.zipIdx.map fun entry => (nodeObject entry, 0x10)))) :
    ∀ pointer ∈ ringPointers (modules.zipIdx.map fun entry => (nodeObject entry, 0x10)),
        word (storeAll mem (bootWrites host files modules)) pointer.field = pointer.value := by
  have hinside := hapart.nodesApart.inside
  have hskip : (0x10 : UInt64).toNat = 0x10 := rfl
  refine register_ring mem (by rw [List.length_map, List.length_zipIdx]; omega) hspare ?_ ?_
    (fun cells => memoryOrder_closed cells host.cases hinside hne)
    fun cells => memoryOrder_closedBack cells host.cases hinside hne
  · intro i hi
    have hi : i < modules.length := by simpa using hi
    simp only [List.getElem_map, List.getElem_zipIdx, nodeObject, Nat.zero_add]
    exact ⟨trivial, physical_node_add hinside hi hskip (by omega)⟩
  · intro link hlink
    obtain ⟨entry, hentry, rfl⟩ := List.mem_map.mp hlink
    have hend := hapart.ends entry hentry
    simp only [nodeObject, hskip]
    omega

/-- The list of boot drivers is empty. -/
theorem bootDriver_ring
    (hspare : SlotsSpare host modules (ringPointers [(blockObject (UInt32.ofNat files.sys_hive.length), 0x30)])) :
    ∀ pointer ∈ ringPointers [(blockObject (UInt32.ofNat files.sys_hive.length), 0x30)],
        word (storeAll mem (bootWrites host files modules)) pointer.field = pointer.value := by
  have hplace : physical (LPB_VBASE + 0x30) = 0x4000030 := physical_eq (by decide)
  have hself : ∀ cells, flink (storeAll cells (registerWrites host.cases modules)) (LPB_VBASE + 0x30) =
      LPB_VBASE + 0x30 ∧ blink (storeAll cells (registerWrites host.cases modules)) (LPB_VBASE + 0x30) =
        LPB_VBASE + 0x30 := by
    intro cells
    obtain ⟨front, hfront⟩ := registerWrites_split host.cases modules
    rw [hfront, loadOrderLinks_eq, ← List.append_assoc]
    refine links_survive cells hplace ?_
    exact orderWrites_misses hapart.nodesApart.inside _ (fun _ hentry => hentry) fun entry _ =>
      disjoint_of_le (by omega)
  refine @register_ring host files modules _ mem (fun _ => LPB_VBASE + 0x30) 0 rfl hspare ?_ ?_
    (fun cells => ⟨fun i hi => absurd hi (Nat.not_lt_zero i), (hself cells).1⟩)
    fun cells => ⟨fun i hi => absurd hi (Nat.not_lt_zero i), (hself cells).2⟩
  · intro i hi
    obtain rfl : i = 0 := by simpa using hi
    exact ⟨rfl, hplace⟩
  · intro link hlink
    obtain rfl := List.mem_singleton.mp hlink
    have hoffset : 0x4000000 + (0x30 : UInt64).toNat = 0x4000030 := rfl
    simp only [blockObject, hoffset]
    omega

theorem halExt_inside : ∀ i ∈ halExtIndices host.cases modules, 0x4040030 + 0x1000 * i ≤ MEM_SIZE.toNat := by
  intro i hi
  obtain ⟨entry, hentry, rfl⟩ := List.mem_map.mp hi
  have hend := hapart.ends entry (List.mem_of_mem_filter hentry)
  have hsize := MEM_SIZE_toNat
  omega

/-- The load-order links spare the links of the HAL extensions. -/
theorem halExt_kept (cells : Nat → UInt8) {i : Nat} (hi : i ≤ (halExtIndices host.cases modules).length)
    (hne : halExtIndices host.cases modules ≠ []) :
    let linked := storeAll (storeAll cells (modules.zipIdx.flatMap nodeWrites))
      (halExtLinks ((halExtIndices host.cases modules).map nodeAt))
    flink (storeAll cells (registerWrites host.cases modules)) (halExtEntry (halExtIndices host.cases modules) i) =
        flink linked (halExtEntry (halExtIndices host.cases modules) i) ∧
      blink (storeAll cells (registerWrites host.cases modules)) (halExtEntry (halExtIndices host.cases modules) i) =
        blink linked (halExtEntry (halExtIndices host.cases modules) i) := by
  intro linked
  have hwrites : registerWrites host.cases modules = modules.zipIdx.flatMap nodeWrites ++
      (halExtLinks ((halExtIndices host.cases modules).map nodeAt) ++
        loadOrderLinks ((List.range modules.length).map nodeAt)) := by
    rw [registerWrites, moduleLinks, halExtNodes_eq, if_neg (by simpa using hne)]
  have hmisses : Misses (physical (halExtEntry (halExtIndices host.cases modules) i)) 16
      (loadOrderLinks ((List.range modules.length).map nodeAt)) := by
    have hplace : physical (halExtEntry (halExtIndices host.cases modules) i) = 0x4008A18 ∨
        ∃ number, physical (halExtEntry (halExtIndices host.cases modules) i) = 0x4040020 + 0x1000 * number := by
      cases i with
      | zero => exact .inl (show physical hal_ext_head_v = 0x4008A18 from rfl)
      | succ i =>
        exact .inr ⟨_, physical_halExtEntry (halExt_inside hapart) hi⟩
    rw [loadOrderLinks_eq]
    refine misses_append.mpr ⟨linkWrites_misses _ _ (disjoint_of_le (by omega)), misses_append.mpr
      ⟨linkWrites_misses _ _ (disjoint_of_le (by omega)), ?_⟩⟩
    exact orderWrites_misses hapart.nodesApart.inside _ (fun _ hentry => hentry) fun entry _ =>
      disjoint_of_le (by omega)
  rw [hwrites, storeAll_append, storeAll_append]
  constructor
  · rw [flink, flink, word, word, load_storeAll_of_disjoint _ _ (hmisses.mono (by omega) (by omega))]
  · rw [blink, blink, word, word, load_storeAll_of_disjoint _ _ (hmisses.mono (by omega) (by omega))]

/-- With a HAL extension the list through the extensions holds. -/
theorem halExt_ring (hne : halExtIndices host.cases modules ≠ [])
    (hspare : SlotsSpare host modules (ringPointers (halExtRing host.cases modules))) :
    ∀ pointer ∈ ringPointers (halExtRing host.cases modules),
        word (storeAll mem (bootWrites host files modules)) pointer.field = pointer.value := by
  have hinside := halExt_inside hapart
  have hpairwise := halExtIndices_pairwise host.cases modules
  have hpositive := List.length_pos_iff.mpr hne
  have hcount : (halExtRing host.cases modules).length = (halExtIndices host.cases modules).length + 1 := by
    rw [halExtRing, halExtIndices, List.length_cons, List.length_map, List.length_map]
  have hoffset : (0x20 : UInt64).toNat = 0x20 := rfl
  refine register_ring mem hcount hspare ?_ ?_
    (fun cells => (halExt_closed hinside _ hpairwise hpositive).congr fun i hi => (halExt_kept hapart cells hi hne).1)
    fun cells => (halExt_closedBack hinside _ hpairwise hpositive).congr fun i hi => (halExt_kept hapart cells hi hne).2
  · intro i hi
    cases i with
    | zero => exact ⟨rfl, show physical hal_ext_head_v = 0x4008A18 from rfl⟩
    | succ i =>
      have hindex : i < (halExtIndices host.cases modules).length := by omega
      rw [physical_halExtEntry hinside hindex, halExtEntry, List.getD_eq_getElem?_getD,
        List.getElem?_eq_getElem hindex, Option.getD_some]
      simp only [halExtRing, halExtIndices, List.getElem_cons_succ, List.getElem_map, nodeObject, hoffset, initLinks]
      exact ⟨trivial, by omega⟩
  · intro link hlink
    rcases List.mem_cons.mp hlink with rfl | hlink
    · have hhead : 0x4008000 + (0xA18 : UInt64).toNat = 0x4008A18 := rfl
      simp only [extensionObject, hhead]
      omega
    · obtain ⟨entry, hentry, rfl⟩ := List.mem_map.mp hlink
      have hend := hapart.ends entry (List.mem_of_mem_filter hentry)
      simp only [nodeObject, hoffset]
      omega

omit hapart in
theorem memory_ring : ∀ pointer ∈ ringPointers ((blockObject (UInt32.ofNat files.sys_hive.length), 0x20) ::
      (memory_map (UInt32.ofNat files.sys_hive.length)).zipIdx.map fun entry => (rowObject entry, 0)),
    word (storeAll mem (bootWrites host files modules)) pointer.field = pointer.value := by
  intro pointer hpointer
  have hsplit : bootWrites host files modules =
      ((0x4200000, files.sys_hive) :: nlsWrites files.ansi_data files.oem_data ++
        (blockWrites (UInt32.ofNat files.sys_hive.length) ++ (schemaWrites files.apiset_buf ++
          (registerWrites host.cases modules ++ (slotWrites ⟨host.profile, host.cases, modules⟩ ++ gdtWrites))))) ++
        ((memoryWrites (UInt32.ofNat files.sys_hive.length) ++ debug.idtWrites) ++ []) := by
    simp only [bootWrites, lateWrites, closingWrites, List.append_assoc, List.cons_append, List.nil_append,
      List.append_nil]
  rw [word_of_stage mem hsplit (misses_nil _ _)]
  refine ring_held (show _ = 7 + 1 from rfl) ?_ (memoryWrites_closed _ _) (memoryWrites_closedBack _ _) pointer hpointer
  intro i hi
  cases i with
  | zero => exact ⟨rfl, show physical mem_head_v = 0x4000020 from physical_eq (by decide)⟩
  | succ i =>
    have hi : i < 7 := Nat.lt_of_succ_lt_succ hi
    have hzero : (0 : UInt64).toNat = 0 := rfl
    simp only [List.getElem_cons_succ, List.getElem_map, List.getElem_zipIdx, rowObject, Nat.zero_add,
      UInt64.add_zero, mapEntry, hzero, Nat.add_zero]
    exact ⟨trivial, physical_md_v hi⟩

end Lists

end vwfl.main
