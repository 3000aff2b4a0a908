import Vwfl.Main.Pointers

open Rust ByteStore LittleEndian
open vwfl.vm vwfl.gdb vwfl.pe vwfl.loader vwfl.loaderblock

namespace vwfl.main

variable {host : Host} {files : BootFiles} {modules : List LoadedModule} {mem : Nat → UInt8} {object : GuestObject}
  {pointer : Pointer} {links : List (GuestObject × UInt64)}

/-- An object whose virtual address is its physical offset in the first gibibyte
    of the high half. -/
structure GuestObject.Direct (object : GuestObject) : Prop where
  vaddr : object.vaddr.toNat = K_VIRT_ANY.toNat + object.paddr
  inside : ∀ write ∈ object.writes, object.paddr ≤ write.1 ∧ write.1 + write.2.length ≤ 2 ^ 30

theorem HoldsTables.direct_reached (hholds : HoldsTables mem 16) (hdirect : object.Direct) : object.Reached mem := by
  intro write hwrite
  obtain ⟨hlow, hhigh⟩ := hdirect.inside write hwrite
  have hk : K_VIRT_ANY.toNat = 0xFFFFF80000000000 := rfl
  have hvaddr := hdirect.vaddr
  have hstart : (object.vaddr + UInt64.ofNat (write.1 - object.paddr)).toNat = K_VIRT_ANY.toNat + write.1 := by
    rw [BitField.toNat_add_ofNat (by omega)]
    omega
  rcases Nat.eq_zero_or_pos write.2.length with hempty | hpositive
  · intro k hk
    omega
  · exact (hholds.rangeMapped_iff _ _ hstart (by omega)).mpr (.inr ⟨rfl, hhigh⟩)

/-- The hive is published in the HAL window, which starts at the HAL. -/
theorem HoldsTables.translate_hive (hholds : HoldsTables mem 16) :
    translate mem SYSTEM_CR3 hive_v = some 0x5000000 := by
  have hvaddr : hive_v.toNat = K_VIRT_ANY.toNat + 2 ^ 30 + 0x5000000 := rfl
  rw [hholds.translate_hal hvaddr (by decide), if_pos (by decide)]
  rfl

theorem HoldsTables.hive_reached_iff (hholds : HoldsTables mem 16) (sys_hive : List UInt8) :
    (hiveObject sys_hive).Reached mem ↔ sys_hive = [] := by
  constructor
  · intro hreached
    by_contra hne
    have hfirst : translate mem SYSTEM_CR3 (hive_v + UInt64.ofNat (0x4200000 - 0x4200000) + UInt64.ofNat 0) =
        some (0x4200000 + 0) := hreached _ List.mem_cons_self 0 (List.length_pos_iff.mpr hne)
    have hstart : hive_v + UInt64.ofNat (0x4200000 - 0x4200000) + UInt64.ofNat 0 = hive_v := rfl
    rw [hstart, hholds.translate_hive, Option.some.injEq] at hfirst
    exact absurd hfirst (by decide)
  · rintro rfl write hwrite k hk
    obtain rfl := List.mem_singleton.mp hwrite
    exact absurd hk (Nat.not_lt_zero k)

theorem HoldsTables.stack_reached (hholds : HoldsTables mem 16) :
    RangeMapped mem (stack_v - 0x10000) STACK_PBASE.toNat 0x10000 := by
  intro k hk
  have hstart : (stack_v - 0x10000).toNat = STACK_VBASE.toNat := rfl
  have hbase : STACK_VBASE.toNat = 0xFFFFFE8000000000 := rfl
  have hvaddr : (stack_v - 0x10000 + UInt64.ofNat k).toNat = STACK_VBASE.toNat + k := by
    rw [BitField.toNat_add_ofNat (by omega), hstart]
  exact hholds.translate_stack hvaddr (by omega)

/-- The objects that the pointers lead to, apart from the hive. -/
def directObjects (files : BootFiles) (modules : List LoadedModule) : List GuestObject :=
  [blockObject (UInt32.ofNat files.sys_hive.length), extensionObject, regionObject, nlsObject,
    ansiObject files.ansi_data, oemObject files.oem_data, caseObject, acpiObject, gdtObject, idtObject] ++
    (files.apiset_buf.toList.map apisetObject ++ (modules.zipIdx.map nodeObject ++
      (memory_map (UInt32.ofNat files.sys_hive.length)).zipIdx.map rowObject))

theorem nodeObject_mem (files : BootFiles) {entry : LoadedModule × Nat} (hentry : entry ∈ modules.zipIdx) :
    nodeObject entry ∈ directObjects files modules := by
  simp only [directObjects, List.mem_append, List.mem_map]
  exact .inr (.inr (.inl ⟨entry, hentry, rfl⟩))

theorem rowObject_mem {entry : (UInt64 × UInt64 × UInt32) × Nat}
    (hentry : entry ∈ (memory_map (UInt32.ofNat files.sys_hive.length)).zipIdx) :
    rowObject entry ∈ directObjects files modules := by
  simp only [directObjects, List.mem_append, List.mem_map]
  exact .inr (.inr (.inr ⟨entry, hentry, rfl⟩))

theorem ring_object (hpointer : pointer ∈ ringPointers links)
    (hlinks : ∀ link ∈ links, link.1 ∈ directObjects files modules) :
    pointer.object ∈ directObjects files modules := by
  obtain ⟨⟨link, hlink, hobject⟩, _⟩ := mem_ringPointers hpointer
  rw [hobject]
  exact hlinks link hlink

theorem halExt_object {cases : CaseMap} (hpointer : pointer ∈ halExtPointers cases modules) :
    pointer.object ∈ directObjects files modules := by
  rw [halExtPointers] at hpointer
  split at hpointer
  · cases hpointer
  · refine ring_object hpointer ?_
    intro link hlink
    rcases List.mem_cons.mp hlink with rfl | hlink
    · simp [directObjects]
    · obtain ⟨entry, hentry, rfl⟩ := List.mem_map.mp hlink
      exact nodeObject_mem files (List.mem_of_mem_filter hentry)

theorem list_object (hpointer : pointer ∈ listPointers (UInt32.ofNat files.sys_hive.length) modules) :
    pointer.object ∈ directObjects files modules := by
  have hblock : blockObject (UInt32.ofNat files.sys_hive.length) ∈ directObjects files modules := by
    simp [directObjects]
  simp only [listPointers, List.mem_append] at hpointer
  rcases hpointer with hmem | hmem | hmem | hmem
  · refine ring_object hmem (List.forall_mem_cons.mpr ⟨hblock, ?_⟩)
    intro link hlink
    obtain ⟨entry, hentry, rfl⟩ := List.mem_map.mp hlink
    exact nodeObject_mem files hentry
  · refine ring_object hmem ?_
    intro link hlink
    obtain ⟨entry, hentry, rfl⟩ := List.mem_map.mp hlink
    exact nodeObject_mem files hentry
  · exact ring_object hmem (List.forall_mem_singleton.mpr hblock)
  · refine ring_object hmem (List.forall_mem_cons.mpr ⟨hblock, ?_⟩)
    intro link hlink
    obtain ⟨entry, hentry, rfl⟩ := List.mem_map.mp hlink
    exact rowObject_mem hentry

/-- A pointer leads to the hive or to another of the objects. -/
theorem object_of_mem {cases : CaseMap} (hpointer : pointer ∈ pointers cases files modules) :
    pointer.object = hiveObject files.sys_hive ∨ pointer.object ∈ directObjects files modules := by
  simp only [pointers, List.mem_append] at hpointer
  rcases hpointer with hmem | hmem | hmem | hmem | hmem | hmem | hmem | hmem | hmem
  · simp only [blockPointers, List.mem_cons, List.not_mem_nil, or_false] at hmem
    rcases hmem with rfl | rfl | rfl | rfl | rfl <;> simp [directObjects]
  · simp only [regionPointers, List.mem_cons, List.not_mem_nil, or_false] at hmem
    rcases hmem with rfl | rfl | rfl | rfl | rfl | rfl <;> simp [directObjects]
  · simp only [nlsPointers, List.mem_cons, List.not_mem_nil, or_false] at hmem
    rcases hmem with rfl | rfl | rfl <;> simp [directObjects]
  · simp only [extensionPointers, List.mem_cons, List.not_mem_nil, or_false] at hmem
    rcases hmem with rfl | rfl <;> simp [directObjects]
  · obtain ⟨apiset_buf, hbuf, rfl⟩ := List.mem_map.mp hmem
    simp only [directObjects, List.mem_append, List.mem_map]
    exact .inr (.inr (.inl ⟨apiset_buf, hbuf, rfl⟩))
  · simp only [acpiPointers, List.mem_cons, List.not_mem_nil, or_false] at hmem
    rcases hmem with rfl | rfl | rfl | rfl | rfl <;> simp [directObjects]
  · obtain ⟨entry, hentry, hmem⟩ := List.mem_flatMap.mp hmem
    simp only [List.mem_cons, List.not_mem_nil, or_false] at hmem
    rcases hmem with rfl | rfl <;> exact .inr (nodeObject_mem files hentry)
  · exact .inr (halExt_object hmem)
  · exact .inr (list_object hmem)

/-- A node lies at its physical offset when it ends in the first gibibyte. -/
theorem nodeObject_direct (hinside : NodesInMemory modules) {entry : LoadedModule × Nat}
    (hentry : entry ∈ modules.zipIdx)
    (hend : 0x4040150 + 0x1000 * entry.2 + (nameBytes entry.1.name).length ≤ 2 ^ 30) :
    (nodeObject entry).Direct := by
  obtain ⟨hvaddr, hpaddr⟩ := hinside.node_toNat (List.snd_lt_of_mem_zipIdx hentry)
  refine ⟨hvaddr, ?_⟩
  intro write hwrite
  simp only [nodeObject, nodeWrites, LdrDataTableEntry.writes, List.mem_cons, List.not_mem_nil, or_false] at hwrite
  rcases hwrite with rfl | rfl
  · simp only [nodeObject, length_LDR_DATA_TABLE_ENTRY, hpaddr]
    omega
  · simp only [nodeObject, hpaddr]
    omega

theorem rowObject_direct {hive_size : UInt32} {entry : (UInt64 × UInt64 × UInt32) × Nat}
    (hentry : entry ∈ (memory_map hive_size).zipIdx) : (rowObject entry).Direct := by
  have hi : entry.2 < 7 := List.snd_lt_of_mem_zipIdx hentry
  have hbase : (LPB_VBASE + 0x20000).toNat = K_VIRT_ANY.toNat + 0x4020000 := rfl
  have hk : K_VIRT_ANY.toNat = 0xFFFFF80000000000 := rfl
  have hstride : (0x1000 : UInt64).toNat = 0x1000 := rfl
  have hvaddr : (md_v entry.2).toNat = K_VIRT_ANY.toNat + (0x4020000 + entry.2 * 0x1000) := by
    rw [md_v, BitField.toNat_add_index hbase hstride (by omega)]
    omega
  refine ⟨hvaddr, ?_⟩
  obtain ⟨⟨base, size, mem_type⟩, i⟩ := entry
  intro write hwrite
  simp only [rowObject, rowWrites, linkWrites, List.mem_cons, List.not_mem_nil, or_false] at hwrite
  rcases hwrite with rfl | rfl | rfl
  all_goals simp only [rowObject, length_MEMORY_ALLOCATION_DESCRIPTOR, length_ofUInt64]
  all_goals simp only at hi
  all_goals omega

theorem gdtObject_direct : gdtObject.Direct := by
  refine ⟨rfl, ?_⟩
  intro write hwrite
  rcases List.mem_cons.mp hwrite with rfl | hentry
  · simp only [gdtObject, List.length_replicate]
    omega
  · obtain ⟨⟨entry, i⟩, hindex, rfl⟩ := List.mem_map.mp hentry
    have hi : i < 32 := List.snd_lt_of_mem_zipIdx hindex
    simp only [gdtObject, length_ofUInt64]
    omega

theorem idtObject_direct : idtObject.Direct := by
  refine ⟨rfl, ?_⟩
  intro write hwrite
  obtain ⟨i, hindex, hwrite⟩ := List.mem_flatMap.mp hwrite
  have hi := List.mem_range.mp hindex
  simp only [List.mem_cons, List.not_mem_nil, or_false] at hwrite
  rcases hwrite with rfl | rfl
  all_goals simp only [idtObject, debug.length_stub, debug.length_idtEntry]
  all_goals omega

theorem acpiObject_direct : acpiObject.Direct := by
  refine ⟨rfl, ?_⟩
  intro write hwrite
  simp only [acpiObject, acpi.tableWrites, List.mem_cons, List.not_mem_nil, or_false] at hwrite
  rcases hwrite with rfl | rfl | rfl | rfl | rfl | rfl
  all_goals simp only [acpiObject, acpi.length_dsdt, acpi.length_madt, acpi.length_fadt, acpi.length_hpet,
    acpi.length_xsdt, acpi.length_rsdp]
  all_goals omega

/-- An object of one store. -/
theorem direct_of_singleton {vaddr : UInt64} {paddr : Nat} {data : List UInt8}
    (hvaddr : vaddr.toNat = K_VIRT_ANY.toNat + paddr) (hend : paddr + data.length ≤ 2 ^ 30) :
    (⟨vaddr, paddr, [(paddr, data)]⟩ : GuestObject).Direct := by
  refine ⟨hvaddr, ?_⟩
  intro write hwrite
  obtain rfl := List.mem_singleton.mp hwrite
  exact ⟨Nat.le_refl _, hend⟩

theorem blockObject_direct (hive_size : UInt32) : (blockObject hive_size).Direct := by
  refine ⟨show LPB_VBASE.toNat = K_VIRT_ANY.toNat + 0x4000000 from rfl, ?_⟩
  intro write hwrite
  simp only [blockObject, LoaderParameterBlock.writes, List.mem_cons, List.not_mem_nil, or_false] at hwrite
  rcases hwrite with rfl | rfl
  all_goals simp only [blockObject, length_LOADER_PARAMETER_BLOCK, List.length_cons, List.length_nil]
  all_goals omega

theorem extensionObject_direct : extensionObject.Direct := by
  refine ⟨rfl, ?_⟩
  intro write hwrite
  simp only [extensionObject, LoaderParameterExtension.writes, List.mem_append, List.mem_cons, List.not_mem_nil,
    or_false] at hwrite
  rcases hwrite with rfl | rfl | rfl
  all_goals simp only [extensionObject, List.length_take, length_LOADER_PARAMETER_EXTENSION, length_ofUInt64,
    length_ofUInt32]
  all_goals omega

theorem regionObject_direct : regionObject.Direct := by
  refine ⟨rfl, ?_⟩
  intro write hwrite
  simp only [regionObject, Kpcr.writes, List.mem_cons, List.not_mem_nil, or_false] at hwrite
  rcases hwrite with rfl | rfl | rfl | rfl
  all_goals simp only [regionObject, length_KPCR, length_KPRCB, length_ofUInt64, length_ofUInt32]
  all_goals omega

theorem PointersApart.inFirstGib (hapart : PointersApart host files modules) : InFirstGib files modules := by
  have hansi := hapart.ansi
  have hoem := hapart.oem
  refine ⟨by omega, by omega, ?_, ?_⟩
  · intro apiset_buf hbuf
    have hend := hapart.schema apiset_buf hbuf
    omega
  · intro entry hentry
    have hend := hapart.ends entry hentry
    omega

theorem InFirstGib.nodesInMemory (hinside : InFirstGib files modules) : NodesInMemory modules := by
  intro entry hentry
  have hend := hinside.nodes entry hentry
  have hsize := MEM_SIZE_toNat
  omega

theorem directObjects_direct (hinside : InFirstGib files modules) :
    ∀ object ∈ directObjects files modules, object.Direct := by
  intro object hobject
  simp only [directObjects, List.mem_append, List.mem_cons, List.not_mem_nil, or_false, List.mem_map,
    Option.mem_toList] at hobject
  rcases hobject with (rfl | rfl | rfl | rfl | rfl | rfl | rfl | rfl | rfl | rfl) | ⟨apiset_buf, hbuf, rfl⟩ |
    ⟨entry, hentry, rfl⟩ | ⟨entry, hentry, rfl⟩
  · exact blockObject_direct _
  · exact extensionObject_direct
  · exact regionObject_direct
  · exact direct_of_singleton rfl (by rw [length_NLS_DATA_BLOCK]; omega)
  · exact direct_of_singleton rfl hinside.ansi
  · exact direct_of_singleton rfl hinside.oem
  · exact direct_of_singleton rfl (by rw [length_generate_windows_upcase_table]; omega)
  · exact acpiObject_direct
  · exact gdtObject_direct
  · exact idtObject_direct
  · exact direct_of_singleton rfl (hinside.apiset apiset_buf hbuf)
  · exact nodeObject_direct hinside.nodesInMemory hentry (hinside.nodes entry hentry)
  · exact rowObject_direct hentry

/-- A store that is reached ends in the first gibibyte. -/
theorem HoldsTables.end_le_of_reached (hholds : HoldsTables mem 16) {vaddr : UInt64} {paddr : Nat} {data : List UInt8}
    (hvaddr : vaddr.toNat = K_VIRT_ANY.toNat + paddr) (hstart : paddr < 2 ^ 30)
    (hreached : RangeMapped mem vaddr paddr data.length) : paddr + data.length ≤ 2 ^ 30 := by
  rcases (hholds.rangeMapped_iff paddr data.length hvaddr hstart).mp hreached with hempty | ⟨_, hend⟩
  · omega
  · exact hend

theorem HoldsTables.singleton_end_le (hholds : HoldsTables mem 16) {vaddr : UInt64} {paddr : Nat} {data : List UInt8}
    (hvaddr : vaddr.toNat = K_VIRT_ANY.toNat + paddr) (hstart : paddr < 2 ^ 30)
    (hreached : (⟨vaddr, paddr, [(paddr, data)]⟩ : GuestObject).Reached mem) : paddr + data.length ≤ 2 ^ 30 := by
  have hstore := hreached _ List.mem_cons_self
  have hzero : vaddr + UInt64.ofNat (paddr - paddr) = vaddr := by
    rw [Nat.sub_self]
    exact UInt64.add_zero vaddr
  rw [hzero] at hstore
  exact hholds.end_le_of_reached hvaddr hstart hstore

/-- A node that starts at the end of the gibibyte is not reached. -/
theorem HoldsTables.node_unreached (hholds : HoldsTables mem 16) (hinside : NodesInMemory modules)
    {entry : LoadedModule × Nat} (hentry : entry ∈ modules.zipIdx) (hnumber : entry.2 = 0x3BFC0) :
    ¬ (nodeObject entry).Reached mem := by
  obtain ⟨hvaddr, hpaddr⟩ := hinside.node_toNat (List.snd_lt_of_mem_zipIdx hentry)
  have hk : K_VIRT_ANY.toNat = 0xFFFFF80000000000 := rfl
  intro hreached
  have hfirst := hreached _ List.mem_cons_self 0 (by rw [length_LDR_DATA_TABLE_ENTRY]; omega)
  simp only [nodeObject, hpaddr, Nat.sub_self] at hfirst
  have hplace : ((nodeAt entry.2).1 + UInt64.ofNat 0).toNat = (nodeAt entry.2).1.toNat + 0 :=
    BitField.toNat_add_ofNat (by omega)
  have hstart : ((nodeAt entry.2).1 + UInt64.ofNat 0 + UInt64.ofNat 0).toNat = K_VIRT_ANY.toNat + 2 ^ 30 + 0 := by
    rw [BitField.toNat_add_ofNat (by omega)]
    omega
  rw [hholds.translate_hal hstart (by decide), if_neg (by decide)] at hfirst
  cases hfirst

/-- Nodes that are all reached end in the first gibibyte: their numbers leave out
    none, so none starts behind it. -/
theorem HoldsTables.nodes_end_le (hholds : HoldsTables mem 16) (hinside : NodesInMemory modules)
    (hreached : ∀ entry ∈ modules.zipIdx, (nodeObject entry).Reached mem) :
    ∀ entry ∈ modules.zipIdx, 0x4040150 + 0x1000 * entry.2 + (nameBytes entry.1.name).length ≤ 2 ^ 30 := by
  intro entry hentry
  have hindex := List.snd_lt_of_mem_zipIdx hentry
  have hcount : modules.length ≤ 0x3BFC0 := by
    by_contra hmany
    obtain ⟨last, hlast, hnumber⟩ := exists_mem_zipIdx (Nat.lt_of_not_le hmany)
    exact hholds.node_unreached hinside hlast hnumber (hreached last hlast)
  obtain ⟨hvaddr, hpaddr⟩ := hinside.node_toNat hindex
  have hk : K_VIRT_ANY.toNat = 0xFFFFF80000000000 := rfl
  have hname := hreached entry hentry _ (List.mem_cons_of_mem _ List.mem_cons_self)
  simp only [nodeObject, hpaddr, Nat.add_sub_cancel_left] at hname
  have hbehind : ((nodeAt entry.2).1 + UInt64.ofNat 0x150).toNat =
      K_VIRT_ANY.toNat + (0x4040000 + 0x1000 * entry.2 + 0x150) := by
    rw [BitField.toNat_add_ofNat (by omega)]
    omega
  have hend := hholds.end_le_of_reached hbehind (by omega) hname
  omega

/-- The objects are made of stores of `main`. -/
theorem directObjects_stored (host : Host) (files : BootFiles) (modules : List LoadedModule) :
    ∀ object ∈ directObjects files modules, object.writes ⊆ bootWrites host files modules := by
  intro object hobject write hwrite
  simp only [directObjects, List.mem_append, List.mem_cons, List.not_mem_nil, or_false, List.mem_map,
    Option.mem_toList] at hobject
  simp only [bootWrites, nlsWrites, lateWrites, blockWrites, registerWrites, closingWrites, memoryWrites_eq,
    List.mem_append, List.mem_cons, List.not_mem_nil, or_false]
  rcases hobject with (rfl | rfl | rfl | rfl | rfl | rfl | rfl | rfl | rfl | rfl) | ⟨apiset_buf, hbuf, rfl⟩ |
    ⟨entry, hentry, rfl⟩ | ⟨entry, hentry, rfl⟩
  · tauto
  · simp only [extensionObject, List.mem_append, List.mem_cons, List.not_mem_nil, or_false] at hwrite
    tauto
  · tauto
  · simp only [nlsObject, List.mem_cons, List.not_mem_nil, or_false] at hwrite
    tauto
  · simp only [ansiObject, List.mem_cons, List.not_mem_nil, or_false] at hwrite
    tauto
  · simp only [oemObject, List.mem_cons, List.not_mem_nil, or_false] at hwrite
    tauto
  · simp only [caseObject, List.mem_cons, List.not_mem_nil, or_false] at hwrite
    tauto
  · tauto
  · tauto
  · tauto
  · simp only [apisetObject, List.mem_cons, List.not_mem_nil, or_false] at hwrite
    have hschema : write ∈ schemaWrites files.apiset_buf := by
      rw [hbuf, hwrite]
      exact List.mem_cons_self
    tauto
  · have hnode : write ∈ modules.zipIdx.flatMap nodeWrites := List.mem_flatMap.mpr ⟨entry, hentry, hwrite⟩
    tauto
  · have hrow : write ∈ (memory_map (UInt32.ofNat files.sys_hive.length)).zipIdx.flatMap rowWrites :=
      List.mem_flatMap.mpr ⟨entry, hentry, hwrite⟩
    tauto

/-- The walk over the page tables reaches every object exactly when there is no
    hive and the other objects end in the first gibibyte. -/
theorem HoldsTables.objectsReached_iff (hholds : HoldsTables mem 16) (hfits : FitsMemory files modules) :
    ObjectsReached host files modules mem ↔ files.sys_hive = [] ∧ InFirstGib files modules := by
  constructor
  · rintro ⟨_, hreached, _⟩
    refine ⟨(hholds.hive_reached_iff _).mp (hreached _ (registryBase_mem host.cases)), ?_, ?_, ?_, ?_⟩
    · have hansi := hreached ⟨0x4030000, ansiObject files.ansi_data, 0x20⟩ (by simp [pointers, nlsPointers])
      exact hholds.singleton_end_le (show (nls_v_base + 0x1000).toNat = _ from rfl) (by decide) hansi
    · have hoem := hreached ⟨0x4030008, oemObject files.oem_data, 0x20⟩ (by simp [pointers, nlsPointers])
      exact hholds.singleton_end_le (show (nls_v_base + 0x11000).toNat = _ from rfl) (by decide) hoem
    · intro apiset_buf hbuf
      have hschema := hreached ⟨0x4008A80, apisetObject apiset_buf, 0x2000⟩ (by
        simp [pointers, schemaPointers, Option.mem_def.mp hbuf])
      exact hholds.singleton_end_le (show apiset_v.toNat = _ from rfl) (by decide) hschema
    · refine hholds.nodes_end_le hfits.nodes fun entry hentry => ?_
      have hnames : ⟨0x4040050 + 0x1000 * entry.2, nodeObject entry, 0x150⟩ ∈ namePointers modules :=
        List.mem_flatMap.mpr ⟨entry, hentry, List.mem_cons_self⟩
      exact hreached ⟨0x4040050 + 0x1000 * entry.2, nodeObject entry, 0x150⟩ (by
        simp only [pointers, List.mem_append]
        tauto)
  · rintro ⟨hempty, hinside⟩
    refine ⟨?_, ?_, hholds.stack_reached⟩
    · intro pointer hpointer
      rcases object_of_mem hpointer with hhive | hdirect
      · rw [hhive, bootWrites]
        exact List.subset_append_left _ _
      · exact directObjects_stored host files modules _ hdirect
    · intro pointer hpointer
      rcases object_of_mem hpointer with hhive | hdirect
      · rw [hhive]
        exact (hholds.hive_reached_iff _).mpr hempty
      · exact hholds.direct_reached (directObjects_direct hinside _ hdirect)

end vwfl.main
