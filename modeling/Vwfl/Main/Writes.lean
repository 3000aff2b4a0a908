import Vwfl.Acpi.Writes
import Vwfl.Loaderblock.Writes
import Vwfl.Main.Boot

open Rust LittleEndian
open vwfl.vm vwfl.pe vwfl.loader vwfl.loaderblock

namespace vwfl.main

/-- Addresses of a node, as long as the virtual one does not wrap. -/
theorem nodeAt_toNat_of_le {i : Nat} (hi : i ≤ 0x40000000) :
    (nodeAt i).1.toNat = K_VIRT_ANY.toNat + (0x4040000 + 0x1000 * i) ∧
      (nodeAt i).2.toNat = 0x4040000 + 0x1000 * i := by
  have hv : LPB_VBASE.toNat = K_VIRT_ANY.toNat + 0x4000000 := rfl
  have hp : LPB_PBASE.toNat = 0x4000000 := rfl
  have hk : K_VIRT_ANY.toNat = 0xFFFFF80000000000 := rfl
  have hoffset : (0x40000 + UInt64.ofNat i * 0x1000).toNat = 0x40000 + i * 0x1000 :=
    BitField.toNat_add_index rfl rfl (by omega)
  constructor
  · change (LPB_VBASE + (0x40000 + UInt64.ofNat i * 0x1000)).toNat = _
    rw [BitField.toNat_add_of_lt (by omega), hoffset]
    omega
  · change (LPB_PBASE + (0x40000 + UInt64.ofNat i * 0x1000)).toNat = _
    rw [BitField.toNat_add_of_lt (by omega), hoffset]
    omega

/-- Addresses of a node that starts in guest memory. -/
theorem nodeAt_toNat {i : Nat} (hi : i ≤ 0x200000) :
    (nodeAt i).1.toNat = K_VIRT_ANY.toNat + (0x4040000 + 0x1000 * i) ∧
      (nodeAt i).2.toNat = 0x4040000 + 0x1000 * i :=
  nodeAt_toNat_of_le (by omega)

theorem exists_mem_zipIdx {α : Type} {items : List α} {i : Nat} (hi : i < items.length) :
    ∃ entry ∈ items.zipIdx, entry.2 = i := by
  refine ⟨(items[i], i), ?_, rfl⟩
  rw [List.mem_zipIdx_iff_getElem?]
  exact List.getElem?_eq_getElem hi

/-- The entries behind one of a numbered list have larger numbers. -/
theorem split_of_mem_zipIdx {α : Type} {items : List α} {entry : α × Nat} (hentry : entry ∈ items.zipIdx) :
    ∃ earlier later, items.zipIdx = earlier ++ entry :: later ∧
      ∀ other ∈ later, other ∈ items.zipIdx ∧ entry.2 < other.2 := by
  obtain ⟨earlier, later, hsplit⟩ := List.append_of_mem hentry
  have hnumbers : (items.zipIdx.map Prod.snd).Pairwise (· < ·) := by
    rw [List.zipIdx_map_snd]
    exact List.pairwise_lt_range'
  rw [hsplit] at hnumbers
  have horder := (List.pairwise_cons.mp (List.pairwise_append.mp (List.pairwise_map.mp hnumbers)).2.1).1
  refine ⟨earlier, later, hsplit, ?_⟩
  intro other hother
  refine ⟨?_, horder other hother⟩
  rw [hsplit]
  exact List.mem_append_right _ (List.mem_cons_of_mem _ hother)

theorem length_kuser_data : kuser_data.length = 4096 := by
  simp only [kuser_data, length_splice, length_ofUInt32, List.length_replicate]
  norm_num

theorem length_generate_windows_upcase_table : generate_windows_upcase_table.length = 131072 := by
  rw [generate_windows_upcase_table, List.length_flatMap]
  simp only [length_ofUInt16, List.map_const', List.length_range, List.sum_replicate]
  rfl

/-- Stores of a list entry: its forward link and its backward link. -/
def linkWrites (entry_p : Nat) (next_v prev_v : UInt64) : List (Nat × List UInt8) :=
  [(entry_p, ofUInt64 next_v), (entry_p + 8, ofUInt64 prev_v)]

def nlsWrites (ansi_data oem_data : List UInt8) : List (Nat × List UInt8) := [
  (0x4031000, ansi_data), (0x4041000, oem_data), (0x4051000, generate_windows_upcase_table),
  (0x4030000, NLS_DATA_BLOCK ansi_v oem_v case_v 0 0)]

def blockWrites (hive_size : UInt32) : List (Nat × List UInt8) :=
  Kpcr.writes KPCR_VBASE 0x4010000 gdt_v idt_v tss_v stack_v ++
    (LoaderParameterBlock.writes LPB_VBASE 0x4000000 (KPCR_VBASE + 0x180) stack_v 0x10000 hive_v hive_size nls_v_base ++
      (acpi.tableWrites 0x5000000 ACPI_VBASE ++ (LoaderParameterExtension.writes ext_v 0x4008000 ++
        [(0x4008078, ofUInt64 ACPI_VBASE), (0x4008080, ofUInt32 36)])))

/-- Stores for a schema: the file, its published address and its size. -/
def apisetWrites (apiset_buf : List UInt8) : List (Nat × List UInt8) := [
  (0x4060000, apiset_buf), (0x4008A80, ofUInt64 (apiset_v + 0x2000)),
  (0x4008A88, ofUInt32 (UInt32.ofNat apiset_buf.length - 0x2000))]

/-- Stores for a module of the list and its number. -/
def nodeWrites (entry : LoadedModule × Nat) : List (Nat × List UInt8) :=
  LdrDataTableEntry.writes (nodeAt entry.2).1 (nodeAt entry.2).2.toNat entry.1.v_base entry.1.entry entry.1.size
    entry.1.name

def halExtLinks (nodes : List (UInt64 × UInt64)) : List (Nat × List UInt8) :=
  linkWrites 0x4008A18 (nodeV nodes 0 + 0x20) (nodeV nodes (nodes.length - 1) + 0x20) ++
    nodes.zipIdx.flatMap fun (node, i) =>
      linkWrites (node.2.toNat + 0x20) (if i = nodes.length - 1 then hal_ext_head_v else nodeV nodes (i + 1) + 0x20)
        (if i = 0 then hal_ext_head_v else nodeV nodes (i - 1) + 0x20)

def loadOrderLinks (nodes : List (UInt64 × UInt64)) : List (Nat × List UInt8) :=
  linkWrites 0x4000010 (nodeV nodes 0) (nodeV nodes (nodes.length - 1)) ++
    (linkWrites 0x4000030 (LPB_VBASE + 0x30) (LPB_VBASE + 0x30) ++
      nodes.zipIdx.flatMap fun (node, i) =>
        linkWrites node.2.toNat (if i = nodes.length - 1 then LPB_VBASE + 0x10 else nodeV nodes (i + 1))
            (if i = 0 then LPB_VBASE + 0x10 else nodeV nodes (i - 1)) ++
          linkWrites (node.2.toNat + 0x10)
            (if i = nodes.length - 1 then nodeV nodes 0 + 0x10 else nodeV nodes (i + 1) + 0x10)
            (if i = 0 then nodeV nodes (nodes.length - 1) + 0x10 else nodeV nodes (i - 1) + 0x10))

def gdtWrites : List (Nat × List UInt8) :=
  (0x8001000, List.replicate 104 0) :: gdt_entries.zipIdx.map fun (entry, i) => (0x8000000 + i * 8, ofUInt64 entry)

def memoryWrites (hive_size : UInt32) : List (Nat × List UInt8) :=
  ((memory_map hive_size).zipIdx.flatMap fun ((base, size, mem_type), i) =>
    (0x4020000 + i * 0x1000, MEMORY_ALLOCATION_DESCRIPTOR mem_type (base >>> 12) (size >>> 12)) ::
      linkWrites (0x4020000 + i * 0x1000) (if i = 6 then LPB_VBASE + 0x20 else md_v (i + 1))
        (if i = 0 then LPB_VBASE + 0x20 else md_v (i - 1))) ++
    linkWrites 0x4000020 (md_v 0) (md_v 6)

variable (profile : Profile)

theorem writeLinks_performs {entry_p next_v prev_v : UInt64} {address : Nat} (haddress : entry_p.toNat = address)
    (hbound : address + 16 ≤ MEM_SIZE.toNat) :
    Performs (writeLinks profile entry_p next_v prev_v) (linkWrites address next_v prev_v) := by
  have hsize := hbound
  rw [MEM_SIZE_toNat] at hsize
  have hskip : (8 : UInt64).toNat = 8 := rfl
  have hback : (entry_p + 8).toNat = address + 8 := by
    rw [BitField.toNat_add_of_lt (by omega), haddress, hskip]
  refine Performs.write_ok_then profile haddress rfl (by rw [length_ofUInt64]; omega) ?_
  rw [← hback]
  exact Performs.write_memory_ok profile (by rw [length_ofUInt64]; omega)

theorem loadHive_performs {sys_hive : List UInt8} (hbound : 0x4200000 + sys_hive.length ≤ MEM_SIZE.toNat) :
    Performs (loadHive profile sys_hive) [(0x4200000, sys_hive)] :=
  (Performs.write_memory profile (show hive_p.toNat + sys_hive.length ≤ _ from hbound)).expect _

theorem loadNls_performs {ansi_data oem_data : List UInt8} (hansi : 0x4031000 + ansi_data.length ≤ MEM_SIZE.toNat)
    (hoem : 0x4041000 + oem_data.length ≤ MEM_SIZE.toNat) :
    Performs (loadNls profile ansi_data oem_data) (nlsWrites ansi_data oem_data) := by
  refine Performs.write_ok_then profile (by decide) rfl hansi ?_
  refine Performs.write_ok_then profile (by decide) rfl hoem ?_
  refine Performs.write_ok_then profile (by decide) rfl ?_ ?_
  · rw [length_generate_windows_upcase_table]
    decide
  · exact Performs.write_memory_ok profile (by rw [length_NLS_DATA_BLOCK]; decide)

theorem initBlocks_performs (hive_size : UInt32) : Performs (initBlocks profile hive_size) (blockWrites hive_size) := by
  refine ((Kpcr.setup_performs profile (by decide) (by decide)).expect _).bind ?_
  refine ((LoaderParameterBlock.setup_performs profile (by decide) (by decide) (by decide)).expect _).bind ?_
  refine Performs.bind_value
    (fun self => Stateful.expect_run_eq_ok_iff.mpr (acpi.setup_run profile (by decide) (by decide) self)) ?_
  refine ((LoaderParameterExtension.setup_performs profile (by decide) (by decide)).expect _).bind ?_
  exact (LoaderParameterExtension.set_acpi_performs profile (by decide)).ok

theorem loadApiSet_performs_none {dir : Directory} {message : String}
    (hread : dir.read "apisetschema.dll" = .error message) : Performs (loadApiSet profile dir) [] := by
  simp only [loadApiSet, hread]
  exact Performs.pure

/-- A schema is written and published once its size is computed. -/
theorem loadApiSet_performs_some {dir : Directory} {apiset_buf : List UInt8}
    (hread : dir.read "apisetschema.dll" = .ok apiset_buf)
    (hbound : 0x4060000 + apiset_buf.length ≤ MEM_SIZE.toNat)
    (hsize : profile.sub32 (UInt32.ofNat apiset_buf.length) 0x2000 = .ok (UInt32.ofNat apiset_buf.length - 0x2000)) :
    Performs (loadApiSet profile dir) (apisetWrites apiset_buf) := by
  simp only [loadApiSet, hread]
  refine Performs.write_ok_then profile (by decide) rfl hbound ?_
  refine Performs.lift_bind hsize ?_
  exact (LoaderParameterExtension.set_apiset_performs profile (by decide)).ok

/-- A node that fits is written once the printed end of the module and the
    maximum length of its name are computed. -/
theorem addNode_performs {entry : LoadedModule × Nat}
    (hend : profile.add64 entry.1.v_base entry.1.size.toUInt64 = .ok (entry.1.v_base + entry.1.size.toUInt64))
    (hmaximum : profile.add16 (UInt16.ofNat (nameBytes entry.1.name).length) 2 =
      .ok (UInt16.ofNat (nameBytes entry.1.name).length + 2))
    (hbound : 0x4040150 + 0x1000 * entry.2 + (nameBytes entry.1.name).length ≤ MEM_SIZE.toNat) :
    Performs (addNode profile entry) (nodeWrites entry) := by
  have hsize := MEM_SIZE_toNat
  have hk : K_VIRT_ANY.toNat = 0xFFFFF80000000000 := rfl
  have hskip : (0x150 : UInt64).toNat = 0x150 := rfl
  obtain ⟨hnode_v, hnode_p⟩ := nodeAt_toNat (show entry.2 ≤ 0x200000 by omega)
  have hfits : (nodeAt entry.2).2.toNat + 0x150 + (nameBytes entry.1.name).length ≤ MEM_SIZE.toNat := by omega
  have hbuffer := profile.add64_of_lt (show (nodeAt entry.2).1.toNat + (0x150 : UInt64).toNat < 2 ^ 64 by omega)
  refine Performs.lift_bind hend ?_
  exact (LdrDataTableEntry.add_module_performs profile hbuffer hmaximum hfits).ok

/-- Adding a node that fits panics on a sum or writes it. -/
theorem addNode_leaves {entry : LoadedModule × Nat}
    (hbound : 0x4040150 + 0x1000 * entry.2 + (nameBytes entry.1.name).length ≤ MEM_SIZE.toNat) :
    Leaves (addNode profile entry) (nodeWrites entry) := by
  have hsize := MEM_SIZE_toNat
  have hnode := (nodeAt_toNat (show entry.2 ≤ 0x200000 by omega)).2
  have hfits : (nodeAt entry.2).2.toNat + 0x150 + (nameBytes entry.1.name).length ≤ MEM_SIZE.toNat := by omega
  refine Leaves.lift_bind fun _ _ => ?_
  exact LdrDataTableEntry.add_module_leaves profile hfits

theorem linkHalExtensions_performs {nodes : List (UInt64 × UInt64)}
    (hbound : ∀ node ∈ nodes, node.2.toNat + 0x30 ≤ MEM_SIZE.toNat) :
    Performs (linkHalExtensions profile nodes) (if nodes.isEmpty then [] else halExtLinks nodes) := by
  unfold linkHalExtensions
  split
  · exact Performs.pure
  · refine (writeLinks_performs profile (by decide) (by decide)).bind (Performs.forM ?_)
    rintro ⟨node, i⟩ hentry
    have hnode := hbound node (List.fst_mem_of_mem_zipIdx hentry)
    have hsize := hnode
    rw [MEM_SIZE_toNat] at hsize
    have hskip : (0x20 : UInt64).toNat = 0x20 := rfl
    have haddress : (node.2 + 0x20).toNat = node.2.toNat + 0x20 := by
      rw [BitField.toNat_add_of_lt (by omega), hskip]
    exact writeLinks_performs profile haddress (by omega)

theorem linkLoadOrder_performs {nodes : List (UInt64 × UInt64)}
    (hbound : ∀ node ∈ nodes, node.2.toNat + 0x20 ≤ MEM_SIZE.toNat) :
    Performs (linkLoadOrder profile nodes) (loadOrderLinks nodes) := by
  refine (writeLinks_performs profile (by decide) (by decide)).bind ?_
  refine (writeLinks_performs profile (by decide) (by decide)).bind (Performs.forM ?_)
  rintro ⟨node, i⟩ hentry
  have hnode := hbound node (List.fst_mem_of_mem_zipIdx hentry)
  have hsize := hnode
  rw [MEM_SIZE_toNat] at hsize
  have hskip : (0x10 : UInt64).toNat = 0x10 := rfl
  have haddress : (node.2 + 0x10).toNat = node.2.toNat + 0x10 := by
    rw [BitField.toNat_add_of_lt (by omega), hskip]
  exact (writeLinks_performs profile rfl (by omega)).bind (writeLinks_performs profile haddress (by omega))

theorem initGdt_performs : Performs (initGdt profile) gdtWrites := by
  have htss : Performs (Vm.write_memory profile (SYSTEM_BASE + 0x1000) (List.replicate 104 0))
      [(0x8001000, List.replicate 104 0)] := Performs.write_memory profile (by decide)
  have hloop : Performs (forM gdt_entries.zipIdx fun (entry, i) =>
        Stateful.ok (Vm.write_memory profile (SYSTEM_BASE + UInt64.ofNat i * 8) (ofUInt64 entry)))
      (gdt_entries.zipIdx.flatMap fun (entry, i) => [(0x8000000 + i * 8, ofUInt64 entry)]) := by
    refine Performs.forM ?_
    rintro ⟨entry, i⟩ hentry
    have hi : i < 32 := List.snd_lt_of_mem_zipIdx hentry
    have hsize := MEM_SIZE_toNat
    have haddress : (SYSTEM_BASE + UInt64.ofNat i * 8).toNat = 0x8000000 + i * 8 :=
      BitField.toNat_add_index rfl rfl (by omega)
    change Performs _ [(0x8000000 + i * 8, ofUInt64 entry)]
    rw [← haddress]
    exact Performs.write_memory_ok profile (by rw [haddress, length_ofUInt64]; omega)
  rw [← List.map_eq_flatMap] at hloop
  exact (htss.expect "Write TSS").bind hloop

private theorem md_p_toNat {i : Nat} (hi : i < 7) : (md_p i).toNat = 0x4020000 + i * 0x1000 :=
  BitField.toNat_add_index rfl rfl (by omega)

theorem linkMemory_performs (hive_size : UInt32) :
    Performs (linkMemory profile hive_size) (memoryWrites hive_size) := by
  refine Performs.bind (Performs.forM ?_) (writeLinks_performs profile (by decide) (by decide))
  rintro ⟨⟨base, size, mem_type⟩, i⟩ hentry
  have hi : i < 7 := List.snd_lt_of_mem_zipIdx hentry
  have hsize := MEM_SIZE_toNat
  have haddress := md_p_toNat hi
  refine Performs.write_ok_then profile haddress rfl (by rw [length_MEMORY_ALLOCATION_DESCRIPTOR]; omega) ?_
  exact writeLinks_performs profile haddress (by omega)

end vwfl.main
