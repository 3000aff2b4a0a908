import Vwfl.Main.ModuleList
import Vwfl.Vm.Frame

open Rust ByteStore LittleEndian Linked
open vwfl.vm vwfl.pe vwfl.loader vwfl.loaderblock

namespace vwfl.main

/-- Modules that belong on the list of HAL extensions. -/
def isHalExt (cases : CaseMap) (name : String) : Bool := contains (cases.to_lowercase name) "halext"

/-- Numbers of the HAL extensions, in load order. -/
def halExtIndices (cases : CaseMap) (modules : List LoadedModule) : List Nat :=
  (modules.zipIdx.filter fun entry => isHalExt cases entry.1.name).map Prod.snd

/-- The list entry of a module, InInitializationOrderLinks of its node. -/
def initLinks (i : Nat) : UInt64 := (nodeAt i).1 + 0x20

/-- The HAL extension list is well formed: its entries lie in guest memory, and
    from the head at offset 0xA18 of the extension the forward links visit them
    in load order, the backward links in reverse. Without an extension the head
    is linked to itself. -/
structure HalExtensionList (mem : Nat → UInt8) (indices : List Nat) : Prop where
  inside : ∀ i ∈ indices, 0x4040030 + 0x1000 * i ≤ MEM_SIZE.toNat
  forward : Circuit (flink mem) (hal_ext_head_v :: indices.map initLinks)
  backward : Circuit (blink mem) (hal_ext_head_v :: (indices.map initLinks).reverse)

/-- `main` from the loader block to the HAL extension list: the blocks with the
    extension, the API set schema, the module nodes and the links. -/
def linkExtensions (host : Host) (dir : Directory) (hive_size : UInt32) (modules : List LoadedModule) :
    VmM Unit := do
  initBlocks host.profile hive_size
  loadApiSet host.profile dir
  forM modules.zipIdx (addNode host.profile)
  linkHalExtensions host.profile (halExtNodes host.cases modules)

variable {modules : List LoadedModule}

theorem halExtNodes_eq (cases : CaseMap) (modules : List LoadedModule) :
    halExtNodes cases modules = (halExtIndices cases modules).map nodeAt := by
  unfold halExtNodes halExtIndices
  induction modules.zipIdx with
  | nil => rfl
  | cons entry entries ih =>
    by_cases hext : isHalExt cases entry.1.name
    · have hcontains : contains (cases.to_lowercase entry.1.name) "halext" = true := hext
      rw [List.filterMap_cons, List.filter_cons, if_pos hext]
      simp only [hcontains, if_true, List.map_cons, ih]
    · have hcontains : ¬ contains (cases.to_lowercase entry.1.name) "halext" = true := hext
      rw [List.filterMap_cons, List.filter_cons, if_neg hext]
      simp only [hcontains, ih]
      rfl

theorem halExtIndices_pairwise (cases : CaseMap) (modules : List LoadedModule) :
    (halExtIndices cases modules).Pairwise (· < ·) := by
  have hnumbers : (modules.zipIdx.map Prod.snd).Pairwise (· < ·) := by
    rw [List.zipIdx_map_snd]
    exact List.pairwise_lt_range'
  exact hnumbers.sublist (List.filter_sublist.map Prod.snd)

/-- Stores for the node of a list and its number: its initialization-order
    links. -/
def initWrites (nodes : List (UInt64 × UInt64)) (entry : (UInt64 × UInt64) × Nat) : List (Nat × List UInt8) :=
  let (node, i) := entry
  linkWrites (node.2.toNat + 0x20) (if i = nodes.length - 1 then hal_ext_head_v else nodeV nodes (i + 1) + 0x20)
    (if i = 0 then hal_ext_head_v else nodeV nodes (i - 1) + 0x20)

theorem halExtLinks_eq (nodes : List (UInt64 × UInt64)) :
    halExtLinks nodes =
      linkWrites 0x4008A18 (nodeV nodes 0 + 0x20) (nodeV nodes (nodes.length - 1) + 0x20) ++
        nodes.zipIdx.flatMap (initWrites nodes) := rfl

/-- Entries of the list, its head first. -/
def halExtEntry (indices : List Nat) : Nat → UInt64
  | 0 => hal_ext_head_v
  | i + 1 => initLinks (indices.getD i 0)

section Links

variable {indices : List Nat} (hinside : ∀ i ∈ indices, 0x4040030 + 0x1000 * i ≤ MEM_SIZE.toNat)

theorem nodeV_map_nodeAt {i : Nat} (hi : i < indices.length) :
    nodeV (indices.map nodeAt) i + 0x20 = halExtEntry indices (i + 1) := by
  have hnode : (indices.map nodeAt)[i]? = some (nodeAt (indices.getD i 0)) := by
    rw [List.getElem?_map, List.getD_eq_getElem?_getD, List.getElem?_eq_getElem hi]
    rfl
  rw [nodeV, List.getD_eq_getElem?_getD, hnode]
  rfl

theorem mem_map_nodeAt_zipIdx {entry : (UInt64 × UInt64) × Nat} :
    entry ∈ (indices.map nodeAt).zipIdx ↔ ∃ hi : entry.2 < indices.length, entry.1 = nodeAt indices[entry.2] := by
  rw [List.mem_zipIdx_iff_getElem?, List.getElem?_map, Option.map_eq_some_iff]
  constructor
  · rintro ⟨k, hk, hnode⟩
    obtain ⟨hi, rfl⟩ := List.getElem?_eq_some_iff.mp hk
    exact ⟨hi, hnode.symm⟩
  · rintro ⟨hi, hnode⟩
    exact ⟨_, List.getElem?_eq_getElem hi, hnode.symm⟩

include hinside

theorem index_toNat {i : Nat} (hi : i ∈ indices) :
    (nodeAt i).2.toNat = 0x4040000 + 0x1000 * i ∧ physical (initLinks i) = 0x4040020 + 0x1000 * i := by
  have hend := hinside i hi
  have hsize := MEM_SIZE_toNat
  have hk : K_VIRT_ANY.toNat = 0xFFFFF80000000000 := rfl
  have hskip : (0x20 : UInt64).toNat = 0x20 := rfl
  obtain ⟨hnode_v, hnode_p⟩ := nodeAt_toNat (show i ≤ 0x200000 by omega)
  refine ⟨hnode_p, physical_eq ?_⟩
  rw [initLinks, BitField.toNat_add_of_lt (by omega), hnode_v, hskip]
  omega

theorem initWrites_misses {entries : List ((UInt64 × UInt64) × Nat)} (nodes : List (UInt64 × UInt64))
    {start length : Nat}
    (h : ∀ entry ∈ entries, ∃ i ∈ indices, entry.1 = nodeAt i ∧ Disjoint start length (0x4040020 + 0x1000 * i) 16) :
    Misses start length (entries.flatMap (initWrites nodes)) := by
  refine misses_flatMap ?_
  rintro ⟨node, j⟩ hentry
  obtain ⟨i, hi, rfl, hdisjoint⟩ := h _ hentry
  have hnode := (index_toNat hinside hi).1
  exact linkWrites_misses _ _ (hdisjoint.inner (by omega) (by omega))

/-- The head is linked to the first and the last extension. -/
theorem halExt_head (mem : Nat → UInt8) (hne : 0 < indices.length) :
    flink (storeAll mem (halExtLinks (indices.map nodeAt))) hal_ext_head_v = halExtEntry indices 1 ∧
      blink (storeAll mem (halExtLinks (indices.map nodeAt))) hal_ext_head_v = halExtEntry indices indices.length := by
  have hhead : physical hal_ext_head_v = 0x4008A18 := rfl
  have hloop : Misses 0x4008A18 16 ((indices.map nodeAt).zipIdx.flatMap (initWrites (indices.map nodeAt))) := by
    refine initWrites_misses hinside _ ?_
    intro entry hentry
    obtain ⟨hi, hnode⟩ := mem_map_nodeAt_zipIdx.mp hentry
    exact ⟨_, List.getElem_mem hi, hnode, disjoint_of_le (by omega)⟩
  have hlast := nodeV_map_nodeAt (show indices.length - 1 < indices.length by omega)
  rw [Nat.sub_add_cancel hne] at hlast
  rw [halExtLinks_eq, List.length_map, nodeV_map_nodeAt hne, hlast]
  exact @links_survive mem [] _ _ _ _ _ hhead hloop

/-- An extension is linked to its neighbours. -/
theorem halExt_node (mem : Nat → UInt8) (hpairwise : indices.Pairwise (· < ·)) {j : Nat} (hj : j < indices.length) :
    flink (storeAll mem (halExtLinks (indices.map nodeAt))) (halExtEntry indices (j + 1)) =
        (if j = indices.length - 1 then hal_ext_head_v else halExtEntry indices (j + 2)) ∧
      blink (storeAll mem (halExtLinks (indices.map nodeAt))) (halExtEntry indices (j + 1)) =
        (if j = 0 then hal_ext_head_v else halExtEntry indices j) := by
  have hmem := List.getElem_mem hj
  have hentry : halExtEntry indices (j + 1) = initLinks indices[j] := by
    rw [halExtEntry, List.getD_eq_getElem?_getD, List.getElem?_eq_getElem hj]
    rfl
  obtain ⟨hnode, hplace⟩ := index_toNat hinside hmem
  obtain ⟨earlier, later, hsplit, hlater⟩ :=
    split_of_mem_zipIdx (mem_map_nodeAt_zipIdx.mpr ⟨hj, rfl⟩ : (nodeAt indices[j], j) ∈ (indices.map nodeAt).zipIdx)
  -- Extensions behind this one have larger numbers, so their links lie behind.
  have hmisses : Misses (0x4040020 + 0x1000 * indices[j]) 16 (later.flatMap (initWrites (indices.map nodeAt))) := by
    refine initWrites_misses hinside _ ?_
    intro entry hentry
    obtain ⟨hlist, horder⟩ := hlater entry hentry
    obtain ⟨hi, hother⟩ := mem_map_nodeAt_zipIdx.mp hlist
    have hgreater := List.pairwise_iff_getElem.mp hpairwise j entry.2 hj hi horder
    exact ⟨_, List.getElem_mem hi, hother, disjoint_of_le (by omega)⟩
  rw [hentry, halExtLinks_eq, hsplit, List.flatMap_append, List.flatMap_cons, ← List.append_assoc]
  have hlinks := fun next_v prev_v front =>
    @links_survive mem front _ _ (initLinks indices[j]) next_v prev_v hplace hmisses
  have haddress : (nodeAt indices[j]).2.toNat + 0x20 = 0x4040020 + 0x1000 * indices[j] := by omega
  simp only [initWrites, List.length_map, haddress]
  rw [(hlinks _ _ _).1, (hlinks _ _ _).2]
  refine ⟨ite_congr rfl (fun _ => rfl) fun hne => ?_, ite_congr rfl (fun _ => rfl) fun hne => ?_⟩
  · exact nodeV_map_nodeAt (by omega)
  · obtain ⟨previous, rfl⟩ := Nat.exists_eq_succ_of_ne_zero hne
    exact nodeV_map_nodeAt (by omega)

theorem physical_halExtEntry {i : Nat} (hi : i < indices.length) :
    physical (halExtEntry indices (i + 1)) = 0x4040020 + 0x1000 * indices[i] := by
  rw [halExtEntry, List.getD_eq_getElem?_getD, List.getElem?_eq_getElem hi]
  exact (index_toNat hinside (List.getElem_mem hi)).2

theorem halExtEntry_distinct (hpairwise : indices.Pairwise (· < ·)) :
    ∀ i ≤ indices.length, ∀ j ≤ indices.length, halExtEntry indices i = halExtEntry indices j → i = j := by
  have hplace : ∀ i, ∀ hi : i < indices.length,
      physical (halExtEntry indices (i + 1)) = 0x4040020 + 0x1000 * indices[i] :=
    fun i hi => physical_halExtEntry hinside hi
  have hhead : physical (halExtEntry indices 0) = 0x4008A18 := by
    rw [halExtEntry]
    rfl
  intro i hi j hj heq
  have hphysical := congrArg physical heq
  cases i with
  | zero =>
    cases j with
    | zero => rfl
    | succ j =>
      rw [hhead, hplace j (by omega)] at hphysical
      omega
  | succ i =>
    cases j with
    | zero =>
      rw [hhead, hplace i (by omega)] at hphysical
      omega
    | succ j =>
      rw [hplace i (by omega), hplace j (by omega)] at hphysical
      have hsame : indices[i] = indices[j] := by omega
      rw [(List.Nodup.getElem_inj_iff (hpairwise.imp Nat.ne_of_lt)).mp hsame]

theorem halExt_closed (mem : Nat → UInt8) (hpairwise : indices.Pairwise (· < ·)) (hne : 0 < indices.length) :
    Closed (flink (storeAll mem (halExtLinks (indices.map nodeAt)))) (halExtEntry indices) indices.length := by
  constructor
  · intro i hi
    cases i with
    | zero => exact (halExt_head hinside mem hne).1
    | succ i => rw [(halExt_node hinside mem hpairwise (by omega)).1, if_neg (by omega)]
  · obtain ⟨last, hlast⟩ : ∃ last, indices.length = last + 1 := ⟨indices.length - 1, by omega⟩
    have hnode := (halExt_node hinside mem hpairwise (show last < indices.length by omega)).1
    rw [if_pos (by omega)] at hnode
    rw [hlast]
    exact hnode

theorem halExt_closedBack (mem : Nat → UInt8) (hpairwise : indices.Pairwise (· < ·)) (hne : 0 < indices.length) :
    ClosedBack (blink (storeAll mem (halExtLinks (indices.map nodeAt)))) (halExtEntry indices) indices.length := by
  constructor
  · intro i hi
    rw [(halExt_node hinside mem hpairwise hi).2]
    cases i with
    | zero => rfl
    | succ i => rw [if_neg (by omega)]
  · exact (halExt_head hinside mem hne).2

end Links

theorem map_initLinks (indices : List Nat) :
    indices.map initLinks = (List.range indices.length).map fun i => halExtEntry indices (i + 1) := by
  refine List.ext_getElem (by rw [List.length_map, List.length_map, List.length_range]) ?_
  intro i hi _
  rw [List.length_map] at hi
  simp only [List.getElem_map, List.getElem_range, halExtEntry, List.getD_eq_getElem?_getD,
    List.getElem?_eq_getElem hi, Option.getD_some]

/-- With at least one extension the links form the list. -/
theorem halExtLinks_list (mem : Nat → UInt8) {indices : List Nat}
    (hinside : ∀ i ∈ indices, 0x4040030 + 0x1000 * i ≤ MEM_SIZE.toNat) (hpairwise : indices.Pairwise (· < ·))
    (hne : indices ≠ []) : HalExtensionList (storeAll mem (halExtLinks (indices.map nodeAt))) indices := by
  have hpositive := List.length_pos_iff.mpr hne
  have hdistinct := halExtEntry_distinct hinside hpairwise
  refine ⟨hinside, ?_, ?_⟩
  · rw [map_initLinks]
    exact (halExt_closed hinside mem hpairwise hpositive).circuit hdistinct
  · rw [map_initLinks]
    exact (halExt_closedBack hinside mem hpairwise hpositive).circuit hdistinct

/-- Memory behind the list head in the loader extension. -/
def BehindHead (address : Nat) : Prop := 0x4008A80 ≤ address

theorem loadApiSet_changesOnly (profile : Profile) (dir : Directory) :
    ChangesOnly BehindHead (loadApiSet profile dir) := by
  unfold loadApiSet
  cases dir.read "apisetschema.dll" with
  | error message => exact Stateful.Moves.pure ()
  | ok apiset_buf =>
    have hbuffer : apiset_p.toNat = 0x4060000 := rfl
    have hext : ext_p.toNat = 0x4008000 := rfl
    have hwrite : ChangesOnly BehindHead (Vm.write_memory profile apiset_p apiset_buf) := by
      refine ChangesOnly.write_memory ?_
      rintro _ address ⟨hlow, _⟩
      exact Nat.le_trans (by omega) hlow
    refine hwrite.ok.bind fun _ => Stateful.Moves.lift_bind fun size _ => Stateful.Moves.ok ?_
    refine (LoaderParameterExtension.set_apiset_performs profile (by decide)).changesOnly ?_
    rintro write hstore address ⟨hlow, _⟩
    simp only [List.mem_cons, List.not_mem_nil, or_false] at hstore
    rcases hstore with rfl | rfl
    · exact Nat.le_trans (by omega) hlow
    · exact Nat.le_trans (by omega) hlow

/-- A module node and its name are written upwards from the node. -/
theorem add_module_changesOnly (profile : Profile) {entry_v entry_p img_base entry_point : UInt64} {size : UInt32}
    {name : String} {region : Nat → Prop} (hregion : ∀ address, entry_p.toNat ≤ address → region address)
    (hend : entry_p.toNat + 0x150 < 2 ^ 64) :
    ChangesOnly region (LdrDataTableEntry.add_module profile entry_v entry_p img_base entry_point size name) := by
  have hskip : (0x150 : UInt64).toNat = 0x150 := rfl
  unfold LdrDataTableEntry.add_module
  refine Stateful.Moves.lift_bind fun name_v _ => Stateful.Moves.lift_bind fun maximum _ => ?_
  refine Stateful.Moves.bind ?_ fun _ => Stateful.Moves.lift_bind fun name_p hname_p => ?_
  · refine ChangesOnly.write_memory ?_
    rintro _ address ⟨hlow, _⟩
    exact hregion address hlow
  · refine ChangesOnly.write_memory ?_
    rintro _ address ⟨hlow, _⟩
    rw [Profile.eq_of_add64 hname_p, BitField.toNat_add_of_lt (by omega)] at hlow
    exact hregion address (by omega)

theorem addNodes_changesOnly (profile : Profile) (hcount : modules.length ≤ 2 ^ 47) :
    ChangesOnly BehindHead (forM modules.zipIdx (addNode profile)) := by
  refine Stateful.Moves.forM ?_
  rintro ⟨m, i⟩ hentry
  have hi : i < modules.length := List.snd_lt_of_mem_zipIdx hentry
  have hnode : (nodeAt i).2.toNat = 0x4040000 + 0x1000 * i := by
    have hp : LPB_PBASE.toNat = 0x4000000 := rfl
    have hoffset : (0x40000 + UInt64.ofNat i * 0x1000).toNat = 0x40000 + i * 0x1000 :=
      BitField.toNat_add_index rfl rfl (by omega)
    change (LPB_PBASE + (0x40000 + UInt64.ofNat i * 0x1000)).toNat = _
    rw [BitField.toNat_add_of_lt (by omega), hoffset]
    omega
  have hadd : ChangesOnly BehindHead (LdrDataTableEntry.add_module profile (nodeAt i).1 (nodeAt i).2 m.v_base m.entry
      m.size m.name) := by
    refine add_module_changesOnly profile ?_ (by omega)
    intro address hlow
    exact Nat.le_trans (by omega) hlow
  exact Stateful.Moves.lift_bind fun _ _ => hadd.ok

/-- Where `setup` leaves the extension, the forward link at the list head is
    zero: the structure keeps the initial links eight bytes further on. -/
theorem flink_blockWrites (mem : Nat → UInt8) (hive_size : UInt32) :
    flink (storeAll mem (blockWrites hive_size)) hal_ext_head_v = 0 := by
  generalize hrecord : LOADER_PARAMETER_EXTENSION 0xE38 0x4000 (ext_v + 0xA18) (ext_v + 0xA18) 10 0 = record
  have hzeros : (record.drop 0xA10).take 16 = List.replicate 16 0 := by
    rw [← hrecord]
    exact (fields_LOADER_PARAMETER_EXTENSION _ _ _ _ _ _).1
  have hlength : record.length = 0xE40 := by
    rw [← hrecord]
    exact length_LOADER_PARAMETER_EXTENSION _ _ _ _ _ _
  have hblocks : blockWrites hive_size =
      (Kpcr.writes KPCR_VBASE 0x4010000 gdt_v idt_v tss_v stack_v ++
        (LoaderParameterBlock.writes LPB_VBASE 0x4000000 (KPCR_VBASE + 0x180) stack_v 0x10000 hive_v hive_size
          nls_v_base ++ acpi.tableWrites 0x5000000 ACPI_VBASE)) ++
        (0x4008000, record.take 0xE38) :: [(0x4008078, ofUInt64 ACPI_VBASE), (0x4008080, ofUInt32 36)] := by
    simp only [blockWrites, LoaderParameterExtension.writes, hrecord, List.append_assoc]
    rfl
  -- Only the ACPI fields at the start of the extension are written afterwards.
  have hlater : Misses (0x4008000 + 0xA18) 8 [(0x4008078, ofUInt64 ACPI_VBASE), (0x4008080, ofUInt32 36)] := by
    refine misses_cons.mpr ⟨disjoint_of_le ?_, misses_cons.mpr ⟨disjoint_of_le ?_, misses_nil _ _⟩⟩
    · rw [length_ofUInt64]
      omega
    · rw [length_ofUInt32]
      omega
  have hpart : ((record.take 0xE38).drop 0xA18).take 8 = List.replicate 8 0 := by
    have hend := congrArg (fun bytes => (bytes.drop 8).take 8) hzeros
    simpa [List.drop_take, List.take_take, List.drop_drop] using hend
  have hhead : physical hal_ext_head_v = 0x4008000 + 0xA18 := rfl
  rw [flink, hhead, hblocks, word, storeAll_append, storeAll_cons, load_storeAll_of_disjoint _ _ hlater,
    load_store_inside _ _ _ (by rw [List.length_take, hlength]; omega), hpart]
  rfl

/-- Without an extension nothing is linked, so the head is still as the loader
    extension was set up. -/
theorem flink_head_of_none {host : Host} {dir : Directory} {hive_size : UInt32} (hcount : modules.length ≤ 2 ^ 47)
    (hnone : halExtIndices host.cases modules = []) {before after : Vm}
    (hrun : (linkExtensions host dir hive_size modules).run before = .ok () after) :
    flink after.mem hal_ext_head_v = 0 := by
  unfold linkExtensions at hrun
  obtain ⟨_, blocks, hblocks, hrun⟩ := Stateful.bind_run_eq_ok_iff.mp hrun
  obtain ⟨_, schema, hschema, hrun⟩ := Stateful.bind_run_eq_ok_iff.mp hrun
  obtain ⟨_, nodes, hnodes, hrun⟩ := Stateful.bind_run_eq_ok_iff.mp hrun
  rw [halExtNodes_eq, hnone] at hrun
  obtain rfl : nodes = after := by injection hrun
  have hkept := ((loadApiSet_changesOnly host.profile dir).bind fun _ =>
    addNodes_changesOnly host.profile hcount).of_ok (Stateful.bind_run_eq_ok_iff.mpr ⟨_, _, hschema, hnodes⟩)
  have hhead : physical hal_ext_head_v = 0x4008A18 := rfl
  have hsame : flink nodes.mem hal_ext_head_v = flink blocks.mem hal_ext_head_v := by
    rw [flink, flink, word, word, hkept.load_eq]
    rintro address ⟨_, hhigh⟩ hbehind
    unfold BehindHead at hbehind
    omega
  rw [hsame, (initBlocks_performs host.profile hive_size).leaves _ _ _ hblocks]
  exact flink_blockWrites before.mem hive_size

theorem not_halExtensionList_of_zero {mem : Nat → UInt8} (hzero : flink mem hal_ext_head_v = 0) :
    ¬ HalExtensionList mem [] := by
  intro hlist
  have hself : flink mem hal_ext_head_v = hal_ext_head_v := by simpa using hlist.forward.chain
  rw [hzero] at hself
  cases hself

/-- The list of HAL extensions is well formed exactly when there is one: the
    linking code writes the whole list then, and leaves an unlinked head
    otherwise. -/
theorem halExtensionList_iff (host : Host) (dir : Directory) (hive_size : UInt32) {modules : List LoadedModule}
    (hcount : modules.length ≤ 2 ^ 47) {before after : Vm}
    (hrun : (linkExtensions host dir hive_size modules).run before = .ok () after) :
    HalExtensionList after.mem (halExtIndices host.cases modules) ↔
      halExtIndices host.cases modules ≠ [] ∧
        ∀ i ∈ halExtIndices host.cases modules, 0x4040030 + 0x1000 * i ≤ MEM_SIZE.toNat := by
  constructor
  · intro hlist
    refine ⟨?_, hlist.inside⟩
    intro hnone
    have hzero := flink_head_of_none hcount hnone hrun
    rw [hnone] at hlist
    exact not_halExtensionList_of_zero hzero hlist
  · rintro ⟨hne, hinside⟩
    unfold linkExtensions at hrun
    obtain ⟨_, _, _, hrun⟩ := Stateful.bind_run_eq_ok_iff.mp hrun
    obtain ⟨_, _, _, hrun⟩ := Stateful.bind_run_eq_ok_iff.mp hrun
    obtain ⟨_, nodes, _, hrun⟩ := Stateful.bind_run_eq_ok_iff.mp hrun
    have hnode : ∀ node ∈ (halExtIndices host.cases modules).map nodeAt, node.2.toNat + 0x30 ≤ MEM_SIZE.toNat := by
      intro node hmem
      obtain ⟨i, hi, rfl⟩ := List.mem_map.mp hmem
      rw [(index_toNat hinside hi).1]
      exact Nat.le_trans (by omega) (hinside i hi)
    rw [halExtNodes_eq] at hrun
    have hlinks := (linkHalExtensions_performs host.profile hnode).leaves _ _ _ hrun
    rw [if_neg (by simpa using hne)] at hlinks
    rw [hlinks]
    exact halExtLinks_list nodes.mem hinside (halExtIndices_pairwise host.cases modules) hne

/-- Without overflow checks and without a schema the code runs through for nodes
    that fit. -/
theorem linkExtensions_returns {host : Host} (hprofile : host.profile = .release) {dir : Directory} {message : String}
    (hread : dir.read "apisetschema.dll" = .error message) (hive_size : UInt32) (hinside : NodesInMemory modules)
    (before : Vm) : ∃ after, (linkExtensions host dir hive_size modules).run before = .ok () after := by
  have hnodes : Performs (forM modules.zipIdx (addNode host.profile)) (modules.zipIdx.flatMap nodeWrites) := by
    refine Performs.forM ?_
    intro entry hentry
    rw [hprofile]
    exact addNode_performs .release rfl rfl (hinside entry hentry)
  have hfits : ∀ node ∈ halExtNodes host.cases modules, node.2.toNat + 0x30 ≤ MEM_SIZE.toNat := by
    intro node hnode
    obtain ⟨entry, hentry, _, rfl⟩ := mem_halExtNodes hnode
    exact hinside.node_links (List.snd_lt_of_mem_zipIdx hentry)
  exact ((initBlocks_performs host.profile hive_size).bind ((loadApiSet_performs_none host.profile hread).bind
    (hnodes.bind (linkHalExtensions_performs host.profile hfits)))).returns before

def noFiles : Directory := ⟨fun _ => .error "No such file or directory", .ok []⟩

/-- The kernel, a HAL extension, a driver and another HAL extension. -/
def twoExtensions : List LoadedModule := extensionModules ++ [
  ⟨"CLFS.SYS", 0xFFFFF80003010000, 0x3010000, 0xFFFFF80003011000, 0x6A000, ⟨0, 0, [], [], "", "", []⟩⟩,
  ⟨"HalExtPL080.dll", 0xFFFFF80003080000, 0x3080000, 0xFFFFF80003081000, 0x8000, ⟨0, 0, [], [], "", "", []⟩⟩]

theorem halExtensionList_twoExtensions : ∃ after,
    (linkExtensions releaseHost noFiles 0 twoExtensions).run ⟨fun _ => 0⟩ = .ok () after ∧
      HalExtensionList after.mem [1, 3] := by
  have hinside : NodesInMemory twoExtensions := by
    unfold NodesInMemory
    decide
  obtain ⟨after, hrun⟩ := linkExtensions_returns (show releaseHost.profile = .release from rfl)
    (show noFiles.read "apisetschema.dll" = .error _ from rfl) 0 hinside ⟨fun _ => 0⟩
  have hindices : halExtIndices releaseHost.cases twoExtensions = [1, 3] := by decide
  have hlist := halExtensionList_iff releaseHost noFiles 0 (by decide) hrun
  rw [hindices] at hlist
  exact ⟨after, hrun, hlist.mpr (by decide)⟩

/-- With the kernel alone the head is linked to address zero. -/
theorem not_halExtensionList_kernel : ∃ after,
    (linkExtensions releaseHost noFiles 0 (extensionModules.take 1)).run ⟨fun _ => 0⟩ = .ok () after ∧
      ¬ HalExtensionList after.mem (halExtIndices releaseHost.cases (extensionModules.take 1)) := by
  have hinside : NodesInMemory (extensionModules.take 1) := by
    unfold NodesInMemory
    decide
  obtain ⟨after, hrun⟩ := linkExtensions_returns (show releaseHost.profile = .release from rfl)
    (show noFiles.read "apisetschema.dll" = .error _ from rfl) 0 hinside ⟨fun _ => 0⟩
  have hnone : halExtIndices releaseHost.cases (extensionModules.take 1) = [] := by decide
  refine ⟨after, hrun, ?_⟩
  rw [hnone]
  exact not_halExtensionList_of_zero (flink_head_of_none (by decide) hnone hrun)

end vwfl.main
