import Vwfl.Linked
import Vwfl.Main.Nodes
import Vwfl.Rust.Utf16

open Rust ByteStore LittleEndian Linked
open vwfl.vm vwfl.pe vwfl.loader vwfl.loaderblock

namespace vwfl.main

/-- What the guest reads from the node of a module. -/
structure ModuleEntry where
  DllBase : UInt64
  EntryPoint : UInt64
  SizeOfImage : UInt32
  BaseDllName : Option String

/-- The text of the UNICODE_STRING at a physical address: `Length` bytes of
    UTF-16 at `Buffer`. -/
def unicodeString (mem : Nat → UInt8) (address : Nat) : Option String :=
  let Length := toUInt16 (load mem address 2)
  let Buffer := word mem (address + 8)
  from_utf16 (unitsOf (load mem (physical Buffer) Length.toNat))

def moduleEntryAt (mem : Nat → UInt8) (node_v : UInt64) : ModuleEntry where
  DllBase := word mem (physical node_v + 0x30)
  EntryPoint := word mem (physical node_v + 0x38)
  SizeOfImage := toUInt32 (load mem (physical node_v + 0x40) 4)
  BaseDllName := unicodeString mem (physical node_v + 0x58)

/-- Virtual addresses of the nodes, in load order. -/
def moduleNodes (modules : List LoadedModule) : List UInt64 := (List.range modules.length).map fun i => (nodeAt i).1

/-- The guest gets the modules back. The load-order links run from the list head
    through all nodes in both directions, the memory-order links run through
    the nodes alone, and each node describes its module. -/
structure RoundTrip (mem : Nat → UInt8) (modules : List LoadedModule) : Prop where
  flinks : Circuit (flink mem) (head_v1 :: moduleNodes modules)
  blinks : Circuit (blink mem) (head_v1 :: (moduleNodes modules).reverse)
  memoryFlinks : Circuit (flink mem) ((moduleNodes modules).map (· + 0x10))
  memoryBlinks : Circuit (blink mem) ((moduleNodes modules).map (· + 0x10)).reverse
  entries : (moduleNodes modules).map (moduleEntryAt mem) =
    modules.map fun m => ⟨m.v_base, m.entry, m.size, some m.name⟩

variable {modules : List LoadedModule} {i : Nat}

theorem nodeV_nodes (hi : i < modules.length) :
    nodeV ((List.range modules.length).map nodeAt) i = (nodeAt i).1 := by
  rw [nodeV, List.getD_eq_getElem?_getD, List.getElem?_map, List.getElem?_range hi]
  rfl

/-- The load-order links are stored last. -/
theorem registerWrites_split (cases : CaseMap) (modules : List LoadedModule) :
    ∃ front, registerWrites cases modules = front ++ loadOrderLinks ((List.range modules.length).map nodeAt) := by
  rw [registerWrites, moduleLinks, ← List.append_assoc]
  exact ⟨_, rfl⟩

/-- A name is read back from its length, its address and its bytes. -/
theorem unicodeString_of_load {cells : Nat → UInt8} {address : Nat} (buffer : UInt64) {name : String}
    (hlength : load cells address 2 = ofUInt16 (UInt16.ofNat (nameBytes name).length))
    (hbuffer : load cells (address + 8) 8 = ofUInt64 buffer)
    (hbytes : load cells (physical buffer) (nameBytes name).length = nameBytes name)
    (hshort : (nameBytes name).length < 2 ^ 16) : unicodeString cells address = some name := by
  have hcount : (UInt16.ofNat (nameBytes name).length).toNat = (nameBytes name).length := by
    rw [UInt16.toNat_ofNat', Nat.mod_eq_of_lt hshort]
  rw [unicodeString, word, hlength, hbuffer, toUInt16_ofUInt16, toUInt64_ofUInt64, hcount, hbytes, nameBytes,
    unitsOf_flatMap, from_utf16_encode_utf16]

section Places

variable (hinside : NodesInMemory modules)

include hinside

theorem physical_node (hi : i < modules.length) : physical (nodeAt i).1 = 0x4040000 + 0x1000 * i :=
  physical_eq (hinside.node_toNat hi).1

/-- A field of a node lies at its offset. -/
theorem physical_node_add (hi : i < modules.length) {offset : UInt64} {distance : Nat}
    (hoffset : offset.toNat = distance) (hsmall : distance < 0x1000) :
    physical ((nodeAt i).1 + offset) = 0x4040000 + 0x1000 * i + distance := by
  have hk : K_VIRT_ANY.toNat = 0xFFFFF80000000000 := rfl
  have hnode := hinside.node_toNat hi
  have hlinks := hinside.node_links hi
  have hsize := MEM_SIZE_toNat
  refine physical_eq ?_
  rw [BitField.toNat_add_of_lt (by omega)]
  omega

end Places

section Links

-- Guest memory behind the linking loop, whatever it held before.
variable (mem : Nat → UInt8) (cases : CaseMap) (hinside : NodesInMemory modules)

include hinside

/-- The list head points to the first and the last node. -/
theorem loadOrder_head (hne : 0 < modules.length) :
    flink (storeAll mem (registerWrites cases modules)) head_v1 = (nodeAt 0).1 ∧
      blink (storeAll mem (registerWrites cases modules)) head_v1 = (nodeAt (modules.length - 1)).1 := by
  have hhead : physical head_v1 = 0x4000010 := physical_eq (by decide)
  have hboot : Misses 0x4000010 16 (linkWrites 0x4000030 (LPB_VBASE + 0x30) (LPB_VBASE + 0x30)) :=
    linkWrites_misses _ _ (disjoint_of_le (by omega))
  have hloop : Misses 0x4000010 16 (((List.range modules.length).map nodeAt).zipIdx.flatMap
      (orderWrites ((List.range modules.length).map nodeAt))) :=
    orderWrites_misses hinside _ (fun _ hentry => hentry) fun entry _ => disjoint_of_le (by omega)
  obtain ⟨front, hfront⟩ := registerWrites_split cases modules
  rw [hfront, loadOrderLinks_eq, List.length_map, List.length_range, nodeV_nodes hne, nodeV_nodes (by omega)]
  exact links_survive mem hhead (misses_append.mpr ⟨hboot, hloop⟩)

/-- Stores of the linking loop for a node. Later ones miss the node's links. -/
theorem orderWrites_split (hi : i < modules.length) :
    ∃ before later, registerWrites cases modules =
        before ++ (orderWrites ((List.range modules.length).map nodeAt) (nodeAt i, i) ++ later) ∧
      Misses (0x4040000 + 0x1000 * i) 0x20 later := by
  obtain ⟨front, hfront⟩ := registerWrites_split cases modules
  obtain ⟨earlier, later, hsplit, hlater⟩ := split_of_mem_zipIdx (mem_nodes_zipIdx.mpr ⟨hi, rfl⟩)
  have hrest : Misses (0x4040000 + 0x1000 * i) 0x20
      (later.flatMap (orderWrites ((List.range modules.length).map nodeAt))) := by
    refine orderWrites_misses hinside _ (fun entry hentry => (hlater entry hentry).1) ?_
    intro entry hentry
    have horder := (hlater entry hentry).2
    exact disjoint_of_le (by simp only at horder; omega)
  rw [hfront, loadOrderLinks_eq, hsplit, List.flatMap_append, List.flatMap_cons, ← List.append_assoc,
    ← List.append_assoc, ← List.append_assoc]
  exact ⟨_, _, rfl, hrest⟩

/-- A node is linked to its neighbours in both lists. -/
theorem loadOrder_node (hi : i < modules.length) :
    (flink (storeAll mem (registerWrites cases modules)) (nodeAt i).1 =
        (if i = modules.length - 1 then head_v1 else (nodeAt (i + 1)).1) ∧
      blink (storeAll mem (registerWrites cases modules)) (nodeAt i).1 =
        (if i = 0 then head_v1 else (nodeAt (i - 1)).1)) ∧
    (flink (storeAll mem (registerWrites cases modules)) ((nodeAt i).1 + 0x10) =
        (if i = modules.length - 1 then (nodeAt 0).1 + 0x10 else (nodeAt (i + 1)).1 + 0x10) ∧
      blink (storeAll mem (registerWrites cases modules)) ((nodeAt i).1 + 0x10) =
        (if i = 0 then (nodeAt (modules.length - 1)).1 + 0x10 else (nodeAt (i - 1)).1 + 0x10)) := by
  have hnode := (hinside.node_toNat hi).2
  have hlength : ((List.range modules.length).map nodeAt).length = modules.length := by
    rw [List.length_map, List.length_range]
  have hfirst := nodeV_nodes (show 0 < modules.length by omega)
  have hlast := nodeV_nodes (show modules.length - 1 < modules.length by omega)
  have hnext : i ≠ modules.length - 1 → nodeV ((List.range modules.length).map nodeAt) (i + 1) = (nodeAt (i + 1)).1 :=
    fun hne => nodeV_nodes (by omega)
  have hprev : i ≠ 0 → nodeV ((List.range modules.length).map nodeAt) (i - 1) = (nodeAt (i - 1)).1 :=
    fun hne => nodeV_nodes (by omega)
  obtain ⟨before, later, hwrites, hlater⟩ := orderWrites_split cases hinside hi
  rw [hwrites]
  simp only [orderWrites, hlength, hfirst, hlast, List.append_assoc, hnode]
  constructor
  · have hmemory : ∀ next_v prev_v, Misses (0x4040000 + 0x1000 * i) 16
        (linkWrites (0x4040000 + 0x1000 * i + 0x10) next_v prev_v ++ later) := fun next_v prev_v =>
      misses_append.mpr ⟨linkWrites_misses _ _ (disjoint_of_le (by omega)), hlater.mono (by omega) (by omega)⟩
    obtain ⟨hflink, hblink⟩ := links_survive mem (physical_node hinside hi) (hmemory _ _)
    rw [hflink, hblink]
    exact ⟨ite_congr rfl (fun _ => rfl) fun hne => hnext hne, ite_congr rfl (fun _ => rfl) fun hne => hprev hne⟩
  · rw [← List.append_assoc]
    obtain ⟨hflink, hblink⟩ := links_survive mem
      (physical_node_add hinside hi (show (0x10 : UInt64).toNat = 0x10 from rfl) (by omega))
      (hlater.mono (by omega) (by omega))
    rw [hflink, hblink]
    exact ⟨ite_congr rfl (fun _ => rfl) fun hne => by rw [hnext hne],
      ite_congr rfl (fun _ => rfl) fun hne => by rw [hprev hne]⟩

theorem nodeAt_injective {j : Nat} (hi : i < modules.length) (hj : j < modules.length)
    (heq : (nodeAt i).1 = (nodeAt j).1) : i = j := by
  have hfirst := (hinside.node_toNat hi).1
  have hsecond := (hinside.node_toNat hj).1
  rw [heq] at hfirst
  omega

end Links

/-- Entries of the load-order list, its head first. -/
def loadOrderEntry : Nat → UInt64
  | 0 => head_v1
  | i + 1 => (nodeAt i).1

section Lists

variable (mem : Nat → UInt8) (cases : CaseMap) (hinside : NodesInMemory modules)

include hinside

theorem loadOrderEntry_distinct :
    ∀ i ≤ modules.length, ∀ j ≤ modules.length, loadOrderEntry i = loadOrderEntry j → i = j := by
  have hhead : ∀ i < modules.length, head_v1 ≠ (nodeAt i).1 := by
    intro i hi heq
    have hnode := (hinside.node_toNat hi).1
    have hvalue : head_v1.toNat = K_VIRT_ANY.toNat + 0x4000010 := rfl
    rw [← heq] at hnode
    omega
  intro i hi j hj heq
  cases i with
  | zero =>
    cases j with
    | zero => rfl
    | succ j => exact absurd heq (hhead j (by omega))
  | succ i =>
    cases j with
    | zero => exact absurd heq.symm (hhead i (by omega))
    | succ j => rw [nodeAt_injective hinside (by omega) (by omega) heq]

theorem loadOrder_closed (hne : 0 < modules.length) :
    Closed (flink (storeAll mem (registerWrites cases modules))) loadOrderEntry modules.length := by
  constructor
  · intro i hi
    cases i with
    | zero => exact (loadOrder_head mem cases hinside hne).1
    | succ i =>
      rw [loadOrderEntry, (loadOrder_node mem cases hinside (by omega)).1.1, if_neg (by omega), loadOrderEntry]
  · obtain ⟨last, hlast⟩ : ∃ last, modules.length = last + 1 := ⟨modules.length - 1, by omega⟩
    have hnode := (loadOrder_node mem cases hinside (show last < modules.length by omega)).1.1
    rw [if_pos (by omega)] at hnode
    rw [hlast]
    exact hnode

theorem loadOrder_closedBack (hne : 0 < modules.length) :
    ClosedBack (blink (storeAll mem (registerWrites cases modules))) loadOrderEntry modules.length := by
  constructor
  · intro i hi
    rw [loadOrderEntry, (loadOrder_node mem cases hinside hi).1.2]
    cases i with
    | zero => rfl
    | succ i => rw [if_neg (by omega), Nat.add_sub_cancel, loadOrderEntry]
  · obtain ⟨last, hlast⟩ : ∃ last, modules.length = last + 1 := ⟨modules.length - 1, by omega⟩
    rw [loadOrderEntry, (loadOrder_head mem cases hinside hne).2, hlast, Nat.add_sub_cancel, loadOrderEntry]

/-- The memory-order links, from the first node on. -/
theorem memoryOrder_closed (hne : 0 < modules.length) :
    Closed (flink (storeAll mem (registerWrites cases modules))) (fun i => (nodeAt i).1 + 0x10)
      (modules.length - 1) := by
  constructor
  · intro i hi
    rw [(loadOrder_node mem cases hinside (by omega)).2.1, if_neg (by omega)]
  · rw [(loadOrder_node mem cases hinside (by omega)).2.1, if_pos rfl]

theorem memoryOrder_closedBack (hne : 0 < modules.length) :
    ClosedBack (blink (storeAll mem (registerWrites cases modules))) (fun i => (nodeAt i).1 + 0x10)
      (modules.length - 1) := by
  constructor
  · intro i hi
    rw [(loadOrder_node mem cases hinside (by omega)).2.2, if_neg (by omega), Nat.add_sub_cancel]
  · rw [(loadOrder_node mem cases hinside hne).2.2, if_pos rfl]

/-- Memory-order entries of different nodes differ. -/
theorem memoryEntry_distinct (hne : 0 < modules.length) :
    ∀ i ≤ modules.length - 1, ∀ j ≤ modules.length - 1, (nodeAt i).1 + 0x10 = (nodeAt j).1 + 0x10 → i = j := by
  intro i hi j hj heq
  exact nodeAt_injective hinside (by omega) (by omega) ((UInt64.add_left_inj 0x10).mp heq)

end Lists

/-- A node describes its module. -/
theorem moduleEntryAt_node (mem : Nat → UInt8) (cases : CaseMap) (hapart : NodesApart modules)
    {entry : LoadedModule × Nat} (hentry : entry ∈ modules.zipIdx)
    (hshort : (nameBytes entry.1.name).length < 2 ^ 16) :
    moduleEntryAt (storeAll mem (registerWrites cases modules)) (nodeAt entry.2).1 =
      ⟨entry.1.v_base, entry.1.entry, entry.1.size, some entry.1.name⟩ := by
  have hi : entry.2 < modules.length := List.snd_lt_of_mem_zipIdx hentry
  have hnode := hapart.node_toNat hentry
  have hplace := physical_node hapart.inside hi
  have hbuffer_p := physical_node_add hapart.inside hi (show (0x150 : UInt64).toNat = 0x150 from rfl) (by omega)
  have hlinks := linkBytes_bounds cases entry.1.name
  have hlength := length_nodeRecord entry
  have hsurvive : ∀ object ∈ nodeContents cases entry,
      load (storeAll mem (registerWrites cases modules)) object.1 object.2.length = object.2 := by
    intro object hobject
    have hload := nodeContents_survive mem cases [] hapart hentry hobject (misses_nil _ _)
    rwa [List.nil_append, List.append_nil] at hload
  generalize storeAll mem (registerWrites cases modules) = cells at hsurvive ⊢
  have hrecord := hsurvive _ List.mem_cons_self
  have hbytes := hsurvive _ (List.mem_cons_of_mem _ List.mem_cons_self)
  rw [hnode] at hrecord hbytes
  -- Behind the links the record is intact, so each field is found at its offset.
  have hfield : ∀ index size, 0x30 ≤ index → index + size ≤ 0x120 →
      load cells (0x4040000 + 0x1000 * entry.2 + index) size = ((nodeRecord entry).drop index).take size :=
    fun index size hlow hhigh => load_of_drop hrecord (by omega) (by omega)
  obtain ⟨hbase, hpoint, hsize, _, hcount, hbuffer⟩ := fields_nodeRecord entry
  have hname : unicodeString cells (0x4040000 + 0x1000 * entry.2 + 0x58) = some entry.1.name := by
    refine unicodeString_of_load ((nodeAt entry.2).1 + 0x150) ?_ ?_ ?_ hshort
    · rw [hfield _ _ (by omega) (by omega), hcount]
    · rw [Nat.add_assoc _ 0x58 8, hfield _ _ (by omega) (by omega), hbuffer]
    · rw [hbuffer_p]
      exact hbytes
  rw [moduleEntryAt, hplace, hname, word, word, hfield _ _ (by omega) (by omega), hfield _ _ (by omega) (by omega),
    hfield _ _ (by omega) (by omega), hbase, hpoint, hsize, toUInt64_ofUInt64, toUInt64_ofUInt64, toUInt32_ofUInt32]

/-- A name takes at most twice its bytes in UTF-16. -/
theorem length_nameBytes_le (name : String) : (nameBytes name).length ≤ 2 * name.utf8ByteSize := by
  have hunits := length_encode_utf16_le name
  have hbytes : (nameBytes name).length = 2 * (encode_utf16 name).length := by
    rw [nameBytes, List.length_flatMap]
    simp [Nat.mul_comm]
  omega

/-- Names of at most 255 bytes fit behind their nodes. -/
theorem nodesApart_of_short (hnames : ∀ m ∈ modules, m.name.utf8ByteSize ≤ 255)
    (hnodes : 0x4040000 + 0x1000 * modules.length ≤ MEM_SIZE.toNat) : NodesApart modules := by
  have hlength : ∀ entry ∈ modules.zipIdx, (nameBytes entry.1.name).length ≤ 510 := by
    intro entry hentry
    have hname := hnames entry.1 (List.fst_mem_of_mem_zipIdx hentry)
    have hbytes := length_nameBytes_le entry.1.name
    omega
  constructor
  · intro entry hentry
    have hbytes := hlength entry hentry
    have hi := List.snd_lt_of_mem_zipIdx hentry
    omega
  · intro entry hentry _
    have hbytes := hlength entry hentry
    omega

/-- Guest memory behind the linking loop gives the modules back. -/
theorem registerWrites_roundTrip (mem : Nat → UInt8) (cases : CaseMap) (hne : 0 < modules.length)
    (hapart : NodesApart modules) (hshort : ∀ m ∈ modules, (nameBytes m.name).length < 2 ^ 16) :
    RoundTrip (storeAll mem (registerWrites cases modules)) modules := by
  have hinside := hapart.inside
  have hdistinct := loadOrderEntry_distinct hinside
  have hmemory := memoryEntry_distinct hinside hne
  have hentries : (moduleNodes modules).map (· + 0x10) =
      ((nodeAt 0).1 + 0x10) :: (List.range (modules.length - 1)).map fun i => (nodeAt (i + 1)).1 + 0x10 := by
    rw [map_range_succ (fun i => (nodeAt i).1 + 0x10), Nat.sub_add_cancel hne, moduleNodes, List.map_map]
    rfl
  refine ⟨?_, ?_, ?_, ?_, ?_⟩
  · exact (loadOrder_closed mem cases hinside hne).circuit hdistinct
  · exact (loadOrder_closedBack mem cases hinside hne).circuit hdistinct
  · rw [hentries]
    exact (memoryOrder_closed mem cases hinside hne).circuit hmemory
  · rw [hentries, List.reverse_cons]
    exact ((memoryOrder_closedBack mem cases hinside hne).circuit hmemory).rotate
  · apply List.ext_getElem
    · rw [List.length_map, List.length_map, moduleNodes, List.length_map, List.length_range]
    · intro i _ hi
      rw [List.length_map] at hi
      have hentry : (modules[i], i) ∈ modules.zipIdx := by
        rw [List.mem_zipIdx_iff_getElem?]
        exact List.getElem?_eq_getElem hi
      have hnode := moduleEntryAt_node mem cases hapart hentry (hshort _ (List.getElem_mem hi))
      simpa only [moduleNodes, List.getElem_map, List.getElem_range] using hnode

/-- Registering modules leaves lists from which they are read back. It completes
    unless an overflow check fails on the printed end of a module. -/
theorem registerModules_roundTrip (host : Host) {modules : List LoadedModule} (hne : modules ≠ [])
    (hnames : ∀ m ∈ modules, m.name.utf8ByteSize ≤ 255)
    (hnodes : 0x4040000 + 0x1000 * modules.length ≤ MEM_SIZE.toNat) (before : Vm) :
    (∀ after, (registerModules host modules).run before = .ok () after → RoundTrip after.mem modules) ∧
      ((host.profile = .release ∨ ∀ m ∈ modules, m.v_base.toNat + m.size.toNat < 2 ^ 64) →
        ∃ after, (registerModules host modules).run before = .ok () after) := by
  have hapart := nodesApart_of_short hnames hnodes
  have hshort : ∀ m ∈ modules, (nameBytes m.name).length ≤ 510 := by
    intro m hm
    have hname := hnames m hm
    have hbytes := length_nameBytes_le m.name
    omega
  constructor
  · intro after hrun
    have hmem := registerModules_leaves host hapart.inside before after () hrun
    rw [hmem]
    refine registerWrites_roundTrip before.mem host.cases (List.length_pos_iff.mpr hne) hapart ?_
    intro m hm
    have hbytes := hshort m hm
    omega
  · intro hsums
    refine (registerModules_performs hapart.inside ?_ ?_).returns before
    · intro m hm
      rcases hsums with hrelease | hends
      · rw [hrelease, Profile.add64_release]
      · exact host.profile.add64_of_lt (by rw [UInt32.toNat_toUInt64]; exact hends m hm)
    · intro m hm
      have hbytes := hshort m hm
      have hterminator : (2 : UInt16).toNat = 2 := rfl
      refine Profile.checked_of_not_overflow host.profile _ _ (decide_eq_false ?_)
      rw [UInt16.toNat_ofNat', hterminator]
      omega

/-- A kernel and a HAL extension, whose node is on one list more. -/
def extensionModules : List LoadedModule := [
  ⟨"ntoskrnl.exe", 0xFFFFF80000200000, 0x200000, 0xFFFFF80000B92010, 0x1046000, ⟨0, 0, [], [], "", "", []⟩⟩,
  ⟨"HalExtIntcLpioDMA.dll", 0xFFFFF80003000000, 0x3000000, 0xFFFFF80003001000, 0x9000, ⟨0, 0, [], [], "", "", []⟩⟩]

theorem registerModules_roundTrip_extensionModules : ∃ after,
    (registerModules releaseHost extensionModules).run ⟨fun _ => 0⟩ = .ok () after ∧
      RoundTrip after.mem extensionModules := by
  obtain ⟨hback, hcompletes⟩ := @registerModules_roundTrip releaseHost extensionModules (List.cons_ne_nil _ _)
    (by decide) (by decide) ⟨fun _ => 0⟩
  obtain ⟨after, hrun⟩ := hcompletes (.inl rfl)
  exact ⟨after, hrun, hback after hrun⟩

end vwfl.main
