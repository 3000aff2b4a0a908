import Vwfl.Main.Links
import Vwfl.Main.Trace

open Rust ByteStore LittleEndian
open vwfl.vm vwfl.pe vwfl.loader vwfl.loaderblock

namespace vwfl.main

/-- Bytes at the start of a node that are list links written later. -/
def linkBytes (cases : CaseMap) (name : String) : Nat :=
  if contains (cases.to_lowercase name) "halext" then 0x30 else 0x20

/-- The node of a module and its number. -/
def nodeRecord (entry : LoadedModule × Nat) : List UInt8 :=
  let len := UInt16.ofNat (nameBytes entry.1.name).length
  LDR_DATA_TABLE_ENTRY entry.1.v_base entry.1.entry entry.1.size len (len + 2) ((nodeAt entry.2).1 + 0x150) 0x40004 1

/-- A node behind its links, and its name. -/
def nodeContents (cases : CaseMap) (entry : LoadedModule × Nat) : List (Nat × List UInt8) :=
  let links := linkBytes cases entry.1.name
  [((nodeAt entry.2).2.toNat + links, (nodeRecord entry).drop links),
    ((nodeAt entry.2).2.toNat + 0x150, nameBytes entry.1.name)]

/-- LoadOrderListHead. -/
def head_v1 : UInt64 := LPB_VBASE + 0x10

/-- Stores for the node of a list and its number: its load-order links and its
    memory-order links. -/
def orderWrites (nodes : List (UInt64 × UInt64)) (entry : (UInt64 × UInt64) × Nat) : List (Nat × List UInt8) :=
  let (node, i) := entry
  linkWrites node.2.toNat (if i = nodes.length - 1 then head_v1 else nodeV nodes (i + 1))
      (if i = 0 then head_v1 else nodeV nodes (i - 1)) ++
    linkWrites (node.2.toNat + 0x10)
      (if i = nodes.length - 1 then nodeV nodes 0 + 0x10 else nodeV nodes (i + 1) + 0x10)
      (if i = 0 then nodeV nodes (nodes.length - 1) + 0x10 else nodeV nodes (i - 1) + 0x10)

theorem loadOrderLinks_eq (nodes : List (UInt64 × UInt64)) :
    loadOrderLinks nodes =
      linkWrites 0x4000010 (nodeV nodes 0) (nodeV nodes (nodes.length - 1)) ++
        (linkWrites 0x4000030 (LPB_VBASE + 0x30) (LPB_VBASE + 0x30) ++ nodes.zipIdx.flatMap (orderWrites nodes)) := rfl

variable {modules : List LoadedModule} {start length : Nat}

theorem length_nodeRecord (entry : LoadedModule × Nat) : (nodeRecord entry).length = 0x120 :=
  length_LDR_DATA_TABLE_ENTRY _ _ _ _ _ _ _ _

/-- What a node says about its module. -/
theorem fields_nodeRecord (entry : LoadedModule × Nat) :
    ((nodeRecord entry).drop 0x30).take 8 = ofUInt64 entry.1.v_base ∧
      ((nodeRecord entry).drop 0x38).take 8 = ofUInt64 entry.1.entry ∧
      ((nodeRecord entry).drop 0x40).take 4 = ofUInt32 entry.1.size ∧
      ((nodeRecord entry).drop 0x50).take 8 = ofUInt64 ((nodeAt entry.2).1 + 0x150) ∧
      ((nodeRecord entry).drop 0x58).take 2 = ofUInt16 (UInt16.ofNat (nameBytes entry.1.name).length) ∧
      ((nodeRecord entry).drop 0x60).take 8 = ofUInt64 ((nodeAt entry.2).1 + 0x150) :=
  fields_LDR_DATA_TABLE_ENTRY _ _ _ _ _ _ _ _

/-- The nodes of the modules lie in guest memory, and only the name of the last
    one may be longer than its page. -/
structure NodesApart (modules : List LoadedModule) : Prop where
  inside : NodesInMemory modules
  names : ∀ entry ∈ modules.zipIdx, entry.2 + 1 < modules.length →
    0x150 + (nameBytes entry.1.name).length ≤ 0x1000

theorem NodesApart.node_toNat (hapart : NodesApart modules) {entry : LoadedModule × Nat}
    (hentry : entry ∈ modules.zipIdx) : (nodeAt entry.2).2.toNat = 0x4040000 + 0x1000 * entry.2 :=
  (hapart.inside.node_toNat (List.snd_lt_of_mem_zipIdx hentry)).2

theorem linkBytes_bounds (cases : CaseMap) (name : String) :
    0x20 ≤ linkBytes cases name ∧ linkBytes cases name ≤ 0x30 := by
  unfold linkBytes
  split <;> omega

/-- A numbered node of the list is the node of that number. -/
theorem mem_nodes_zipIdx {count i : Nat} {node : UInt64 × UInt64} :
    (node, i) ∈ ((List.range count).map nodeAt).zipIdx ↔ i < count ∧ node = nodeAt i := by
  rw [List.mem_zipIdx_iff_getElem?, List.getElem?_map]
  by_cases hi : i < count
  · rw [List.getElem?_range hi, Option.map_some, Option.some.injEq]
    exact ⟨fun hnode => ⟨hi, hnode.symm⟩, fun hnode => hnode.2.symm⟩
  · rw [List.getElem?_eq_none (by rw [List.length_range]; omega), Option.map_none]
    simp [hi]

/-- Links of the nodes of a list miss a range that meets none of them. -/
theorem orderWrites_misses (hinside : NodesInMemory modules) {entries : List ((UInt64 × UInt64) × Nat)}
    (nodes : List (UInt64 × UInt64))
    (hentries : ∀ entry ∈ entries, entry ∈ ((List.range modules.length).map nodeAt).zipIdx)
    (hdisjoint : ∀ entry ∈ entries, Disjoint start length (0x4040000 + 0x1000 * entry.2) 0x20) :
    Misses start length (entries.flatMap (orderWrites nodes)) := by
  refine misses_flatMap ?_
  rintro ⟨node, i⟩ hentry
  obtain ⟨hi, rfl⟩ := mem_nodes_zipIdx.mp (hentries _ hentry)
  have hnode := (hinside.node_toNat hi).2
  have hlinks := hdisjoint _ hentry
  refine misses_append.mpr ⟨linkWrites_misses _ _ (hlinks.inner ?_ ?_), linkWrites_misses _ _ (hlinks.inner ?_ ?_)⟩
  all_goals simp only
  all_goals omega

/-- Links miss a range that meets neither the list heads nor the links of a
    node. -/
theorem moduleLinks_misses (cases : CaseMap) (hapart : NodesApart modules)
    (hheads : Disjoint start length 0x4000010 0x30) (hextension : Disjoint start length 0x4008A18 0x10)
    (hlinks : ∀ entry ∈ modules.zipIdx,
      Disjoint start length (0x4040000 + 0x1000 * entry.2) (linkBytes cases entry.1.name)) :
    Misses start length (moduleLinks cases modules) := by
  refine misses_append.mpr ⟨?_, ?_⟩
  · split
    · exact misses_nil start length
    · refine misses_append.mpr ⟨linkWrites_misses _ _ hextension, ?_⟩
      intro write hwrite
      obtain ⟨⟨node, i⟩, hnode, hwrite⟩ := List.mem_flatMap.mp hwrite
      obtain ⟨entry, hentry, hhalext, rfl⟩ := mem_halExtNodes (List.fst_mem_of_mem_zipIdx hnode)
      have hdisjoint := hlinks entry hentry
      rw [linkBytes, if_pos hhalext] at hdisjoint
      have hplace := hapart.node_toNat hentry
      exact linkWrites_misses _ _ (hdisjoint.inner (by omega) (by omega)) write hwrite
  · rw [loadOrderLinks_eq]
    refine misses_append.mpr ⟨linkWrites_misses _ _ (hheads.inner (by decide) (by decide)), ?_⟩
    refine misses_append.mpr ⟨linkWrites_misses _ _ (hheads.inner (by decide) (by decide)), ?_⟩
    refine orderWrites_misses hapart.inside _ (fun _ hentry => hentry) ?_
    rintro ⟨node, i⟩ hnode
    obtain ⟨entry, hentry, rfl⟩ := exists_mem_zipIdx (mem_nodes_zipIdx.mp hnode).1
    have hroom := linkBytes_bounds cases entry.1.name
    exact (hlinks entry hentry).inner (Nat.le_refl _) (by simp only; omega)

/-- Nodes miss a range that meets neither the node nor the name of a module. -/
theorem nodeWrites_misses {entries : List (LoadedModule × Nat)} (hentries : entries ⊆ modules.zipIdx)
    (hapart : NodesApart modules)
    (hnodes : ∀ entry ∈ entries, Disjoint start length (0x4040000 + 0x1000 * entry.2) 0x120 ∧
      Disjoint start length (0x4040150 + 0x1000 * entry.2) (nameBytes entry.1.name).length) :
    Misses start length (entries.flatMap nodeWrites) := by
  intro write hwrite
  obtain ⟨entry, hentry, hwrite⟩ := List.mem_flatMap.mp hwrite
  obtain ⟨hnode, hname⟩ := hnodes entry hentry
  have hplace := hapart.node_toNat (hentries hentry)
  simp only [nodeWrites, LdrDataTableEntry.writes, List.mem_cons, List.not_mem_nil, or_false] at hwrite
  rcases hwrite with rfl | rfl
  · rw [length_LDR_DATA_TABLE_ENTRY, hplace]
    exact hnode
  · rw [hplace]
    exact hname.inner (by omega) (by simp only; omega)

theorem eq_of_mem_zipIdx {first second : LoadedModule × Nat} (hfirst : first ∈ modules.zipIdx)
    (hsecond : second ∈ modules.zipIdx) (hindex : first.2 = second.2) : first = second := by
  rw [List.mem_zipIdx_iff_getElem?] at hfirst hsecond
  rw [hindex, hsecond] at hfirst
  exact Prod.ext (Option.some.inj hfirst.symm) hindex

/-- What is stored for the later modules and the links misses a range of a node
    behind its links that ends before the next node. -/
theorem laterWrites_misses (cases : CaseMap) (hapart : NodesApart modules) {entry : LoadedModule × Nat}
    (hentry : entry ∈ modules.zipIdx) {later : List (LoadedModule × Nat)}
    (hlater : ∀ other ∈ later, other ∈ modules.zipIdx ∧ entry.2 < other.2)
    (hlow : 0x4040000 + 0x1000 * entry.2 + linkBytes cases entry.1.name ≤ start)
    (hnext : entry.2 + 1 < modules.length → start + length ≤ 0x4041000 + 0x1000 * entry.2) :
    Misses start length (later.flatMap nodeWrites ++ moduleLinks cases modules) := by
  have hsubset : later ⊆ modules.zipIdx := fun other hother => (hlater other hother).1
  refine misses_append.mpr ⟨nodeWrites_misses hsubset hapart ?_, moduleLinks_misses cases hapart
    (disjoint_of_le (by omega)) (disjoint_of_le (by omega)) ?_⟩
  · intro other hother
    have hgreater := (hlater other hother).2
    have hlast := List.snd_lt_of_mem_zipIdx (hsubset hother)
    have hbefore := hnext (by omega)
    exact ⟨disjoint_of_le (by omega), disjoint_of_le (by omega)⟩
  · intro other hother
    have hbounds := linkBytes_bounds cases other.1.name
    have hlast := List.snd_lt_of_mem_zipIdx hother
    rcases Nat.lt_trichotomy other.2 entry.2 with hless | hsame | hgreater
    · exact disjoint_of_le (by omega)
    · rw [eq_of_mem_zipIdx hother hentry hsame]
      exact disjoint_of_le (by omega)
    · have hbefore := hnext (by omega)
      exact disjoint_of_le (by omega)

section Survive

variable (cells : Nat → UInt8) (cases : CaseMap) (before : List (Nat × List UInt8))
  {closing : List (Nat × List UInt8)} (hapart : NodesApart modules) {entry : LoadedModule × Nat}
  (hentry : entry ∈ modules.zipIdx)

include hapart hentry

/-- A part of a node behind its links survives what is stored for the modules. -/
theorem nodeRecord_survives {index size : Nat} (hlow : linkBytes cases entry.1.name ≤ index)
    (hhigh : index + size ≤ 0x120) (hclosing : Misses ((nodeAt entry.2).2.toNat + index) size closing) :
    load (storeAll cells (before ++ (registerWrites cases modules ++ closing))) ((nodeAt entry.2).2.toNat + index)
      size = ((nodeRecord entry).drop index).take size := by
  obtain ⟨earlier, later, hsplit, hlater⟩ := split_of_mem_zipIdx hentry
  have hplace := hapart.node_toNat hentry
  have hrecord := length_nodeRecord entry
  have hwrites : before ++ (registerWrites cases modules ++ closing) =
      (before ++ earlier.flatMap nodeWrites) ++ ((nodeAt entry.2).2.toNat, nodeRecord entry) ::
        (((nodeAt entry.2).2.toNat + 0x150, nameBytes entry.1.name) ::
          ((later.flatMap nodeWrites ++ moduleLinks cases modules) ++ closing)) := by
    simp only [registerWrites, hsplit, List.flatMap_append, List.flatMap_cons, List.append_assoc]
    rfl
  rw [hwrites]
  refine load_storeAll_inside cells (by omega) (misses_cons.mpr ⟨?_, misses_append.mpr ⟨?_, hclosing⟩⟩)
  · exact disjoint_of_le (by simp only; omega)
  · exact laterWrites_misses cases hapart hentry hlater (by omega) (by omega)

/-- A node and its name survive what is stored for the modules. -/
theorem nodeContents_survive {object : Nat × List UInt8} (hobject : object ∈ nodeContents cases entry)
    (hclosing : Misses object.1 object.2.length closing) :
    load (storeAll cells (before ++ (registerWrites cases modules ++ closing))) object.1 object.2.length =
      object.2 := by
  have hbounds := linkBytes_bounds cases entry.1.name
  simp only [nodeContents, List.mem_cons, List.not_mem_nil, or_false] at hobject
  rcases hobject with rfl | rfl
  · have hlength : ((nodeRecord entry).drop (linkBytes cases entry.1.name)).length =
        0x120 - linkBytes cases entry.1.name := by
      rw [List.length_drop, length_nodeRecord]
    have hload := nodeRecord_survives cells cases before hapart hentry (Nat.le_refl _)
      (by simp only [hlength]; omega) hclosing
    rwa [List.take_length] at hload
  · obtain ⟨earlier, later, hsplit, hlater⟩ := split_of_mem_zipIdx hentry
    have hplace := hapart.node_toNat hentry
    have hname := hapart.names entry hentry
    have hwrites : before ++ (registerWrites cases modules ++ closing) =
        (before ++ earlier.flatMap nodeWrites ++ [((nodeAt entry.2).2.toNat, nodeRecord entry)]) ++
          ((nodeAt entry.2).2.toNat + 0x150, nameBytes entry.1.name) ::
            ((later.flatMap nodeWrites ++ moduleLinks cases modules) ++ closing) := by
      simp only [registerWrites, hsplit, List.flatMap_append, List.flatMap_cons, List.append_assoc]
      rfl
    rw [hwrites]
    refine load_storeAll_of_split cells (misses_append.mpr ⟨?_, hclosing⟩)
    exact laterWrites_misses cases hapart hentry hlater (by omega) (by omega)

end Survive

end vwfl.main
