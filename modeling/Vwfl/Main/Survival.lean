import Vwfl.Main.Nodes

open Rust ByteStore LittleEndian
open vwfl.vm vwfl.pe vwfl.loader vwfl.loaderblock

namespace vwfl.main

/-- The objects that `main` writes for the guest, each at its place. -/
def writtenObjects (cases : CaseMap) (files : BootFiles) (modules : List LoadedModule) : List (Nat × List UInt8) :=
  [(0x4031000, files.ansi_data), (0x4041000, files.oem_data), (0x4051000, generate_windows_upcase_table),
    (0x4200000, files.sys_hive)] ++
    (files.apiset_buf.toList.map fun apiset_buf => (0x4060000, apiset_buf)) ++
      modules.zipIdx.flatMap (nodeContents cases)

/-- Guest memory holds every object as it was written. -/
def Intact (mem : Nat → UInt8) (objects : List (Nat × List UInt8)) : Prop :=
  ∀ object ∈ objects, load mem object.1 object.2.length = object.2

/-- Modules as the files of the directory determine them. -/
def plannedModules (host : Host) (dir : Directory) : List LoadedModule :=
  match planDirectory host dir KRNL_PBASE krnl_vbase with
  | .ok modules => modules
  | .error _ => []

/-- No object is long enough to reach the next, there is neither an OEM table
    nor a schema, and no resolved import is patched into an object. -/
structure KeepsApart (host : Host) (dir : Directory) (files : BootFiles) : Prop where
  ansi : files.ansi_data.length ≤ 0xF000
  oem : files.oem_data = []
  apiset : ∀ apiset_buf ∈ files.apiset_buf, apiset_buf = []
  hive : files.sys_hive.length ≤ 0xE00000
  nodes : ∀ entry ∈ (moduleNames host dir).zipIdx,
    0x4040150 + 0x1000 * entry.2 + (nameBytes entry.1).length ≤ 0x4051000
  names : ∀ entry ∈ (moduleNames host dir).zipIdx, entry.2 + 1 < (moduleNames host dir).length →
    0x150 + (nameBytes entry.1).length ≤ 0x1000
  slots : ∀ slot ∈ resolvedSlots ⟨host.profile, host.cases, plannedModules host dir⟩,
    ∀ object ∈ writtenObjects host.cases files (plannedModules host dir), Disjoint object.1 object.2.length slot 8

variable {host : Host} {dir : Directory} {files : BootFiles} {modules : List LoadedModule} {start length : Nat}

/-- The descriptor tables and the memory descriptors miss a range outside their
    areas. -/
theorem descriptorWrites_misses (hive_size : UInt32)
    (harea : start + length ≤ 0x4000020 ∨ 0x4000030 ≤ start ∧ start + length ≤ 0x4020000 ∨
      0x4027000 ≤ start ∧ start + length ≤ 0x8000000 ∨ 0x8100000 ≤ start) :
    Misses start length (gdtWrites ++ (memoryWrites hive_size ++ debug.idtWrites)) := by
  refine misses_append.mpr ⟨?_, misses_append.mpr ⟨?_, misses_flatMap ?_⟩⟩
  · intro write hwrite
    rcases List.mem_cons.mp hwrite with rfl | hentry
    · exact disjoint_of_le (by simp only [List.length_replicate]; omega)
    · obtain ⟨⟨entry, i⟩, hindex, rfl⟩ := List.mem_map.mp hentry
      have hi : i < 32 := List.snd_lt_of_mem_zipIdx hindex
      exact disjoint_of_le (by simp only [length_ofUInt64]; omega)
  · rw [memoryWrites_eq]
    refine misses_append.mpr ⟨misses_flatMap ?_, linkWrites_misses _ _ (disjoint_of_le (by omega))⟩
    intro entry hentry
    have hi : entry.2 < 7 := List.snd_lt_of_mem_zipIdx hentry
    exact rowWrites_misses entry (disjoint_of_le (by omega))
  · intro i hi
    have hbound := List.mem_range.mp hi
    refine misses_cons.mpr ⟨?_, misses_cons.mpr ⟨?_, misses_nil start length⟩⟩
    · exact disjoint_of_le (by simp only [debug.length_stub]; omega)
    · exact disjoint_of_le (by simp only [debug.length_idtEntry]; omega)

/-- What `main` stores behind the nodes misses such a range when the imports miss
    it. -/
theorem closingWrites_misses (hive_size : UInt32)
    (harea : start + length ≤ 0x4000020 ∨ 0x4000030 ≤ start ∧ start + length ≤ 0x4020000 ∨
      0x4027000 ≤ start ∧ start + length ≤ 0x8000000 ∨ 0x8100000 ≤ start)
    (hslots : ∀ slot ∈ resolvedSlots ⟨host.profile, host.cases, modules⟩, Disjoint start length slot 8) :
    Misses start length (closingWrites host hive_size modules) := by
  refine misses_append.mpr ⟨?_, descriptorWrites_misses hive_size harea⟩
  intro write hwrite
  obtain ⟨hslot, hlength⟩ := mem_slotWrites hwrite
  rw [hlength]
  exact hslots write.1 hslot

/-- Everything stored for the modules misses a range that meets neither a list
    head nor a node. -/
theorem registerWrites_misses (cases : CaseMap) (hapart : NodesApart modules)
    (hheads : Disjoint start length 0x4000010 0x30) (hextension : Disjoint start length 0x4008A18 0x10)
    (hnodes : ∀ entry ∈ modules.zipIdx, start + length ≤ 0x4040000 + 0x1000 * entry.2 ∨
      0x4040150 + 0x1000 * entry.2 + (nameBytes entry.1.name).length ≤ start) :
    Misses start length (registerWrites cases modules) := by
  refine misses_append.mpr ⟨nodeWrites_misses (List.Subset.refl _) hapart ?_,
    moduleLinks_misses cases hapart hheads hextension ?_⟩
  · intro entry hentry
    have hplace := hnodes entry hentry
    exact ⟨disjoint_of_le (by omega), disjoint_of_le (by omega)⟩
  · intro entry hentry
    have hplace := hnodes entry hentry
    have hroom := linkBytes_bounds cases entry.1.name
    exact disjoint_of_le (by omega)

theorem acpiFields_misses (h : Disjoint start length 0x4008078 0xC) :
    Misses start length [(0x4008078, ofUInt64 ACPI_VBASE), (0x4008080, ofUInt32 36)] := by
  refine misses_cons.mpr ⟨?_, misses_cons.mpr ⟨?_, misses_nil start length⟩⟩
  · exact h.inner (by simp only; omega) (by simp only [length_ofUInt64]; omega)
  · exact h.inner (by simp only; omega) (by simp only [length_ofUInt32]; omega)

theorem schemaWrites_misses {apiset_buf : Option (List UInt8)}
    (hdata : ∀ data ∈ apiset_buf, Disjoint start length 0x4060000 data.length)
    (hfields : Disjoint start length 0x4008A80 0xC) : Misses start length (schemaWrites apiset_buf) := by
  cases apiset_buf with
  | none => exact misses_nil start length
  | some data =>
    refine misses_cons.mpr ⟨hdata data rfl, misses_cons.mpr ⟨?_, misses_cons.mpr ⟨?_, misses_nil start length⟩⟩⟩
    · exact hfields.inner (by simp only; omega) (by simp only [length_ofUInt64]; omega)
    · exact hfields.inner (by simp only; omega) (by simp only [length_ofUInt32]; omega)

/-- Places of the nodes and their names in front of the case table. -/
structure NodesFit (modules : List LoadedModule) : Prop where
  ends : ∀ entry ∈ modules.zipIdx, 0x4040150 + 0x1000 * entry.2 + (nameBytes entry.1.name).length ≤ 0x4051000
  names : ∀ entry ∈ modules.zipIdx, entry.2 + 1 < modules.length →
    0x150 + (nameBytes entry.1.name).length ≤ 0x1000

theorem NodesFit.nodesApart (hfit : NodesFit modules) : NodesApart modules := by
  refine ⟨?_, hfit.names⟩
  intro entry hentry
  have hend := hfit.ends entry hentry
  have hsize := MEM_SIZE_toNat
  omega

/-- Stores behind the code page tables miss a range between these tables and the
    ACPI tables outside the area of the modules. -/
theorem lateWrites_misses (hempty : ∀ apiset_buf ∈ files.apiset_buf, apiset_buf = []) (hfit : NodesFit modules)
    (hlow : 0x4031000 ≤ start) (hhigh : start + length ≤ 0x5000000)
    (harea : start + length ≤ 0x4040000 ∨ 0x4051000 ≤ start)
    (hslots : ∀ slot ∈ resolvedSlots ⟨host.profile, host.cases, modules⟩, Disjoint start length slot 8) :
    Misses start length (lateWrites host files modules) := by
  refine misses_append.mpr ⟨?_, misses_append.mpr ⟨?_, misses_append.mpr ⟨?_, ?_⟩⟩⟩
  · refine misses_append.mpr ⟨Kpcr.writes_misses ?_, misses_append.mpr ⟨LoaderParameterBlock.writes_misses ?_ ?_,
      misses_append.mpr ⟨acpi.tableWrites_misses _ ?_, misses_append.mpr ⟨LoaderParameterExtension.writes_misses ?_,
        acpiFields_misses ?_⟩⟩⟩⟩
    all_goals apply disjoint_of_le
    all_goals omega
  · refine schemaWrites_misses ?_ (disjoint_of_le (by omega))
    intro data hdata
    exact disjoint_iff.mpr (.inr (.inl (by rw [hempty data hdata, List.length_nil])))
  · refine registerWrites_misses host.cases hfit.nodesApart (disjoint_of_le (by omega)) (disjoint_of_le (by omega)) ?_
    intro entry hentry
    have hend := hfit.ends entry hentry
    omega
  · exact closingWrites_misses _ (by omega) hslots

theorem KeepsApart.nodesFit (hapart : KeepsApart host dir files)
    (hnames : modules.map LoadedModule.name = moduleNames host dir) : NodesFit modules := by
  have hmember : ∀ entry ∈ modules.zipIdx, (entry.1.name, entry.2) ∈ (moduleNames host dir).zipIdx := by
    intro entry hentry
    rw [← hnames, List.zipIdx_map]
    exact List.mem_map.mpr ⟨entry, hentry, rfl⟩
  have hcount : (moduleNames host dir).length = modules.length := by
    rw [← hnames, List.length_map]
  constructor
  case ends =>
    intro entry hentry
    have hend := hapart.nodes _ (hmember entry hentry)
    omega
  case names =>
    intro entry hentry hlast
    have hname := hapart.names _ (hmember entry hentry) (by omega)
    omega

theorem KeepsApart.fitsMemory (hapart : KeepsApart host dir files) (hfit : NodesFit modules) :
    FitsMemory files modules := by
  have hsize := MEM_SIZE_toNat
  have hansi := hapart.ansi
  refine ⟨by omega, ?_, ?_, ?_⟩
  · rw [hapart.oem, List.length_nil]
    omega
  · intro apiset_buf hbuf
    rw [hapart.apiset apiset_buf hbuf, List.length_nil]
    omega
  · intro entry hentry
    have hend := hfit.ends entry hentry
    omega

section DataFiles

-- The case table and the block that points to the tables stay variables: only
-- their lengths matter here.
variable (mem : Nat → UInt8) {sys_hive ansi_data oem_data table block : List UInt8} {late : List (Nat × List UInt8)}

theorem ansi_survives (hansi : ansi_data.length ≤ 0xF000) (hoem : oem_data.length = 0) (hblock : block.length = 40)
    (hlate : Misses 0x4031000 ansi_data.length late) :
    load (storeAll mem ((0x4200000, sys_hive) :: (0x4031000, ansi_data) :: (0x4041000, oem_data) ::
      (0x4051000, table) :: (0x4030000, block) :: late)) 0x4031000 ansi_data.length = ansi_data := by
  rw [← List.singleton_append]
  refine load_storeAll_of_split mem ?_
  refine misses_cons.mpr ⟨?_, misses_cons.mpr ⟨?_, misses_cons.mpr ⟨?_, hlate⟩⟩⟩
  · exact disjoint_iff.mpr (.inr (.inl hoem))
  · exact disjoint_of_le (.inl (by simp only; omega))
  · exact disjoint_of_le (.inr (by simp only; omega))

theorem table_survives (hblock : block.length = 40) (hlate : Misses 0x4051000 table.length late) :
    load (storeAll mem ((0x4200000, sys_hive) :: (0x4031000, ansi_data) :: (0x4041000, oem_data) ::
      (0x4051000, table) :: (0x4030000, block) :: late)) 0x4051000 table.length = table := by
  have hsplit : (0x4200000, sys_hive) :: (0x4031000, ansi_data) :: (0x4041000, oem_data) ::
        (0x4051000, table) :: (0x4030000, block) :: late =
      [(0x4200000, sys_hive), (0x4031000, ansi_data), (0x4041000, oem_data)] ++
        (0x4051000, table) :: ((0x4030000, block) :: late) := rfl
  rw [hsplit]
  refine load_storeAll_of_split mem (misses_cons.mpr ⟨?_, hlate⟩)
  exact disjoint_of_le (.inr (by simp only; omega))

theorem hive_survives (hansi : ansi_data.length ≤ 0xF000) (hoem : oem_data.length = 0)
    (htable : table.length = 131072) (hblock : block.length = 40) (hlate : Misses 0x4200000 sys_hive.length late) :
    load (storeAll mem ((0x4200000, sys_hive) :: (0x4031000, ansi_data) :: (0x4041000, oem_data) ::
      (0x4051000, table) :: (0x4030000, block) :: late)) 0x4200000 sys_hive.length = sys_hive := by
  rw [← List.nil_append ((0x4200000, sys_hive) :: _)]
  refine load_storeAll_of_split mem ?_
  refine misses_cons.mpr ⟨?_, misses_cons.mpr ⟨?_, misses_cons.mpr ⟨?_, misses_cons.mpr ⟨?_, hlate⟩⟩⟩⟩
  · exact disjoint_of_le (.inr (by simp only; omega))
  · exact disjoint_iff.mpr (.inr (.inl hoem))
  · exact disjoint_of_le (.inr (by simp only; omega))
  · exact disjoint_of_le (.inr (by simp only; omega))

end DataFiles

/-- Objects that keep apart hold their bytes behind all stores of `main`. -/
theorem bootWrites_intact (mem : Nat → UInt8) (hapart : KeepsApart host dir files)
    (hnames : modules.map LoadedModule.name = moduleNames host dir) (hplan : plannedModules host dir = modules) :
    Intact (storeAll mem (bootWrites host files modules)) (writtenObjects host.cases files modules) := by
  have hfit := hapart.nodesFit hnames
  have hslots : ∀ object ∈ writtenObjects host.cases files modules,
      ∀ slot ∈ resolvedSlots ⟨host.profile, host.cases, modules⟩, Disjoint object.1 object.2.length slot 8 := by
    intro object hobject slot hslot
    exact hapart.slots slot (by rwa [hplan]) object (by rwa [hplan])
  have hansi := hapart.ansi
  have hhive := hapart.hive
  have hoem : files.oem_data.length = 0 := by rw [hapart.oem, List.length_nil]
  have htable := length_generate_windows_upcase_table
  have hblock := length_NLS_DATA_BLOCK ansi_v oem_v case_v 0 0
  simp only [Intact, writtenObjects, bootWrites, nlsWrites, List.mem_append, List.mem_cons, List.mem_map,
    Option.mem_toList, List.mem_flatMap, List.cons_append, List.nil_append] at hslots ⊢
  generalize generate_windows_upcase_table = table at htable hslots ⊢
  generalize NLS_DATA_BLOCK ansi_v oem_v case_v 0 0 = block at hblock ⊢
  intro object hobject
  have hslot := hslots object hobject
  rcases hobject with rfl | rfl | rfl | rfl | ⟨apiset_buf, hbuf, rfl⟩ | ⟨entry, hentry, hnode⟩
  · exact ansi_survives mem hansi hoem hblock
      (lateWrites_misses hapart.apiset hfit (by omega) (by omega) (by omega) hslot)
  · simp only [hapart.oem]
    rfl
  · exact table_survives mem hblock
      (lateWrites_misses hapart.apiset hfit (by omega) (by omega) (by omega) hslot)
  · exact hive_survives mem hansi hoem htable hblock
      (lateWrites_misses hapart.apiset hfit (by omega) (by omega) (by omega) hslot)
  · simp only [hapart.apiset apiset_buf hbuf]
    rfl
  · have hplace := hfit.nodesApart.node_toNat hentry
    have hend := hfit.ends entry hentry
    have hbounds := linkBytes_bounds host.cases entry.1.name
    have hrecord := length_nodeRecord entry
    have hzone : 0x4031000 ≤ object.1 ∧ object.1 + object.2.length ≤ 0x5000000 := by
      simp only [nodeContents, List.mem_cons, List.not_mem_nil, or_false] at hnode
      rcases hnode with rfl | rfl
      · simp only [List.length_drop, hrecord]
        omega
      · simp only
        omega
    have hclosing := closingWrites_misses (UInt32.ofNat files.sys_hive.length) (by omega) hslot
    have hsurvive := nodeContents_survive mem host.cases
      ((0x4200000, files.sys_hive) :: (0x4031000, files.ansi_data) :: (0x4041000, files.oem_data) ::
        (0x4051000, table) :: (0x4030000, block) :: (blockWrites (UInt32.ofNat files.sys_hive.length) ++
          schemaWrites files.apiset_buf)) hfit.nodesApart hentry hnode hclosing
    simpa only [lateWrites, List.cons_append, List.append_assoc] using hsurvive

/-- When `main` reaches the processor, guest memory still holds every object
    that it wrote, provided that the objects keep apart. -/
theorem main_intact {before after : Vm} {kloader : KernelLoader}
    (hmain : (main host dir).run before = .ok kloader after) (hfiles : bootFiles dir = some files)
    (hapart : KeepsApart host dir files) :
    Intact after.mem (writtenObjects host.cases files kloader.modules) := by
  obtain ⟨found, start, mapped, hfound, hmap, htrace⟩ := main_eq_ok hmain
  obtain rfl : found = files := Option.some.inj (hfound.symm.trans hfiles)
  obtain ⟨⟨loaded, hload⟩, _⟩ := mapModules_eq_ok hmap
  have hnames := loadModules_names hload
  have hplan : plannedModules host dir = kloader.modules := by
    rw [plannedModules, KernelLoader.load_directory_plan hload]
  rw [htrace (hapart.fitsMemory (hapart.nodesFit hnames))]
  exact bootWrites_intact mapped.mem hapart hnames hplan

section BootDirectory

variable {kloader : KernelLoader} {before loaded : Vm}

set_option maxRecDepth 10000 in
theorem emptyImage_imports : (parse peCrate (emptyImage 0x1000) >>= fun pe => pe.get_imports .release) = .ok [] := rfl

theorem bootDirectory_read (files : BootFiles) : ∀ name ∈ ["ntoskrnl.exe", "hal.dll", "kd.dll", "kdcom.dll"],
    (bootDirectory files).read name = .ok (emptyImage 0x1000) := by
  intro name hname
  simp only [List.mem_cons, List.not_mem_nil, or_false] at hname
  rcases hname with rfl | rfl | rfl | rfl <;> rfl

theorem bootDirectory_names (hload : (loadModules releaseHost (bootDirectory files)).run before = .ok kloader loaded) :
    kloader.modules.map LoadedModule.name = ["ntoskrnl.exe", "hal.dll", "kd.dll", "kdcom.dll"] := by
  rw [loadModules_names hload, moduleNames_bootDirectory]

/-- None of the four modules imports anything. -/
theorem bootDirectory_imports
    (hload : (loadModules releaseHost (bootDirectory files)).run before = .ok kloader loaded) :
    ∀ found ∈ kloader.modules, found.pe.get_imports .release = .ok [] := by
  intro found hfound
  have hname : found.name ∈ ["ntoskrnl.exe", "hal.dll", "kd.dll", "kdcom.dll"] := by
    rw [← bootDirectory_names hload]
    exact List.mem_map_of_mem hfound
  obtain ⟨ntoskrnl, hal, kd, kdcom, drivers, hmodules, hplaced, _, _⟩ := loadModules_eq_ok hload
  rw [hmodules] at hfound
  obtain ⟨buf, hread, hparse, _⟩ := openFile_eq_ok (hplaced.opened found hfound)
  rw [bootDirectory_read files found.name hname] at hread
  obtain rfl := Except.ok.inj hread
  have himports := emptyImage_imports
  rwa [show parse peCrate (emptyImage 0x1000) = .ok found.pe from hparse, ok_bind] at himports

theorem bootDirectory_bind (hload : (loadModules releaseHost (bootDirectory files)).run before = .ok kloader loaded) :
    Performs (kloader.bind_all releaseHost.profile releaseHost.cases) [] := by
  have hloop : Performs (kloader.bind_all releaseHost.profile releaseHost.cases)
      (kloader.modules.flatMap fun _ => []) := by
    refine Performs.forM ?_
    intro found hfound
    exact Performs.lift_bind (bootDirectory_imports hload found hfound) Performs.pure
  have hnil : (kloader.modules.flatMap fun _ => ([] : List (Nat × List UInt8))) = [] :=
    List.flatMap_eq_nil_iff.mpr fun _ _ => rfl
  rwa [hnil] at hloop

theorem fixedNames_short
    (hnames : modules.map LoadedModule.name = ["ntoskrnl.exe", "hal.dll", "kd.dll", "kdcom.dll"]) :
    ∀ entry ∈ modules.zipIdx, entry.2 < 4 ∧ (nameBytes entry.1.name).length ≤ 24 := by
  have hcount : modules.length = 4 := by
    rw [← List.length_map LoadedModule.name, hnames]
    rfl
  have hlength : ∀ name ∈ ["ntoskrnl.exe", "hal.dll", "kd.dll", "kdcom.dll"], (nameBytes name).length ≤ 24 := by
    decide
  intro entry hentry
  refine ⟨hcount ▸ List.snd_lt_of_mem_zipIdx hentry, hlength _ ?_⟩
  rw [← hnames]
  exact List.mem_map_of_mem (List.fst_mem_of_mem_zipIdx hentry)

/-- The four modules and short files fit into guest memory. -/
theorem bootDirectory_fits (hload : (loadModules releaseHost (bootDirectory files)).run before = .ok kloader loaded)
    (hansi : files.ansi_data.length ≤ 0x1000) (hoem : files.oem_data.length ≤ 0x1000)
    (hapiset : files.apiset_buf = none) : FitsMemory files kloader.modules := by
  have hsize := MEM_SIZE_toNat
  refine ⟨by omega, by omega, by simp [hapiset], ?_⟩
  intro entry hentry
  obtain ⟨hindex, hname⟩ := fixedNames_short (bootDirectory_names hload) entry hentry
  omega

/-- `main` completes on the directory, in a release build. -/
theorem main_run_bootDirectory
    (hload : (loadModules releaseHost (bootDirectory files)).run bootState = .ok kloader loaded)
    (hhive : 0x4200000 + files.sys_hive.length ≤ MEM_SIZE.toNat) (hansi : files.ansi_data.length ≤ 0x1000)
    (hoem : files.oem_data.length ≤ 0x1000) (hapiset : files.apiset_buf = none) :
    ∃ after, (main releaseHost (bootDirectory files)).run ⟨fun _ => 0⟩ = .ok kloader after := by
  have hfits := bootDirectory_fits hload hansi hoem hapiset
  have hsize := MEM_SIZE_toNat
  obtain ⟨mapped, hmap⟩ := mapModules_run hload
  have hkuser : (initKuser releaseHost.profile).run ⟨fun _ => 0⟩ = .ok () bootState :=
    Vm.write_memory_ok_of_le .release _ (by rw [length_kuser_data]; decide)
  have hsys : readExpected (bootDirectory files) "config/SYSTEM" "Read SYSTEM Hive" = .ok files.sys_hive := rfl
  have hansi_read : readExpected (bootDirectory files) "C_1252.NLS" "Read ANSI NLS" = .ok files.ansi_data := rfl
  have hoem_read : readExpected (bootDirectory files) "C_437.NLS" "Read OEM NLS" = .ok files.oem_data := rfl
  have hschema : (bootDirectory files).read "apisetschema.dll" = .error "No such file or directory" := by
    obtain ⟨sys_hive, ansi_data, oem_data, apiset_buf⟩ := files
    obtain rfl : apiset_buf = none := hapiset
    rfl
  have hregister : Performs (registerModules releaseHost kloader.modules) _ := 
    registerModules_performs hfits.nodes (fun _ _ => rfl) (fun _ _ => rfl)
  -- Every stage behind the page tables returns from whatever state it starts in.
  obtain ⟨s1, h1⟩ := (loadHive_performs releaseHost.profile hhive).returns mapped
  obtain ⟨s2, h2⟩ := (loadNls_performs releaseHost.profile hfits.ansi hfits.oem).returns s1
  obtain ⟨s3, h3⟩ := (initBlocks_performs releaseHost.profile (UInt32.ofNat files.sys_hive.length)).returns s2
  obtain ⟨s4, h4⟩ := (loadApiSet_performs_none releaseHost.profile hschema).returns s3
  obtain ⟨s5, h5⟩ := hregister.returns s4
  obtain ⟨s6, h6⟩ := ((bootDirectory_bind hload).expect "Binding failed").returns s5
  obtain ⟨s7, h7⟩ := (initGdt_performs releaseHost.profile).returns s6
  obtain ⟨s8, h8⟩ := (linkMemory_performs releaseHost.profile (UInt32.ofNat files.sys_hive.length)).returns s7
  obtain ⟨s9, h9⟩ := ((debug.setup_diagnostic_idt_performs releaseHost.profile).expect "IDT failed").returns s8
  exact ⟨s9, main_run hkuser hmap hsys hansi_read hoem_read h1 h2 h3 h4 h5 h6 h7 h8 h9⟩

theorem bootDirectory_slots (hload : (loadModules releaseHost (bootDirectory files)).run before = .ok kloader loaded) :
    resolvedSlots ⟨releaseHost.profile, releaseHost.cases, plannedModules releaseHost (bootDirectory files)⟩ = [] := by
  have hplan : plannedModules releaseHost (bootDirectory files) = kloader.modules := by
    rw [plannedModules, KernelLoader.load_directory_plan hload]
  have himports : allImports ⟨releaseHost.profile, releaseHost.cases, kloader.modules⟩ = [] := by
    refine List.flatMap_eq_nil_iff.mpr ?_
    intro found hfound
    have hnone : found.pe.get_imports releaseHost.profile = .ok [] := bootDirectory_imports hload found hfound
    simp only [moduleImports, hnone, List.flatMap_nil]
  rw [hplan, resolvedSlots, himports]
  rfl

end BootDirectory

theorem main_intact_quietFiles : ∃ kloader after,
    (main releaseHost (bootDirectory quietFiles)).run ⟨fun _ => 0⟩ = .ok kloader after ∧
      Intact after.mem (writtenObjects releaseHost.cases quietFiles kloader.modules) := by
  obtain ⟨kloader, loaded, hload⟩ := loadModules_bootDirectory quietFiles
  obtain ⟨after, hmain⟩ := main_run_bootDirectory hload (by decide) (by decide) (by decide) rfl
  refine ⟨kloader, after, hmain, main_intact hmain (bootFiles_bootDirectory quietFiles) ?_⟩
  refine ⟨by decide, rfl, by simp [quietFiles], by decide, ?_, ?_, ?_⟩
  · rw [moduleNames_bootDirectory]
    decide
  · rw [moduleNames_bootDirectory]
    decide
  · rw [bootDirectory_slots hload]
    simp

/-- The node of the second module lies over the OEM table. -/
theorem not_intact_fullFiles : ∃ kloader after,
    bootFiles (bootDirectory fullFiles) = some fullFiles ∧
      (main releaseHost (bootDirectory fullFiles)).run ⟨fun _ => 0⟩ = .ok kloader after ∧
      ¬ Intact after.mem (writtenObjects releaseHost.cases fullFiles kloader.modules) := by
  obtain ⟨kloader, loaded, hload⟩ := loadModules_bootDirectory fullFiles
  obtain ⟨after, hmain⟩ := main_run_bootDirectory hload (by decide) (by decide) (by decide) rfl
  refine ⟨kloader, after, bootFiles_bootDirectory fullFiles, hmain, ?_⟩
  intro hintact
  have hnames := bootDirectory_names hload
  obtain ⟨entry, hentry, hindex⟩ : ∃ entry ∈ kloader.modules.zipIdx, entry.2 = 1 := by
    refine exists_mem_zipIdx ?_
    rw [← List.length_map LoadedModule.name, hnames]
    decide
  have hname : entry.1.name = "hal.dll" := by
    have hget := List.mem_zipIdx_iff_getElem?.mp hentry
    have hsecond : (kloader.modules.map LoadedModule.name)[1]? = some "hal.dll" := by rw [hnames]; rfl
    rw [List.getElem?_map, ← hindex, hget] at hsecond
    exact Option.some.inj hsecond
  have hlinks : linkBytes releaseHost.cases entry.1.name = 0x20 := by
    rw [hname]
    decide
  have hplace : (nodeAt entry.2).2.toNat + 0x20 = 0x4041020 := by
    rw [hindex]
    decide
  -- One byte cannot be both a byte of the table and a byte of the node.
  have htable : after.mem 0x4041020 = 0xFF := by
    have hload := hintact (0x4041000, fullFiles.oem_data) (by simp [writtenObjects])
    exact (load_eq_iff after.mem 0x4041000 fullFiles.oem_data).mp hload 0x20 (by decide)
  have hnode : after.mem 0x4041020 = 0 := by
    have hobject : (0x4041020, (nodeRecord entry).drop 0x20) ∈
        writtenObjects releaseHost.cases fullFiles kloader.modules := by
      refine List.mem_append_right _ (List.mem_flatMap.mpr ⟨entry, hentry, ?_⟩)
      rw [nodeContents, hlinks, hplace]
      exact List.mem_cons_self
    have hbyte := (load_eq_iff after.mem 0x4041020 ((nodeRecord entry).drop 0x20)).mp (hintact _ hobject) 0 (by
      rw [List.length_drop, length_nodeRecord]
      decide)
    rw [Nat.add_zero] at hbyte
    rw [hbyte, List.getElem_drop]
    rfl
  rw [htable] at hnode
  exact absurd hnode (by decide)

end vwfl.main
