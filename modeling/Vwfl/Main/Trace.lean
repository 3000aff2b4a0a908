import Vwfl.Loader.Slots
import Vwfl.Main.Files

open Rust ByteStore
open vwfl.vm vwfl.pe vwfl.loader vwfl.loaderblock

namespace vwfl.main

def schemaWrites (apiset_buf : Option (List UInt8)) : List (Nat × List UInt8) :=
  match apiset_buf with
  | some data => apisetWrites data
  | none => []

/-- The lists through the nodes of the modules. -/
def moduleLinks (cases : CaseMap) (modules : List LoadedModule) : List (Nat × List UInt8) :=
  (if (halExtNodes cases modules).isEmpty then [] else halExtLinks (halExtNodes cases modules)) ++
    loadOrderLinks ((List.range modules.length).map nodeAt)

def registerWrites (cases : CaseMap) (modules : List LoadedModule) : List (Nat × List UInt8) :=
  modules.zipIdx.flatMap nodeWrites ++ moduleLinks cases modules

/-- Stores of `main` behind the module nodes: the bound imports and the
    descriptor tables. -/
def closingWrites (host : Host) (hive_size : UInt32) (modules : List LoadedModule) : List (Nat × List UInt8) :=
  slotWrites ⟨host.profile, host.cases, modules⟩ ++ (gdtWrites ++ (memoryWrites hive_size ++ debug.idtWrites))

/-- Stores of `main` behind the code page tables. -/
def lateWrites (host : Host) (files : BootFiles) (modules : List LoadedModule) : List (Nat × List UInt8) :=
  let hive_size := UInt32.ofNat files.sys_hive.length
  blockWrites hive_size ++ (schemaWrites files.apiset_buf ++
    (registerWrites host.cases modules ++ closingWrites host hive_size modules))

/-- Stores of `main` behind the page tables, in their order. -/
def bootWrites (host : Host) (files : BootFiles) (modules : List LoadedModule) : List (Nat × List UInt8) :=
  [(0x4200000, files.sys_hive)] ++ (nlsWrites files.ansi_data files.oem_data ++ lateWrites host files modules)

/-- The nodes of the modules and their names lie in guest memory. -/
def NodesInMemory (modules : List LoadedModule) : Prop :=
  ∀ entry ∈ modules.zipIdx, 0x4040150 + 0x1000 * entry.2 + (nameBytes entry.1.name).length ≤ MEM_SIZE.toNat

/-- Everything that `main` writes without checking the result lies in guest
    memory. -/
structure FitsMemory (files : BootFiles) (modules : List LoadedModule) : Prop where
  ansi : 0x4031000 + files.ansi_data.length ≤ MEM_SIZE.toNat
  oem : 0x4041000 + files.oem_data.length ≤ MEM_SIZE.toNat
  apiset : ∀ apiset_buf ∈ files.apiset_buf, 0x4060000 + apiset_buf.length ≤ MEM_SIZE.toNat
  nodes : NodesInMemory modules

variable {host : Host} {dir : Directory} {files : BootFiles} {modules : List LoadedModule}

theorem loadHive_leaves (profile : Profile) (sys_hive : List UInt8) :
    Leaves (loadHive profile sys_hive) [(0x4200000, sys_hive)] :=
  (Leaves.write_memory profile hive_p sys_hive).expect _

theorem loadApiSet_leaves (profile : Profile) {apiset_buf : Option (List UInt8)}
    (hread : (dir.read "apisetschema.dll").toOption = apiset_buf)
    (hbound : ∀ data ∈ apiset_buf, 0x4060000 + data.length ≤ MEM_SIZE.toNat) :
    Leaves (loadApiSet profile dir) (schemaWrites apiset_buf) := by
  subst hread
  cases hfile : dir.read "apisetschema.dll" with
  | error message => exact (loadApiSet_performs_none profile hfile).leaves
  | ok data =>
    rw [hfile] at hbound
    intro before after value hrun
    have hsize : profile.sub32 (UInt32.ofNat data.length) 0x2000 = .ok (UInt32.ofNat data.length - 0x2000) := by
      simp only [loadApiSet, hfile] at hrun
      obtain ⟨_, _, _, hrun⟩ := Stateful.bind_run_eq_ok_iff.mp hrun
      obtain ⟨size, _, hsub, _⟩ := Stateful.bind_run_eq_ok_iff.mp hrun
      have hvalue := (Stateful.lift_run_eq_ok_iff.mp hsub).1
      rwa [Profile.eq_of_sub32 hvalue] at hvalue
    exact (loadApiSet_performs_some profile hfile (hbound data rfl) hsize).leaves before after value hrun

theorem NodesInMemory.node_toNat (hinside : NodesInMemory modules) {i : Nat} (hi : i < modules.length) :
    (nodeAt i).1.toNat = K_VIRT_ANY.toNat + (0x4040000 + 0x1000 * i) ∧
      (nodeAt i).2.toNat = 0x4040000 + 0x1000 * i := by
  obtain ⟨entry, hentry, rfl⟩ := exists_mem_zipIdx hi
  have hend := hinside entry hentry
  have hsize := MEM_SIZE_toNat
  exact nodeAt_toNat (by omega)

/-- Nodes in guest memory leave room for their links. -/
theorem NodesInMemory.node_links (hinside : NodesInMemory modules) {i : Nat} (hi : i < modules.length) :
    (nodeAt i).2.toNat + 0x30 ≤ MEM_SIZE.toNat := by
  have hnode := (hinside.node_toNat hi).2
  obtain ⟨entry, hentry, rfl⟩ := exists_mem_zipIdx hi
  have hend := hinside entry hentry
  omega

/-- A node of the extension list is the node of such a module. -/
theorem mem_halExtNodes {cases : CaseMap} {node : UInt64 × UInt64} (hnode : node ∈ halExtNodes cases modules) :
    ∃ entry ∈ modules.zipIdx, contains (cases.to_lowercase entry.1.name) "halext" = true ∧ node = nodeAt entry.2 := by
  obtain ⟨entry, hentry, hsome⟩ := List.mem_filterMap.mp hnode
  simp only [Option.ite_none_right_eq_some, Option.some.injEq] at hsome
  exact ⟨entry, hentry, hsome.1, hsome.2.symm⟩

theorem moduleLinks_performs (host : Host) (hinside : NodesInMemory modules) :
    Performs (linkHalExtensions host.profile (halExtNodes host.cases modules) >>= fun _ =>
      linkLoadOrder host.profile ((List.range modules.length).map nodeAt)) (moduleLinks host.cases modules) := by
  refine (linkHalExtensions_performs host.profile ?_).bind (linkLoadOrder_performs host.profile ?_)
  · intro node hnode
    obtain ⟨entry, hentry, _, rfl⟩ := mem_halExtNodes hnode
    exact hinside.node_links (List.snd_lt_of_mem_zipIdx hentry)
  · intro node hnode
    obtain ⟨i, hi, rfl⟩ := List.mem_map.mp hnode
    exact Nat.le_trans (by omega) (hinside.node_links (List.mem_range.mp hi))

theorem registerModules_leaves (host : Host) (hinside : NodesInMemory modules) :
    Leaves (registerModules host modules) (registerWrites host.cases modules) := by
  have hnodes : Leaves (forM modules.zipIdx (addNode host.profile)) (modules.zipIdx.flatMap nodeWrites) :=
    Leaves.forM fun entry hentry => addNode_leaves host.profile (hinside entry hentry)
  exact hnodes.bind fun _ => (moduleLinks_performs host hinside).leaves

/-- Registering modules that fit cannot fail once the printed ends and the
    lengths of the names are computed. -/
theorem registerModules_performs (hinside : NodesInMemory modules)
    (hends : ∀ m ∈ modules, host.profile.add64 m.v_base m.size.toUInt64 = .ok (m.v_base + m.size.toUInt64))
    (hlengths : ∀ m ∈ modules, host.profile.add16 (UInt16.ofNat (nameBytes m.name).length) 2 =
      .ok (UInt16.ofNat (nameBytes m.name).length + 2)) :
    Performs (registerModules host modules) (registerWrites host.cases modules) := by
  have hnodes : Performs (forM modules.zipIdx (addNode host.profile)) (modules.zipIdx.flatMap nodeWrites) := by
    refine Performs.forM ?_
    intro entry hentry
    have hmodule := List.fst_mem_of_mem_zipIdx hentry
    exact addNode_performs host.profile (hends entry.1 hmodule) (hlengths entry.1 hmodule) (hinside entry hentry)
  exact hnodes.bind (moduleLinks_performs host hinside)

theorem readExpected_eq_ok {name message : String} {data : List UInt8}
    (h : readExpected dir name message = .ok data) : (dir.read name).toOption = some data := by
  unfold readExpected at h
  cases hread : dir.read name with
  | error e =>
    rw [hread] at h
    cases h
  | ok found =>
    rw [hread] at h
    injection h with hdata
    rw [hdata]
    rfl

theorem bootFiles_sys_hive {sys_hive : List UInt8} (hfiles : bootFiles dir = some files)
    (hread : (dir.read "config/SYSTEM").toOption = some sys_hive) : sys_hive = files.sys_hive := by
  simp only [bootFiles, hread, Option.bind_eq_bind, Option.bind_some, Option.bind_eq_some_iff] at hfiles
  obtain ⟨_, _, _, _, hfiles⟩ := hfiles
  rw [← Option.some.inj hfiles]

/-- A completed `main` has mapped the modules and then performed its stores. -/
theorem main_eq_ok {before after : Vm} {kloader : KernelLoader}
    (hmain : (main host dir).run before = .ok kloader after) :
    ∃ files start mapped, bootFiles dir = some files ∧ (mapModules host dir).run start = .ok kloader mapped ∧
      (FitsMemory files kloader.modules → after.mem = storeAll mapped.mem (bootWrites host files kloader.modules)) := by
  unfold main at hmain
  obtain ⟨_, start, _, hmain⟩ := Stateful.bind_run_eq_ok_iff.mp hmain
  obtain ⟨loader, mapped, hmap, hmain⟩ := Stateful.bind_run_eq_ok_iff.mp hmain
  obtain ⟨sys_hive, _, hread, hmain⟩ := Stateful.bind_run_eq_ok_iff.mp hmain
  obtain ⟨hhive, hstate⟩ := Stateful.lift_run_eq_ok_iff.mp hread
  rw [hstate] at hmain
  obtain ⟨_, hived, hload, hmain⟩ := Stateful.bind_run_eq_ok_iff.mp hmain
  obtain ⟨ansi_data, _, hread, hmain⟩ := Stateful.bind_run_eq_ok_iff.mp hmain
  obtain ⟨hansi, hstate⟩ := Stateful.lift_run_eq_ok_iff.mp hread
  rw [hstate] at hmain
  obtain ⟨oem_data, _, hread, hmain⟩ := Stateful.bind_run_eq_ok_iff.mp hmain
  obtain ⟨hoem, hstate⟩ := Stateful.lift_run_eq_ok_iff.mp hread
  rw [hstate] at hmain
  have hresult : kloader = loader := by
    obtain ⟨_, _, _, hlast⟩ := Stateful.bind_run_eq_ok_iff.mp hmain
    iterate 7 obtain ⟨_, _, _, hlast⟩ := Stateful.bind_run_eq_ok_iff.mp hlast
    injection hlast with hvalue
    exact hvalue.symm
  subst hresult
  generalize hschema : (dir.read "apisetschema.dll").toOption = apiset_buf
  refine ⟨⟨sys_hive, ansi_data, oem_data, apiset_buf⟩, start, mapped, ?_, hmap, ?_⟩
  · simp only [bootFiles, readExpected_eq_ok hhive, readExpected_eq_ok hansi, readExpected_eq_ok hoem, hschema]
    rfl
  · intro hfits
    have hrest := (loadNls_performs host.profile hfits.ansi hfits.oem).leaves.bind fun _ =>
      (initBlocks_performs host.profile (UInt32.ofNat sys_hive.length)).leaves.bind fun _ =>
      (loadApiSet_leaves host.profile hschema hfits.apiset).bind fun _ =>
      (registerModules_leaves host hfits.nodes).bind fun _ =>
      ((kloader.bind_all_leaves host.profile host.cases).expect "Binding failed").bind fun _ =>
      (initGdt_performs host.profile).leaves.bind fun _ =>
      (linkMemory_performs host.profile (UInt32.ofNat sys_hive.length)).leaves.bind fun _ =>
      ((debug.setup_diagnostic_idt_performs host.profile).expect "IDT failed").leaves.bind fun _ =>
      Leaves.pure kloader
    rw [hrest _ _ _ hmain, loadHive_leaves host.profile sys_hive _ _ _ hload, List.append_nil]
    simp only [bootWrites, lateWrites, closingWrites, storeAll_append]
    rfl

/-- What a completed `main` stores last: the memory descriptors for the hive,
    which fits, and the interrupt gates. -/
theorem main_closing {before after : Vm} {kloader : KernelLoader}
    (hmain : (main host dir).run before = .ok kloader after) :
    ∃ files middle, bootFiles dir = some files ∧ 0x4200000 + files.sys_hive.length ≤ MEM_SIZE.toNat ∧
      after.mem = storeAll middle (memoryWrites (UInt32.ofNat files.sys_hive.length) ++ debug.idtWrites) := by
  obtain ⟨files, hfiles⟩ : ∃ files, bootFiles dir = some files := by
    obtain ⟨files, _, _, hfiles, _, _⟩ := main_eq_ok hmain
    exact ⟨files, hfiles⟩
  unfold main at hmain
  obtain ⟨_, _, _, hmain⟩ := Stateful.bind_run_eq_ok_iff.mp hmain
  obtain ⟨loader, _, _, hmain⟩ := Stateful.bind_run_eq_ok_iff.mp hmain
  obtain ⟨sys_hive, _, hread, hmain⟩ := Stateful.bind_run_eq_ok_iff.mp hmain
  obtain ⟨hhive, _⟩ := Stateful.lift_run_eq_ok_iff.mp hread
  obtain rfl : sys_hive = files.sys_hive := bootFiles_sys_hive hfiles (readExpected_eq_ok hhive)
  obtain ⟨_, _, hload, hmain⟩ := Stateful.bind_run_eq_ok_iff.mp hmain
  have hbound := (Vm.write_memory_eq_ok (Stateful.expect_run_eq_ok_iff.mp hload)).1
  iterate 7 obtain ⟨_, _, _, hmain⟩ := Stateful.bind_run_eq_ok_iff.mp hmain
  obtain ⟨_, middle, _, hmain⟩ := Stateful.bind_run_eq_ok_iff.mp hmain
  have hlast := (linkMemory_performs host.profile (UInt32.ofNat files.sys_hive.length)).leaves.bind fun _ =>
    ((debug.setup_diagnostic_idt_performs host.profile).expect "IDT failed").leaves.bind fun _ => Leaves.pure loader
  refine ⟨files, middle.mem, hfiles, hbound, ?_⟩
  rw [hlast _ _ _ hmain, List.append_nil]

/-- `main` completes when each of its stages does. -/
theorem main_run {kloader : KernelLoader} {before start mapped s1 s2 s3 s4 s5 s6 s7 s8 after : Vm}
    (hkuser : (initKuser host.profile).run before = .ok () start)
    (hmap : (mapModules host dir).run start = .ok kloader mapped)
    (hsys : readExpected dir "config/SYSTEM" "Read SYSTEM Hive" = .ok files.sys_hive)
    (hansi : readExpected dir "C_1252.NLS" "Read ANSI NLS" = .ok files.ansi_data)
    (hoem : readExpected dir "C_437.NLS" "Read OEM NLS" = .ok files.oem_data)
    (hhive : (loadHive host.profile files.sys_hive).run mapped = .ok () s1)
    (hnls : (loadNls host.profile files.ansi_data files.oem_data).run s1 = .ok () s2)
    (hblocks : (initBlocks host.profile (UInt32.ofNat files.sys_hive.length)).run s2 = .ok () s3)
    (hschema : (loadApiSet host.profile dir).run s3 = .ok () s4)
    (hregister : (registerModules host kloader.modules).run s4 = .ok () s5)
    (hbind : (Stateful.expect (kloader.bind_all host.profile host.cases) "Binding failed").run s5 = .ok () s6)
    (hgdt : (initGdt host.profile).run s6 = .ok () s7)
    (hmemory : (linkMemory host.profile (UInt32.ofNat files.sys_hive.length)).run s7 = .ok () s8)
    (hidt : (Stateful.expect (debug.setup_diagnostic_idt host.profile) "IDT failed").run s8 = .ok () after) :
    (main host dir).run before = .ok kloader after := by
  unfold main
  simp only [Stateful.bind_run, hkuser, hmap, hsys, hansi, hoem, Stateful.lift_ok_run, hhive, hnls, hblocks, hschema,
    hregister, hbind, hgdt, hmemory, hidt, Stateful.pure_run]

end vwfl.main
