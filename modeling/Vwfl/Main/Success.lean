import Vwfl.Loader.Success
import Vwfl.Main.Survival

open Rust ByteStore LittleEndian Stateful
open vwfl.vm vwfl.pe vwfl.loader vwfl.loaderblock

namespace vwfl.main

/-- Sizes that a host can have: no file and no name takes more than half of the
    address space, and the directory has no billion drivers. -/
structure Realistic (host : Host) (dir : Directory) : Prop where
  files : ∀ name data, dir.read name = .ok data → data.length < 2 ^ 63
  names : ∀ name ∈ moduleNames host dir, (nameBytes name).length < 2 ^ 63
  count : (moduleNames host dir).length ≤ 0x40000000

/-- A directory that boots, with the modules of its plan: they can be loaded and
    their imports bound, the files next to them are there, and the hive fits
    into guest memory. Overflow checks refuse a schema without its first two
    pages and a name without room for its terminator. -/
structure Boots (host : Host) (dir : Directory) (modules : List LoadedModule) : Prop where
  loads : DirectoryLoads host dir KRNL_PBASE krnl_vbase modules
  files : ∃ files, bootFiles dir = some files ∧ 0x4200000 + files.sys_hive.length ≤ MEM_SIZE.toNat ∧
    ∀ apiset_buf ∈ files.apiset_buf, host.profile = .dev → 0x2000 ≤ apiset_buf.length % 2 ^ 32
  names : host.profile = .dev → ∀ loaded ∈ modules, (nameBytes loaded.name).length % 2 ^ 16 + 2 < 2 ^ 16
  binds : Binds ⟨host.profile, host.cases, modules⟩

variable {host : Host} {dir : Directory} {modules : List LoadedModule}

theorem initKuser_completes (profile : Profile) : Completes (initKuser profile) True :=
  (Performs.write_memory_ok profile (by rw [length_kuser_data]; decide)).completes

/-- Only loading can fail until the page tables are up. -/
theorem mapModules_yields (hempty : host.object [] = none) :
    Yields (mapModules host dir) fun kloader => DirectoryLoads host dir KRNL_PBASE krnl_vbase kloader.modules := by
  have hload := load_directory_yields hempty dir KRNL_PBASE krnl_vbase
  intro before kloader
  constructor
  · rintro ⟨after, hmap⟩
    obtain ⟨⟨loaded, hloaded⟩, _⟩ := mapModules_eq_ok hmap
    exact (hload before kloader).mp ⟨loaded, hloaded⟩
  · intro hloads
    obtain ⟨loaded, hloaded⟩ := (hload before kloader).mpr hloads
    exact mapModules_run hloaded

theorem loadHive_completes (profile : Profile) (sys_hive : List UInt8) :
    Completes (loadHive profile sys_hive) (0x4200000 + sys_hive.length ≤ MEM_SIZE.toNat) :=
  (write_memory_completes profile hive_p sys_hive).expect _

/-- Code pages that do not fit are left out silently. -/
theorem loadNls_completes (profile : Profile) {ansi_data oem_data : List UInt8} (hansi : ansi_data.length < 2 ^ 63)
    (hoem : oem_data.length < 2 ^ 63) : Completes (loadNls profile ansi_data oem_data) True := by
  have hansi_p : (nls_p_base + 0x1000).toNat = 0x4031000 := rfl
  have hoem_p : (nls_p_base + 0x11000).toNat = 0x4041000 := rfl
  have hrest : Completes (do
      Stateful.ok (Vm.write_memory profile (nls_p_base + 0x21000) generate_windows_upcase_table)
      Stateful.ok (Vm.write_memory profile nls_p_base (NLS_DATA_BLOCK ansi_v oem_v case_v 0 0))) True := by
    refine (Performs.write_ok_then profile rfl rfl ?_ (Performs.write_memory_ok profile ?_)).completes
    · rw [length_generate_windows_upcase_table]
      decide
    · rw [length_NLS_DATA_BLOCK]
      decide
  have hchain := (write_memory_ok_completes profile (nls_p_base + 0x1000) ansi_data (by omega)).bind fun _ =>
    (write_memory_ok_completes profile (nls_p_base + 0x11000) oem_data (by omega)).bind fun _ => hrest
  exact Yields.congr hchain fun _ => by simp

/-- A schema that does not fit is published all the same. -/
theorem loadApiSet_completes (profile : Profile) (hsize : ∀ data, dir.read "apisetschema.dll" = .ok data →
    data.length < 2 ^ 63) : Completes (loadApiSet profile dir) (∀ data, dir.read "apisetschema.dll" = .ok data →
      profile = .dev → 0x2000 ≤ data.length % 2 ^ 32) := by
  unfold loadApiSet
  cases hread : dir.read "apisetschema.dll" with
  | error message => exact Performs.pure.completes.congr fun _ => by simp
  | ok data =>
    have hbound := hsize data hread
    have hschema_p : apiset_p.toNat = 0x4060000 := rfl
    have hpages : (0x2000 : UInt32).toNat = 0x2000 := rfl
    have hchain := (write_memory_ok_completes profile apiset_p data (by omega)).bind fun _ =>
      (Yields.lift (profile.sub32 (UInt32.ofNat data.length) 0x2000)).bind fun size _ =>
        (@LoaderParameterExtension.set_apiset_performs profile ext_p (apiset_v + 0x2000) size
          (by decide)).ok.completes
    refine Yields.congr hchain fun _ => ?_
    simp only [Profile.sub32_eq_ok_iff, UInt32.toNat_ofNat', hpages, true_and, exists_and_left, exists_eq, and_true,
      Except.ok.injEq, forall_eq']

private theorem maximum_eq_ok {profile : Profile} {length : Nat}
    (hroom : profile = .dev → length % 2 ^ 16 + 2 < 2 ^ 16) :
    profile.add16 (UInt16.ofNat length) 2 = .ok (UInt16.ofNat length + 2) := by
  have hlength : (UInt16.ofNat length).toNat = length % 2 ^ 16 := UInt16.toNat_ofNat'
  have htwo : (2 : UInt16).toNat = 2 := rfl
  refine Profile.checked_eq_ok_iff.mpr ⟨fun hdev => ?_, rfl⟩
  rw [decide_eq_false_iff_not, hlength, htwo]
  have := hroom hdev
  omega

private theorem maximum_eq_panic {profile : Profile} {length : Nat}
    (hroom : ¬ (profile = .dev → length % 2 ^ 16 + 2 < 2 ^ 16)) :
    profile.add16 (UInt16.ofNat length) 2 = .error (.panic "attempt to add with overflow") := by
  have hlength : (UInt16.ofNat length).toNat = length % 2 ^ 16 := UInt16.toNat_ofNat'
  have htwo : (2 : UInt16).toNat = 2 := rfl
  obtain ⟨hdev, hlong⟩ := Classical.not_imp.mp hroom
  refine if_pos ⟨hdev, ?_⟩
  rw [decide_eq_true_iff, hlength, htwo]
  omega

/-- A module is registered, or does not fit and is left out, once the maximum
    length of its name is computed. -/
theorem addNode_completes (profile : Profile) {entry : LoadedModule × Nat} (hindex : entry.2 ≤ 0x40000000)
    (hend : profile.add64 entry.1.v_base entry.1.size.toUInt64 = .ok (entry.1.v_base + entry.1.size.toUInt64))
    (hname : (nameBytes entry.1.name).length < 2 ^ 63) :
    Completes (addNode profile entry)
      (profile = .dev → (nameBytes entry.1.name).length % 2 ^ 16 + 2 < 2 ^ 16) := by
  have hk : K_VIRT_ANY.toNat = 0xFFFFF80000000000 := rfl
  have hskip : (0x150 : UInt64).toNat = 0x150 := rfl
  obtain ⟨hnode_v, hnode_p⟩ := nodeAt_toNat_of_le hindex
  have hbuffer := profile.add64_of_lt (show (nodeAt entry.2).1.toNat + (0x150 : UInt64).toNat < 2 ^ 64 by omega)
  have hname_p := profile.add64_of_lt (show (nodeAt entry.2).2.toNat + (0x150 : UInt64).toNat < 2 ^ 64 by omega)
  have hname_end := BitField.toNat_add_of_lt (show (nodeAt entry.2).2.toNat + (0x150 : UInt64).toNat < 2 ^ 64 by omega)
  have hadd : Completes (Stateful.ok (LdrDataTableEntry.add_module profile (nodeAt entry.2).1 (nodeAt entry.2).2
      entry.1.v_base entry.1.entry entry.1.size entry.1.name))
      (profile = .dev → (nameBytes entry.1.name).length % 2 ^ 16 + 2 < 2 ^ 16) := by
    have hentry_end : (nodeAt entry.2).2.toNat + 0x120 < 2 ^ 64 := by omega
    apply Completes.ok_lift_bind hbuffer
    by_cases hroom : profile = .dev → (nameBytes entry.1.name).length % 2 ^ 16 + 2 < 2 ^ 16
    · rw [eq_true hroom]
      apply Completes.ok_lift_bind (maximum_eq_ok hroom)
      refine Completes.ok_bind (write_memory_ok_completes profile _ _ ?_) fun _ => ?_
      · rw [length_LDR_DATA_TABLE_ENTRY]
        exact hentry_end
      · apply Completes.ok_lift_bind hname_p
        exact write_memory_ok_completes profile _ _ (by omega)
    · rw [eq_false hroom]
      exact Completes.ok_panic_bind (maximum_eq_panic hroom)
  refine Yields.congr ((Yields.lift _).bind fun _ _ => hadd) fun _ => ?_
  simp only [hend, Except.ok.injEq, exists_eq_left']

/-- A link entry below the middle of the address space. -/
theorem writeLinks_completes (profile : Profile) {entry_p : UInt64} (next_v prev_v : UInt64)
    (hentry : entry_p.toNat < 2 ^ 63) : Completes (writeLinks profile entry_p next_v prev_v) True := by
  have hskip : (8 : UInt64).toNat = 8 := rfl
  have hback : (entry_p + 8).toNat = entry_p.toNat + 8 := by
    rw [BitField.toNat_add_of_lt (by omega), hskip]
  have hforward : Completes (Stateful.ok (Vm.write_memory profile entry_p (ofUInt64 next_v))) True :=
    write_memory_ok_completes profile _ _ (by rw [length_ofUInt64]; omega)
  have hbackward : Completes (Stateful.ok (Vm.write_memory profile (entry_p + 8) (ofUInt64 prev_v))) True :=
    write_memory_ok_completes profile _ _ (by rw [length_ofUInt64]; omega)
  exact (hforward.bind fun _ => hbackward).congr fun _ => iff_of_true ⟨trivial, trivial⟩ trivial

/-- A loop of statements that always complete. -/
private theorem forM_completes {ι : Type} {items : List ι} {body : ι → VmM Unit}
    (h : ∀ item ∈ items, Completes (body item) True) : Completes (forM items body) True :=
  (Completes.forM h).congr fun _ => by simp

private theorem inner_toNat {node_p skip : UInt64} (hskip : skip.toNat ≤ 0x20) (hnode : node_p.toNat < 2 ^ 62) :
    (node_p + skip).toNat < 2 ^ 63 := by
  rw [BitField.toNat_add_of_lt (by omega)]
  omega

theorem linkHalExtensions_completes (profile : Profile) {nodes : List (UInt64 × UInt64)}
    (hnodes : ∀ node ∈ nodes, node.2.toNat < 2 ^ 62) : Completes (linkHalExtensions profile nodes) True := by
  unfold linkHalExtensions
  split
  · exact Performs.pure.completes
  · have hloop := forM_completes fun (entry : (UInt64 × UInt64) × Nat) (hentry : entry ∈ nodes.zipIdx) =>
      writeLinks_completes profile
        (if entry.2 = nodes.length - 1 then hal_ext_head_v else nodeV nodes (entry.2 + 1) + 0x20)
        (if entry.2 = 0 then hal_ext_head_v else nodeV nodes (entry.2 - 1) + 0x20)
        (@inner_toNat entry.1.2 0x20 (by decide) (hnodes entry.1 (List.fst_mem_of_mem_zipIdx hentry)))
    have hhead := writeLinks_completes profile (nodeV nodes 0 + 0x20) (nodeV nodes (nodes.length - 1) + 0x20)
      (show hal_ext_head_p.toNat < 2 ^ 63 by decide)
    exact (hhead.bind fun _ => hloop).congr fun _ => iff_of_true ⟨trivial, trivial⟩ trivial

theorem linkLoadOrder_completes (profile : Profile) {nodes : List (UInt64 × UInt64)}
    (hnodes : ∀ node ∈ nodes, node.2.toNat < 2 ^ 62) : Completes (linkLoadOrder profile nodes) True := by
  have hlinks := @writeLinks_completes profile
  have hloop := forM_completes fun (entry : (UInt64 × UInt64) × Nat) (hentry : entry ∈ nodes.zipIdx) =>
    ((hlinks (if entry.2 = nodes.length - 1 then LPB_VBASE + 0x10 else nodeV nodes (entry.2 + 1))
        (if entry.2 = 0 then LPB_VBASE + 0x10 else nodeV nodes (entry.2 - 1))
        (Nat.lt_trans (hnodes entry.1 (List.fst_mem_of_mem_zipIdx hentry)) (by decide))).bind fun _ =>
      hlinks (if entry.2 = nodes.length - 1 then nodeV nodes 0 + 0x10 else nodeV nodes (entry.2 + 1) + 0x10)
        (if entry.2 = 0 then nodeV nodes (nodes.length - 1) + 0x10 else nodeV nodes (entry.2 - 1) + 0x10)
        (@inner_toNat entry.1.2 0x10 (by decide) (hnodes entry.1 (List.fst_mem_of_mem_zipIdx hentry)))).congr
      fun _ => iff_of_true ⟨trivial, trivial⟩ trivial
  refine ((hlinks _ _ ?_).bind fun _ => (hlinks _ _ ?_).bind fun _ => hloop).congr fun _ => by simp
  · decide
  · decide

variable (hempty : host.object [] = none)

include hempty in
/-- Modules that can be loaded are loaded by some run. -/
private theorem DirectoryLoads.run (hloads : DirectoryLoads host dir KRNL_PBASE krnl_vbase modules) :
    ∃ loaded, (loadModules host dir).run ⟨fun _ => 0⟩ = .ok ⟨modules⟩ loaded :=
  ((load_directory_yields hempty dir KRNL_PBASE krnl_vbase) ⟨fun _ => 0⟩ ⟨modules⟩).mpr hloads

include hempty in
/-- The printed end of a loaded module does not overflow. -/
theorem module_end_eq_ok (hloads : DirectoryLoads host dir KRNL_PBASE krnl_vbase modules) :
    ∀ loaded ∈ modules,
      host.profile.add64 loaded.v_base loaded.size.toUInt64 = .ok (loaded.v_base + loaded.size.toUInt64) := by
  obtain ⟨_, hrun⟩ := DirectoryLoads.run hempty hloads
  obtain ⟨ntoskrnl, hal, kd, kdcom, drivers, hmodules, hplaced, _, _⟩ := loadModules_eq_ok hrun
  obtain rfl : modules = ntoskrnl :: hal :: kd :: kdcom :: drivers := hmodules
  have hmemory := MEM_SIZE_toNat
  have hcursor : (0x2000000 : UInt64).toNat = 0x2000000 := rfl
  have hstart : (0xFFFFF80040000000 : UInt64).toNat = 0xFFFFF80040000000 := rfl
  have hextent : extent drivers ≤ 0x300000000 := by
    have hall := hplaced.physical.extent_le (show (0x2000000 : UInt64).toNat ≤ MEM_SIZE.toNat + 2 ^ 32 by omega)
      (fun loaded hloaded => Nat.le_trans (Nat.le_add_right _ _)
        (hloads.images loaded (List.mem_cons_of_mem _ hloaded)).header) (by omega)
    simp only [extent_cons] at hall
    omega
  have hbases : ∀ loaded ∈ ntoskrnl :: hal :: kd :: kdcom :: drivers,
      loaded.v_base.toNat ≤ 0xFFFFF80040000000 + 0x300000000 := by
    obtain ⟨hhal, hkd, hkdcom⟩ := hplaced.fixed
    have hdrivers := hplaced.virtual.within (by omega)
    simp only [List.forall_mem_cons, hplaced.kernel.2, hhal, hkd, hkdcom]
    refine ⟨by decide, by decide, by decide, by decide, fun loaded hloaded => ?_⟩
    have hhigh := (hdrivers loaded hloaded).2
    omega
  intro loaded hloaded
  have hbase := hbases loaded hloaded
  have hsize := loaded.size.toNat_lt
  apply Profile.add64_of_lt
  rw [UInt32.toNat_toUInt64]
  omega

include hempty in
theorem registerModules_completes (hrealistic : Realistic host dir)
    (hloads : DirectoryLoads host dir KRNL_PBASE krnl_vbase modules) :
    Completes (registerModules host modules)
      (host.profile = .dev → ∀ loaded ∈ modules, (nameBytes loaded.name).length % 2 ^ 16 + 2 < 2 ^ 16) := by
  obtain ⟨_, hrun⟩ := DirectoryLoads.run hempty hloads
  have hnames : modules.map LoadedModule.name = moduleNames host dir := loadModules_names hrun
  have hcount : modules.length ≤ 0x40000000 := by
    rw [← List.length_map LoadedModule.name, hnames]
    exact hrealistic.count
  have hnode : ∀ i ≤ modules.length, (nodeAt i).2.toNat < 2 ^ 62 := by
    intro i hi
    have haddress := (nodeAt_toNat_of_le (show i ≤ 0x40000000 by omega)).2
    omega
  have hnodes : Completes (forM modules.zipIdx (addNode host.profile)) (∀ entry ∈ modules.zipIdx,
      host.profile = .dev → (nameBytes entry.1.name).length % 2 ^ 16 + 2 < 2 ^ 16) := by
    refine Completes.forM fun entry hentry => ?_
    have hloaded := List.fst_mem_of_mem_zipIdx hentry
    have hindex := List.snd_lt_of_mem_zipIdx hentry
    refine addNode_completes host.profile (by omega) (module_end_eq_ok hempty hloads entry.1 hloaded)
      (hrealistic.names entry.1.name ?_)
    rw [← hnames]
    exact List.mem_map_of_mem hloaded
  have hextensions : Completes (linkHalExtensions host.profile (halExtNodes host.cases modules)) True := by
    refine linkHalExtensions_completes host.profile fun node hmember => ?_
    obtain ⟨entry, hentry, _, rfl⟩ := mem_halExtNodes hmember
    exact hnode entry.2 (Nat.le_of_lt (List.snd_lt_of_mem_zipIdx hentry))
  have horder : Completes (linkLoadOrder host.profile ((List.range modules.length).map nodeAt)) True := by
    refine linkLoadOrder_completes host.profile fun node hmember => ?_
    obtain ⟨i, hi, rfl⟩ := List.mem_map.mp hmember
    exact hnode i (Nat.le_of_lt (List.mem_range.mp hi))
  refine (hnodes.bind fun _ => hextensions.bind fun _ => horder).congr fun _ => ?_
  simp only [and_true]
  constructor
  · intro hall hdev loaded hloaded
    obtain ⟨i, hi⟩ := List.getElem?_of_mem hloaded
    exact hall (loaded, i) (List.mem_zipIdx_iff_getElem?.mpr hi) hdev
  · intro hall entry hentry hdev
    exact hall hdev entry.1 (List.fst_mem_of_mem_zipIdx hentry)

theorem readExpected_eq_ok_iff {name message : String} {data : List UInt8} :
    readExpected dir name message = .ok data ↔ dir.read name = .ok data := by
  unfold readExpected
  cases dir.read name with
  | error message => simp
  | ok found => simp

theorem bootFiles_eq_some {files : BootFiles} (hfiles : bootFiles dir = some files) :
    ∃ sys_hive, dir.read "config/SYSTEM" = .ok sys_hive ∧ ∃ ansi_data, dir.read "C_1252.NLS" = .ok ansi_data ∧
      ∃ oem_data, dir.read "C_437.NLS" = .ok oem_data ∧
        files = ⟨sys_hive, ansi_data, oem_data, (dir.read "apisetschema.dll").toOption⟩ := by
  have hsome : ∀ {file : Except String (List UInt8)} {data}, file.toOption = some data → file = .ok data := by
    rintro (message | found) data h
    · cases h
    · rw [Option.some.inj h]
  simp only [bootFiles, Option.bind_eq_bind, Option.bind_eq_some_iff] at hfiles
  obtain ⟨sys_hive, hsys, ansi_data, hansi, oem_data, hoem, hfiles⟩ := hfiles
  exact ⟨sys_hive, hsome hsys, ansi_data, hsome hansi, oem_data, hsome hoem, (Option.some.inj hfiles).symm⟩

include hempty in
/-- The stages of `main` complete when the parts of the directory allow it. -/
theorem main_yields (hrealistic : Realistic host dir) :
    Yields (main host dir) fun kloader => Boots host dir kloader.modules := by
  have hread := fun name message => Yields.lift (σ := Vm) (readExpected dir name message)
  have hbind : ∀ kloader : KernelLoader,
      Completes (Stateful.expect (kloader.bind_all host.profile host.cases) "Binding failed")
        (Binds (kloader.resolver host.profile host.cases)) := fun kloader =>
    (bind_all_completes host.profile host.cases kloader).expect "Binding failed"
  have hidt : Completes (Stateful.expect (debug.setup_diagnostic_idt host.profile) "IDT failed") True :=
    (debug.setup_diagnostic_idt_performs host.profile).completes.expect "IDT failed"
  have hchain := (initKuser_completes host.profile).bind fun _ =>
    (mapModules_yields hempty).bind fun kloader hloads =>
    (hread "config/SYSTEM" "Read SYSTEM Hive").bind fun sys_hive _ =>
    (loadHive_completes host.profile sys_hive).bind fun _ =>
    (hread "C_1252.NLS" "Read ANSI NLS").bind fun ansi_data hansi =>
    (hread "C_437.NLS" "Read OEM NLS").bind fun oem_data hoem =>
    (loadNls_completes host.profile (hrealistic.files _ _ (readExpected_eq_ok_iff.mp hansi))
      (hrealistic.files _ _ (readExpected_eq_ok_iff.mp hoem))).bind fun _ =>
    (initBlocks_performs host.profile (UInt32.ofNat sys_hive.length)).completes.bind fun _ =>
    (loadApiSet_completes host.profile fun data hdata => hrealistic.files _ data hdata).bind fun _ =>
    (registerModules_completes hempty hrealistic hloads).bind fun _ =>
    (hbind kloader).bind fun _ =>
    (initGdt_performs host.profile).completes.bind fun _ =>
    (linkMemory_performs host.profile (UInt32.ofNat sys_hive.length)).completes.bind fun _ =>
    hidt.bind fun _ => Yields.pure kloader
  refine Yields.congr hchain fun kloader => ?_
  simp only [readExpected_eq_ok_iff, true_and]
  constructor
  · rintro ⟨_, hloads, sys_hive, hsys, hhive, ansi_data, hansi, oem_data, hoem, hschema, hnames, hbinds, rfl⟩
    refine ⟨hloads, ⟨⟨sys_hive, ansi_data, oem_data, (dir.read "apisetschema.dll").toOption⟩, ?_, hhive, ?_⟩, hnames,
      hbinds⟩
    · simp only [bootFiles, hsys, hansi, hoem]
      rfl
    · intro apiset_buf hbuf
      cases hfile : dir.read "apisetschema.dll" with
      | error message =>
        rw [hfile] at hbuf
        cases hbuf
      | ok data =>
        rw [hfile] at hbuf
        obtain rfl : data = apiset_buf := Option.some.inj hbuf
        exact hschema data hfile
  · rintro ⟨hloads, ⟨files, hfiles, hhive, hschema⟩, hnames, hbinds⟩
    obtain ⟨sys_hive, hsys, ansi_data, hansi, oem_data, hoem, rfl⟩ := bootFiles_eq_some hfiles
    refine ⟨kloader, hloads, sys_hive, hsys, hhive, ansi_data, hansi, oem_data, hoem, ?_, hnames, hbinds, rfl⟩
    intro data hdata
    apply hschema data
    rw [hdata]
    rfl

include hempty in
/-- `main` reaches the processor exactly when the directory boots, whatever the
    guest memory was, and hands over the modules of the plan. -/
theorem main_ok_iff (hrealistic : Realistic host dir) (before : Vm) (kloader : KernelLoader) :
    (∃ after, (main host dir).run before = .ok kloader after) ↔ Boots host dir kloader.modules :=
  main_yields hempty hrealistic before kloader

theorem realistic_quietFiles : Realistic releaseHost (bootDirectory quietFiles) := by
  refine ⟨?_, ?_, ?_⟩
  · intro name data hread
    simp only [bootDirectory] at hread
    split_ifs at hread <;> cases hread <;> decide +kernel
  · rw [moduleNames_bootDirectory]
    decide
  · rw [moduleNames_bootDirectory]
    decide

theorem main_ok_iff_quietFiles : ∃ kloader after,
    (main releaseHost (bootDirectory quietFiles)).run ⟨fun _ => 0⟩ = .ok kloader after ∧
      Boots releaseHost (bootDirectory quietFiles) kloader.modules := by
  obtain ⟨kloader, loaded, hload⟩ := loadModules_bootDirectory quietFiles
  obtain ⟨after, hmain⟩ := main_run_bootDirectory hload (by decide) (by decide) (by decide) rfl
  have hempty : releaseHost.object [] = none := by decide
  exact ⟨kloader, after, hmain, (main_ok_iff hempty realistic_quietFiles ⟨fun _ => 0⟩ kloader).mp ⟨after, hmain⟩⟩

end vwfl.main
