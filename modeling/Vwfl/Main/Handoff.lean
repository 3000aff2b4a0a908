import Vwfl.Debug.Stub
import Vwfl.Main.Survival

open Rust ByteStore LittleEndian
open vwfl.vm vwfl.pe vwfl.loader vwfl.loaderblock

namespace vwfl.main

/-- The areas that the processor reads before the kernel has run: the loader
    block behind its list heads, the processor region and the page tables. -/
def InHandoff (start length : Nat) : Prop :=
  0x4000040 ≤ start ∧ start + length ≤ 0x4000160 ∨ 0x4010000 ≤ start ∧ start + length ≤ 0x4010880 ∨
    0x8100000 ≤ start ∧ start + length ≤ 0x8180000

/-- No file reaches the page tables, the nodes keep apart, and no resolved slot
    lies in what the processor reads first. -/
structure HandoffApart (host : Host) (files : BootFiles) (modules : List LoadedModule) : Prop where
  hive : 0x4200000 + files.sys_hive.length ≤ 0x8100000
  ansi : 0x4031000 + files.ansi_data.length ≤ 0x8100000
  oem : 0x4041000 + files.oem_data.length ≤ 0x8100000
  apiset : ∀ apiset_buf ∈ files.apiset_buf, 0x4060000 + apiset_buf.length ≤ 0x8100000
  nodes : ∀ entry ∈ modules.zipIdx, 0x4040150 + 0x1000 * entry.2 + (nameBytes entry.1.name).length ≤ 0x8100000
  names : ∀ entry ∈ modules.zipIdx, entry.2 + 1 < modules.length → 0x150 + (nameBytes entry.1.name).length ≤ 0x1000
  slots : ∀ slot ∈ resolvedSlots ⟨host.profile, host.cases, modules⟩, ∀ start length, InHandoff start length →
    Disjoint start length slot 8

variable {host : Host} {dir : Directory} {files : BootFiles} {modules : List LoadedModule} {start length : Nat}

theorem HandoffApart.nodesApart (hapart : HandoffApart host files modules) : NodesApart modules := by
  refine ⟨?_, hapart.names⟩
  intro entry hentry
  have hend := hapart.nodes entry hentry
  have hsize := MEM_SIZE_toNat
  omega

theorem HandoffApart.fitsMemory (hapart : HandoffApart host files modules) : FitsMemory files modules := by
  have hsize := MEM_SIZE_toNat
  have hansi := hapart.ansi
  have hoem := hapart.oem
  refine ⟨by omega, by omega, ?_, ?_⟩
  · intro apiset_buf hbuf
    have happly := hapart.apiset apiset_buf hbuf
    omega
  · intro entry hentry
    have hend := hapart.nodes entry hentry
    omega

section Misses

/-- Such an area, or one in front of the loader block. -/
def Spared (start length : Nat) : Prop := start + length ≤ 0x4000000 ∨ InHandoff start length

variable (harea : Spared start length)

include harea

private theorem Spared.disjoint {offset size : Nat}
    (h : 0x4000000 ≤ offset ∧ (offset + size ≤ 0x4000040 ∨ 0x4000160 ≤ offset ∧ offset + size ≤ 0x4010000 ∨
      0x4010880 ≤ offset ∧ offset + size ≤ 0x8100000)) : Disjoint start length offset size := by
  unfold Spared InHandoff at harea
  exact disjoint_of_le (by omega)

private theorem Spared.registerWrites_misses (cases : CaseMap) (hapart : HandoffApart host files modules) :
    Misses start length (registerWrites cases modules) := by
  unfold Spared InHandoff at harea
  refine main.registerWrites_misses cases hapart.nodesApart (disjoint_of_le (by omega)) (disjoint_of_le (by omega)) ?_
  intro entry hentry
  have hend := hapart.nodes entry hentry
  omega

private theorem Spared.closingWrites_misses
    (hslots : ∀ slot ∈ resolvedSlots ⟨host.profile, host.cases, modules⟩, Disjoint start length slot 8)
    (hive_size : UInt32) : Misses start length (closingWrites host hive_size modules) := by
  unfold Spared InHandoff at harea
  exact main.closingWrites_misses hive_size (by omega) hslots

end Misses

/-- Stores of `main` behind the loader block. -/
def tailWrites (host : Host) (files : BootFiles) (modules : List LoadedModule) : List (Nat × List UInt8) :=
  acpi.tableWrites 0x5000000 ACPI_VBASE ++ (LoaderParameterExtension.writes ext_v 0x4008000 ++
    ([(0x4008078, ofUInt64 ACPI_VBASE), (0x4008080, ofUInt32 36)] ++ (schemaWrites files.apiset_buf ++
      (registerWrites host.cases modules ++ closingWrites host (UInt32.ofNat files.sys_hive.length) modules))))

theorem bootWrites_eq (host : Host) (files : BootFiles) (modules : List LoadedModule) :
    bootWrites host files modules =
      ((0x4200000, files.sys_hive) :: nlsWrites files.ansi_data files.oem_data) ++
        (Kpcr.writes KPCR_VBASE 0x4010000 gdt_v idt_v tss_v stack_v ++
          (LoaderParameterBlock.writes LPB_VBASE 0x4000000 (KPCR_VBASE + 0x180) stack_v 0x10000 hive_v
            (UInt32.ofNat files.sys_hive.length) nls_v_base ++ tailWrites host files modules)) := by
  simp only [bootWrites, lateWrites, blockWrites, tailWrites, List.append_assoc, List.cons_append, List.nil_append]

private theorem tailWrites_misses (harea : Spared start length) (hapart : HandoffApart host files modules)
    (hslots : ∀ slot ∈ resolvedSlots ⟨host.profile, host.cases, modules⟩, Disjoint start length slot 8) :
    Misses start length (tailWrites host files modules) := by
  refine misses_append.mpr ⟨acpi.tableWrites_misses _ (harea.disjoint (by omega)), ?_⟩
  refine misses_append.mpr ⟨LoaderParameterExtension.writes_misses (harea.disjoint (by omega)), ?_⟩
  refine misses_append.mpr ⟨acpiFields_misses (harea.disjoint (by omega)), misses_append.mpr ⟨?_, ?_⟩⟩
  · refine schemaWrites_misses ?_ (harea.disjoint (by omega))
    intro apiset_buf hbuf
    have hend := hapart.apiset apiset_buf hbuf
    exact harea.disjoint (by omega)
  · exact misses_append.mpr ⟨harea.registerWrites_misses host.cases hapart, harea.closingWrites_misses hslots _⟩

/-- The data files end in front of the page tables. The case table is a
    variable: only its length matters here. -/
private theorem dataWrites_misses {sys_hive ansi_data oem_data table block : List UInt8}
    (harea : start + length ≤ 0x4000000 ∨ 0x8100000 ≤ start)
    (hhive : 0x4200000 + sys_hive.length ≤ 0x8100000) (hansi : 0x4031000 + ansi_data.length ≤ 0x8100000)
    (hoem : 0x4041000 + oem_data.length ≤ 0x8100000) (htable : table.length = 131072) (hblock : block.length = 40) :
    Misses start length [(0x4200000, sys_hive), (0x4031000, ansi_data), (0x4041000, oem_data),
      (0x4051000, table), (0x4030000, block)] := by
  intro write hwrite
  simp only [List.mem_cons, List.not_mem_nil, or_false] at hwrite
  rcases hwrite with rfl | rfl | rfl | rfl | rfl
  all_goals
    apply disjoint_of_le
    simp only
    omega

/-- Once the page tables are set up, nothing is stored into them, and only the
    slots of imports are stored in front of the loader block. -/
theorem bootWrites_misses (hapart : HandoffApart host files modules)
    (harea : start + length ≤ 0x4000000 ∨ 0x8100000 ≤ start ∧ start + length ≤ 0x8180000)
    (hslots : ∀ slot ∈ resolvedSlots ⟨host.profile, host.cases, modules⟩, Disjoint start length slot 8) :
    Misses start length (bootWrites host files modules) := by
  have hspared : Spared start length := harea.imp_right fun htables => .inr (.inr htables)
  have hhive := hapart.hive
  have hansi := hapart.ansi
  have hoem := hapart.oem
  rw [bootWrites_eq]
  refine misses_append.mpr
    ⟨?_, misses_append.mpr ⟨?_, misses_append.mpr ⟨?_, tailWrites_misses hspared hapart hslots⟩⟩⟩
  · exact dataWrites_misses (harea.imp_right And.left) hhive hansi hoem length_generate_windows_upcase_table
      (length_NLS_DATA_BLOCK _ _ _ _ _)
  · exact Kpcr.writes_misses (disjoint_of_le (by omega))
  · exact LoaderParameterBlock.writes_misses (disjoint_of_le (by omega)) (disjoint_of_le (by omega))

/-- Nothing is stored into the page tables once they are set up. -/
theorem bootWrites_misses_tables (hapart : HandoffApart host files modules) :
    Misses 0x8100000 0x80000 (bootWrites host files modules) :=
  bootWrites_misses hapart (.inr (by omega)) fun slot hslot =>
    hapart.slots slot hslot 0x8100000 0x80000 (.inr (.inr (by omega)))

/-- What `main` leaves for the processor and the kernel to find: the page
    tables, the processor region, the loader block's view of it, and the
    interrupt handlers behind their gates. -/
structure Handoff (mem : Nat → UInt8) : Prop where
  paging : HoldsTables mem 16
  GdtBase : word mem 0x4010000 = gdt_v
  TssBase : word mem 0x4010008 = tss_v
  SelfPcr : word mem 0x4010018 = KPCR_VBASE
  CurrentPrcb : word mem 0x4010020 = KPCR_VBASE + 0x180
  IdtBase : word mem 0x4010038 = idt_v
  RspBase : word mem 0x40101A8 = stack_v
  Cr0 : word mem 0x4010280 = 0x80050033
  Cr3 : word mem 0x4010290 = SYSTEM_CR3
  Cr4 : word mem 0x4010298 = 0x6f8
  KernelStack : word mem 0x4000080 = stack_v
  Prcb : word mem 0x4000088 = KPCR_VBASE + 0x180
  handlers : ∀ vector : UInt8, load mem (debug.handlerOffset vector) 41 = debug.stub vector.toNat
  gates : ∀ vector : UInt8, load mem (debug.gateOffset vector) 16 = debug.idtEntry vector.toNat

section Words

/-- The processor region among the stores of `main`. -/
private theorem region_split (host : Host) (files : BootFiles) (modules : List LoadedModule) :
    ∃ before, bootWrites host files modules =
      before ++ (0x4010000, KPCR gdt_v tss_v KPCR_VBASE (KPCR_VBASE + 0x180) KPCR_VBASE idt_v 1 1 0x00000024) ::
        ((Kpcr.writes KPCR_VBASE 0x4010000 gdt_v idt_v tss_v stack_v).tail ++
          (LoaderParameterBlock.writes LPB_VBASE 0x4000000 (KPCR_VBASE + 0x180) stack_v 0x10000 hive_v
            (UInt32.ofNat files.sys_hive.length) nls_v_base ++ tailWrites host files modules)) := by
  rw [bootWrites_eq]
  exact ⟨_, rfl⟩

/-- The processor control block among them. -/
private theorem control_split (host : Host) (files : BootFiles) (modules : List LoadedModule) :
    ∃ before, bootWrites host files modules =
      before ++ (0x4010180, KPRCB 0x1F80 stack_v 3600 19041 10 3600000000 0x80050033 0x8102000 0x6f8) ::
        ([(0x4010248, ofUInt64 1), (0x4010254, ofUInt32 0)] ++
          (LoaderParameterBlock.writes LPB_VBASE 0x4000000 (KPCR_VBASE + 0x180) stack_v 0x10000 hive_v
            (UInt32.ofNat files.sys_hive.length) nls_v_base ++ tailWrites host files modules)) := by
  rw [bootWrites_eq]
  exact ⟨((0x4200000, files.sys_hive) :: nlsWrites files.ansi_data files.oem_data) ++
    [(0x4010000, KPCR gdt_v tss_v KPCR_VBASE (KPCR_VBASE + 0x180) KPCR_VBASE idt_v 1 1 0x00000024)], rfl⟩

/-- The loader block among them. -/
private theorem block_split (host : Host) (files : BootFiles) (modules : List LoadedModule) :
    ∃ before, bootWrites host files modules =
      before ++ (0x4000000, LOADER_PARAMETER_BLOCK 10 0x160 stack_v (KPCR_VBASE + 0x180)
        (KPCR_VBASE + 0x180 - 0x180 + 0x6000) (KPCR_VBASE + 0x180 - 0x180 + 0x5000) 0x10000
        (UInt32.ofNat files.sys_hive.length) hive_v (LPB_VBASE + 0xC000) nls_v_base (LPB_VBASE + 0x8000)) ::
          tailWrites host files modules := by
  rw [bootWrites_eq]
  exact ⟨((0x4200000, files.sys_hive) :: nlsWrites files.ansi_data files.oem_data) ++
    (Kpcr.writes KPCR_VBASE 0x4010000 gdt_v idt_v tss_v stack_v ++ [(0x400C000, [0])]), rfl⟩

variable (mem : Nat → UInt8) (hapart : HandoffApart host files modules)

include hapart

private theorem blockStores_misses (hlow : 0x4010000 ≤ start) (hhigh : start + length ≤ 0x4010880) :
    Misses start length (LoaderParameterBlock.writes LPB_VBASE 0x4000000 (KPCR_VBASE + 0x180) stack_v 0x10000 hive_v
      (UInt32.ofNat files.sys_hive.length) nls_v_base ++ tailWrites host files modules) := by
  have harea : InHandoff start length := .inr (.inl ⟨hlow, hhigh⟩)
  refine misses_append.mpr
    ⟨?_, tailWrites_misses (.inr harea) hapart fun slot hslot => hapart.slots slot hslot _ _ harea⟩
  exact LoaderParameterBlock.writes_misses (disjoint_of_le (by omega)) (disjoint_of_le (by omega))

/-- Fields of the processor region survive. -/
theorem region_word {index : Nat} {value : UInt64}
    (hvalue : ((KPCR gdt_v tss_v KPCR_VBASE (KPCR_VBASE + 0x180) KPCR_VBASE idt_v 1 1 0x00000024).drop index).take 8 =
      ofUInt64 value) (hindex : index + 8 ≤ 0x180) :
    word (storeAll mem (bootWrites host files modules)) (0x4010000 + index) = value := by
  obtain ⟨before, hsplit⟩ := region_split host files modules
  rw [hsplit, word, load_storeAll_inside mem (by rw [length_KPCR]; omega), hvalue, toUInt64_ofUInt64]
  refine misses_append.mpr ⟨?_, blockStores_misses hapart (by omega) (by omega)⟩
  refine misses_cons.mpr ⟨?_, misses_cons.mpr ⟨?_, misses_cons.mpr ⟨?_, misses_nil _ _⟩⟩⟩
  · exact disjoint_of_le (by simp only; omega)
  · exact disjoint_of_le (by simp only; omega)
  · exact disjoint_of_le (by simp only; omega)

/-- Fields of the processor control block survive, apart from the two that are
    written behind it. -/
theorem control_word {index : Nat} {value : UInt64}
    (hvalue : ((KPRCB 0x1F80 stack_v 3600 19041 10 3600000000 0x80050033 0x8102000 0x6f8).drop index).take 8 =
      ofUInt64 value) (hindex : index + 8 ≤ 0xC8 ∨ 0xD8 ≤ index ∧ index + 8 ≤ 0x700) :
    word (storeAll mem (bootWrites host files modules)) (0x4010180 + index) = value := by
  obtain ⟨before, hsplit⟩ := control_split host files modules
  rw [hsplit, word, load_storeAll_inside mem (by rw [length_KPRCB]; omega), hvalue, toUInt64_ofUInt64]
  refine misses_append.mpr ⟨?_, blockStores_misses hapart (by omega) (by omega)⟩
  refine misses_cons.mpr ⟨?_, misses_cons.mpr ⟨?_, misses_nil _ _⟩⟩
  · exact disjoint_of_le (by simp only [length_ofUInt64]; omega)
  · exact disjoint_of_le (by simp only [length_ofUInt32]; omega)

/-- Fields of the loader block behind its list heads survive. -/
theorem block_word {index : Nat} {value : UInt64}
    (hvalue : ((LOADER_PARAMETER_BLOCK 10 0x160 stack_v (KPCR_VBASE + 0x180)
        (KPCR_VBASE + 0x180 - 0x180 + 0x6000) (KPCR_VBASE + 0x180 - 0x180 + 0x5000) 0x10000
        (UInt32.ofNat files.sys_hive.length) hive_v (LPB_VBASE + 0xC000) nls_v_base
        (LPB_VBASE + 0x8000)).drop index).take 8 = ofUInt64 value) (hlow : 0x40 ≤ index) (hhigh : index + 8 ≤ 0x160) :
    word (storeAll mem (bootWrites host files modules)) (0x4000000 + index) = value := by
  obtain ⟨before, hsplit⟩ := block_split host files modules
  rw [hsplit, word, load_storeAll_inside mem (by rw [length_LOADER_PARAMETER_BLOCK]; omega), hvalue,
    toUInt64_ofUInt64]
  have harea : InHandoff (0x4000000 + index) 8 := .inl (by omega)
  exact tailWrites_misses (.inr harea) hapart fun slot hslot => hapart.slots slot hslot _ _ harea

end Words

/-- A completed `main` hands over. -/
theorem main_handoff {before after : Vm} {kloader : KernelLoader}
    (hmain : (main host dir).run before = .ok kloader after) (hfiles : bootFiles dir = some files)
    (hapart : HandoffApart host files kloader.modules) : Handoff after.mem := by
  obtain ⟨found, start, mapped, hfound, hmap, htrace⟩ := main_eq_ok hmain
  obtain rfl : found = files := Option.some.inj (hfound.symm.trans hfiles)
  have hmem := htrace hapart.fitsMemory
  obtain ⟨_, hholds⟩ := mapModules_eq_ok hmap
  obtain ⟨last, middle, _, _, hclosing⟩ := main_closing hmain
  rw [storeAll_append] at hclosing
  have hidt : (debug.setup_diagnostic_idt host.profile).run
      ⟨storeAll middle (memoryWrites (UInt32.ofNat last.sys_hive.length))⟩ = .ok () after := by
    rw [debug.setup_diagnostic_idt_performs, ← hclosing]
  obtain ⟨hgdt, htss, hself, hprcb, _, hidtBase⟩ :=
    fields_KPCR gdt_v tss_v KPCR_VBASE (KPCR_VBASE + 0x180) KPCR_VBASE idt_v 1 1 0x00000024
  obtain ⟨hrsp, hcr0, hcr3, hcr4⟩ := fields_KPRCB 0x1F80 stack_v 3600 19041 10 3600000000 0x80050033 0x8102000 0x6f8
  obtain ⟨hstack, hcontrol, _⟩ := fields_LOADER_PARAMETER_BLOCK 10 0x160 stack_v (KPCR_VBASE + 0x180)
    (KPCR_VBASE + 0x180 - 0x180 + 0x6000) (KPCR_VBASE + 0x180 - 0x180 + 0x5000) 0x10000
    (UInt32.ofNat found.sys_hive.length) hive_v (LPB_VBASE + 0xC000) nls_v_base (LPB_VBASE + 0x8000)
  have hregion := fun index value hvalue hindex =>
    hmem ▸ @region_word host found kloader.modules mapped.mem hapart index value hvalue hindex
  have hcontrolWord := fun index value hvalue hindex =>
    hmem ▸ @control_word host found kloader.modules mapped.mem hapart index value hvalue hindex
  have hblock := fun index value hvalue hlow hhigh =>
    hmem ▸ @block_word host found kloader.modules mapped.mem hapart index value hvalue hlow hhigh
  have hhandlers := debug.setup_diagnostic_idt_loads hidt
  refine ⟨?_, hregion 0 _ hgdt (by decide), hregion 0x8 _ htss (by decide), hregion 0x18 _ hself (by decide),
    hregion 0x20 _ hprcb (by decide), hregion 0x38 _ hidtBase (by decide), hcontrolWord 0x28 _ hrsp (by decide),
    hcontrolWord 0x100 _ hcr0 (by decide), hcontrolWord 0x110 _ hcr3 (by decide), hcontrolWord 0x118 _ hcr4 (by decide),
    hblock 0x80 _ hstack (by decide) (by decide), hblock 0x88 _ hcontrol (by decide) (by decide),
    fun vector => (hhandlers vector).1, fun vector => (hhandlers vector).2⟩
  intro slot hslot hbridge
  rw [hmem, ← hholds slot hslot hbridge, wordAt, wordAt]
  congr 1
  apply load_storeAll_of_disjoint
  unfold pagingBase
  exact (bootWrites_misses_tables hapart).mono (by omega) (by omega)

/-- The fixed modules alone keep apart from what the processor reads first, as
    long as their slots and the boot files do. -/
theorem handoffApart_fixed
    (hnames : modules.map LoadedModule.name = ["ntoskrnl.exe", "hal.dll", "kd.dll", "kdcom.dll"])
    (hslots : ∀ slot ∈ resolvedSlots ⟨releaseHost.profile, releaseHost.cases, modules⟩, slot + 8 ≤ 0x4000000)
    (hhive : 0x4200000 + files.sys_hive.length ≤ 0x8100000) (hansi : files.ansi_data.length ≤ 0x1000)
    (hoem : files.oem_data.length ≤ 0x1000) (hapiset : files.apiset_buf = none) :
    HandoffApart releaseHost files modules := by
  refine ⟨hhive, by omega, by omega, by simp [hapiset], ?_, ?_, ?_⟩
  · intro entry hentry
    obtain ⟨hindex, hname⟩ := fixedNames_short hnames entry hentry
    omega
  · intro entry hentry _
    obtain ⟨_, hname⟩ := fixedNames_short hnames entry hentry
    omega
  · intro slot hslot start length harea
    have hend := hslots slot hslot
    unfold InHandoff at harea
    exact disjoint_of_le (by omega)

end vwfl.main
