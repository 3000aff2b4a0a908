import Vwfl.Cpu.Traps
import Vwfl.Main.Handoff

open Rust ByteStore LittleEndian X86 Transition
open vwfl.vm vwfl.debug vwfl.loader

namespace vwfl.cpu

theorem longModeSregs_control (sregs : kvm_sregs) (kpcr_vaddr : UInt64) :
    (longModeSregs sregs kpcr_vaddr).cr0 = 0x80050023 ∧ (longModeSregs sregs kpcr_vaddr).cr4 = 0x106A0 := ⟨rfl, rfl⟩

section Calls

variable {before after : Vcpu}

theorem Vcpu.call_eq_ok {name : Call} (h : (Vcpu.call name).run before = .ok () after) : after = before := by
  change Vcpu.call name before = _ at h
  unfold Vcpu.call at h
  split at h
  · cases h
  · cases h
    rfl

theorem Vcpu.get_supported_cpuid_eq_ok {entries : List kvm_cpuid_entry2}
    (h : Vcpu.get_supported_cpuid.run before = .ok entries after) : after = before := by
  change Vcpu.get_supported_cpuid before = _ at h
  unfold Vcpu.get_supported_cpuid at h
  split at h
  · cases h
    rfl
  · cases h

theorem Vcpu.set_cpuid2_eq_ok {entries : List kvm_cpuid_entry2}
    (h : (Vcpu.set_cpuid2 entries).run before = .ok () after) :
    after = { before with passed := before.passed ++ [entries] } := by
  obtain ⟨_, middle, hmodify, hcall⟩ := Stateful.bind_run_eq_ok_iff.mp h
  cases hmodify
  exact Vcpu.call_eq_ok hcall

theorem Vcpu.get_sregs_eq_ok {sregs : kvm_sregs} (h : Vcpu.get_sregs.run before = .ok sregs after) :
    sregs = before.sregs ∧ after = before := by
  obtain ⟨_, middle, hcall, hget⟩ := Stateful.bind_run_eq_ok_iff.mp h
  obtain rfl := Vcpu.call_eq_ok hcall
  cases hget
  exact ⟨rfl, rfl⟩

theorem Vcpu.set_sregs_eq_ok {sregs : kvm_sregs} (h : (Vcpu.set_sregs sregs).run before = .ok () after) :
    after = { before with sregs } := by
  obtain ⟨_, middle, hcall, hmodify⟩ := Stateful.bind_run_eq_ok_iff.mp h
  obtain rfl := Vcpu.call_eq_ok hcall
  cases hmodify
  rfl

theorem Vcpu.get_regs_eq_ok {regs : debug.kvm_regs} (h : Vcpu.get_regs.run before = .ok regs after) :
    regs = before.regs ∧ after = before := by
  obtain ⟨_, middle, hcall, hget⟩ := Stateful.bind_run_eq_ok_iff.mp h
  obtain rfl := Vcpu.call_eq_ok hcall
  cases hget
  exact ⟨rfl, rfl⟩

theorem Vcpu.set_regs_eq_ok {regs : debug.kvm_regs} (h : (Vcpu.set_regs regs).run before = .ok () after) :
    after = { before with regs } := by
  obtain ⟨_, middle, hcall, hmodify⟩ := Stateful.bind_run_eq_ok_iff.mp h
  obtain rfl := Vcpu.call_eq_ok hcall
  cases hmodify
  rfl

/-- The model-specific registers are set, or the call is refused. -/
theorem Vcpu.set_msrs_eq_ok {msrs : List kvm_msr_entry}
    (h : (Stateful.ok (Vcpu.set_msrs msrs)).run before = .ok () after) :
    after = { before with msrs } ∨ after = before := by
  rcases Stateful.ok_run_eq_ok_iff.mp h with ⟨_, hset⟩ | ⟨message, hset⟩
  · obtain ⟨_, middle, hcall, hmodify⟩ := Stateful.bind_run_eq_ok_iff.mp hset
    obtain rfl := Vcpu.call_eq_ok hcall
    cases hmodify
    exact .inl rfl
  · right
    unfold Vcpu.set_msrs at hset
    rw [Stateful.bind_run] at hset
    cases hcall : (Vcpu.call .set_msrs).run before with
    | ok value middle =>
      rw [hcall] at hset
      cases hset
    | error fault middle =>
      rw [hcall] at hset
      cases hset
      change Vcpu.call .set_msrs before = _ at hcall
      unfold Vcpu.call at hcall
      split at hcall
      · cases hcall
        rfl
      · cases hcall

theorem Vcpu.write_memory_eq_ok {profile : Profile} {offset : UInt64} {data : List UInt8}
    (h : (Vcpu.write_memory profile offset data).run before = .ok () after) :
    after = { before with vm := { before.vm with mem := store before.vm.mem offset.toNat data } } := by
  change Vcpu.write_memory profile offset data before = _ at h
  unfold Vcpu.write_memory at h
  cases hwrite : (Vm.write_memory profile offset data).run before.vm with
  | ok value vm =>
    rw [hwrite] at h
    cases h
    rw [(Vm.write_memory_eq_ok hwrite).2]
  | error fault vm =>
    rw [hwrite] at h
    cases h

end Calls

/-- The processor when the kernel starts. -/
structure Started (krnl_entry_v stack_v lpb_v : UInt64) (before after : Vcpu) : Prop where
  memory : after.vm.mem = store (store before.vm.mem 0x8000000 (gdt.flatMap ofUInt64)) 0x8001000 (tss stack_v)
  sregs : after.sregs = longModeSregs before.sregs (lpb_v + 0x10000)
  regs : after.regs = { before.regs with
    rip := krnl_entry_v, rsp := stack_v - 0x100, rflags := 0x2, rcx := lpb_v, rdx := lpb_v }

theorem setup_long_mode_eq_ok {profile : Profile} {krnl_entry_v stack_v lpb_v : UInt64} {before after : Vcpu}
    (hlpb : lpb_v.toNat + 0x10000 < 2 ^ 64) (hstack : 0x100 ≤ stack_v.toNat)
    (h : (setup_long_mode profile krnl_entry_v stack_v lpb_v).run before = .ok () after) :
    Started krnl_entry_v stack_v lpb_v before after := by
  have hkpcr : profile.add64 lpb_v 0x10000 = .ok (lpb_v + 0x10000) := profile.add64_of_lt hlpb
  have hrsp : profile.sub64 stack_v 0x100 = .ok (stack_v - 0x100) := profile.sub64_of_le hstack
  unfold setup_long_mode at h
  obtain ⟨kpcr_vaddr, s0, hsum, h0⟩ := Stateful.bind_run_eq_ok_iff.mp h
  obtain ⟨hkpcrValue, rfl⟩ := Stateful.lift_run_eq_ok_iff.mp hsum
  obtain rfl : lpb_v + 0x10000 = kpcr_vaddr := Except.ok.inj (hkpcr.symm.trans hkpcrValue)
  obtain ⟨entries, s1, hcpuid, h1⟩ := Stateful.bind_run_eq_ok_iff.mp h0
  obtain rfl := Vcpu.get_supported_cpuid_eq_ok hcpuid
  obtain ⟨_, s2, hpass, h2⟩ := Stateful.bind_run_eq_ok_iff.mp h1
  obtain rfl := Vcpu.set_cpuid2_eq_ok hpass
  unfold setupRegisters at h2
  obtain ⟨_, s3, hgdt, h3⟩ := Stateful.bind_run_eq_ok_iff.mp h2
  obtain rfl := Vcpu.write_memory_eq_ok hgdt
  obtain ⟨_, s4, htss, h4⟩ := Stateful.bind_run_eq_ok_iff.mp h3
  obtain rfl := Vcpu.write_memory_eq_ok htss
  obtain ⟨sregs, s5, hget, h5⟩ := Stateful.bind_run_eq_ok_iff.mp h4
  obtain ⟨rfl, rfl⟩ := Vcpu.get_sregs_eq_ok hget
  obtain ⟨_, s6, hset, h6⟩ := Stateful.bind_run_eq_ok_iff.mp h5
  obtain rfl := Vcpu.set_sregs_eq_ok hset
  obtain ⟨_, s7, hmsrs, h7⟩ := Stateful.bind_run_eq_ok_iff.mp h6
  obtain ⟨regs, s8, hregs, h8⟩ := Stateful.bind_run_eq_ok_iff.mp h7
  obtain ⟨rfl, rfl⟩ := Vcpu.get_regs_eq_ok hregs
  obtain ⟨rsp, s9, hdifference, h9⟩ := Stateful.bind_run_eq_ok_iff.mp h8
  obtain ⟨hrspValue, rfl⟩ := Stateful.lift_run_eq_ok_iff.mp hdifference
  obtain rfl : stack_v - 0x100 = rsp := Except.ok.inj (hrsp.symm.trans hrspValue)
  obtain rfl := Vcpu.set_regs_eq_ok h9
  rcases Vcpu.set_msrs_eq_ok hmsrs with rfl | rfl
  · exact ⟨rfl, rfl, rfl⟩
  · exact ⟨rfl, rfl, rfl⟩

section Started

variable {krnl_entry_v lpb_v : UInt64} {before after : Vcpu}

private theorem length_gdtBytes : (gdt.flatMap ofUInt64).length = 0x100 := by
  rw [List.length_flatMap]
  rfl

private theorem length_tss (stack_v : UInt64) : (tss stack_v).length = 104 := by
  simp only [tss, length_splice, length_ofUInt64, List.length_replicate]
  norm_num

/-- The setup writes to the descriptor table and the task state segment alone. -/
theorem Started.elsewhere (hstarted : Started krnl_entry_v main.stack_v lpb_v before after) {address : Nat}
    (haddress : ¬ Within 0x8000000 0x1068 address) : after.vm.mem address = before.vm.mem address := by
  unfold Within at haddress
  rw [hstarted.memory, store_outside, store_outside]
  · rw [length_gdtBytes]
    unfold Within
    omega
  · rw [length_tss]
    unfold Within
    omega

/-- After the setup, interrupts find their way. -/
theorem Started.prepared (hstarted : Started krnl_entry_v main.stack_v lpb_v before after)
    (hhandoff : main.Handoff before.vm.mem) : Prepared after.vm.mem := by
  have hload : ∀ start length, 0x8001068 ≤ start →
      load after.vm.mem start length = load before.vm.mem start length := by
    intro start length hstart
    apply load_congr
    intro address haddress
    apply hstarted.elsewhere
    unfold Within at *
    omega
  refine ⟨⟨16, hhandoff.paging.keeps.congr ?_⟩, ?_, ?_, ?_, ?_⟩
  · intro address haddress
    apply hstarted.elsewhere
    unfold Within main.pagingBase at *
    omega
  · have hcode : ((gdt.flatMap ofUInt64).drop 0x10).take 8 = ofUInt64 0x00af9a000000ffff := rfl
    have hinside := load_store_inside before.vm.mem 0x8000000 (gdt.flatMap ofUInt64)
      (show 0x10 + 8 ≤ (gdt.flatMap ofUInt64).length by rw [length_gdtBytes]; decide)
    rw [word, hstarted.memory, load_store_of_disjoint _ _ (by rw [length_tss]; exact disjoint_of_le (.inl (by decide)))]
    rw [show (0x8000010 : Nat) = 0x8000000 + 0x10 by rfl, hinside, hcode, toUInt64_ofUInt64]
    decide
  · have hstack : ((tss main.stack_v).drop 4).take 8 = ofUInt64 main.stack_v := rfl
    rw [word, hstarted.memory, show (0x8001004 : Nat) = 0x8001000 + 4 by rfl,
      load_store_inside _ _ _ (by rw [length_tss]; decide), hstack, toUInt64_ofUInt64]
  · intro vector
    rw [hload _ _ (by unfold debug.handlerOffset; omega)]
    exact hhandoff.handlers vector
  · intro vector
    rw [hload _ _ (by unfold debug.gateOffset; omega)]
    exact hhandoff.gates vector

end Started

/-- The processor and its memory, as an interrupt finds them. -/
def Vcpu.machine (vcpu : Vcpu) : Machine where
  regs := vcpu.regs
  cs := vcpu.sregs.cs.selector
  ss := vcpu.sregs.ss.selector
  mem := vcpu.vm.mem

/-- What happens on the machine between two looks at it. -/
inductive Activity where
  /-- The guest runs, or the debugger changes it. -/
  | guest
  | trap (vector : UInt8) (origin : Origin) (code : UInt64)

/-- The guest may do anything that leaves the way of an interrupt as it is. -/
inductive Lives (profile : Profile) (sregs : kvm_sregs) : Machine → Activity → Machine → Prop where
  | guest {before after : Machine} (hprepared : Prepared after.mem) : Lives profile sregs before .guest after
  | trap {before after : Machine} {vector : UInt8} {origin : Origin} {code : UInt64}
      (hdeliverable : Deliverable origin before) (htrap : trap profile sregs vector origin code before = some after) :
      Lives profile sregs before (.trap vector origin code) after

section Lives

variable {profile : Profile} {sregs : kvm_sregs} {start machine : Machine} {activities : List Activity}

theorem Lives.prepared {before after : Machine} {activity : Activity} (htables : sregs.tables = startTables)
    (hcr3 : sregs.cr3 = main.SYSTEM_CR3) (h : Lives profile sregs before activity after)
    (hbefore : Prepared before.mem) : Prepared after.mem := by
  cases h with
  | guest hprepared => exact hprepared
  | trap hdeliverable htrap =>
    obtain ⟨found, hfound, htrapped⟩ := trap_exact profile htables hcr3 hbefore hdeliverable _ _
    obtain rfl : found = after := Option.some.inj (hfound.symm.trans htrap)
    exact htrapped.prepared

theorem prepared_of_run (htables : sregs.tables = startTables) (hcr3 : sregs.cr3 = main.SYSTEM_CR3)
    (hstart : Prepared start.mem) (hrun : Run (Lives profile sregs) start activities machine) :
    Prepared machine.mem :=
  hrun.invariant (fun state => Prepared state.mem) hstart fun _ _ _ hbefore hlives =>
    hlives.prepared htables hcr3 hbefore

end Lives

section Boot

variable {host : loader.Host} {dir : Directory} {files : main.BootFiles} {before booted : Vm}
  {kloader : KernelLoader} {krnl_entry_v : UInt64} {vcpu started : Vcpu}

private theorem started_of_boot (hvm : vcpu.vm = booted)
    (hstart : (setup_long_mode host.profile krnl_entry_v main.stack_v main.LPB_VBASE).run vcpu = .ok () started) :
    Started krnl_entry_v main.stack_v main.LPB_VBASE { vcpu with vm := booted } started := by
  subst hvm
  exact setup_long_mode_eq_ok (by decide) (by decide) hstart

/-- From the boot on, every interrupt that the stack has room for is delivered,
    reported and answered, whatever has happened before. -/
theorem boot_traps (hmain : (main.main host dir).run before = .ok kloader booted)
    (hfiles : main.bootFiles dir = some files) (hapart : main.HandoffApart host files kloader.modules)
    (hvm : vcpu.vm = booted)
    (hstart : (setup_long_mode host.profile krnl_entry_v main.stack_v main.LPB_VBASE).run vcpu = .ok () started)
    {activities : List Activity} {machine : Machine}
    (hrun : Run (Lives host.profile started.sregs) started.machine activities machine)
    {origin : Origin} (hdeliverable : Deliverable origin machine) (vector : UInt8) (code : UInt64) :
    ∃ after, trap host.profile started.sregs vector origin code machine = some after ∧
      Trapped started.sregs vector origin code machine after := by
  have hstarted := started_of_boot hvm hstart
  have htables : started.sregs.tables = startTables := by
    rw [hstarted.sregs]
    exact longModeSregs_tables _ _
  have hcr3 : started.sregs.cr3 = main.SYSTEM_CR3 := by
    rw [hstarted.sregs]
    rfl
  have hprepared := hstarted.prepared (main.main_handoff hmain hfiles hapart)
  exact trap_exact host.profile htables hcr3 (prepared_of_run htables hcr3 hprepared hrun) hdeliverable vector code

/-- A word as the guest reads it. -/
def Vcpu.word? (vcpu : Vcpu) (vaddr : UInt64) : Option UInt64 :=
  (read (gdb.translate vcpu.vm.mem vcpu.sregs.cr3) vcpu.vm.mem vaddr 8).map toUInt64

/-- The kernel's own records agree with the registers of the processor that
    starts it. -/
structure Agrees (vcpu : Vcpu) : Prop where
  SelfPcr : vcpu.word? (vcpu.sregs.gs.base + 0x18) = some vcpu.sregs.gs.base
  GdtBase : vcpu.word? vcpu.sregs.gs.base = some vcpu.sregs.gdt.base
  TssBase : vcpu.word? (vcpu.sregs.gs.base + 0x8) = some vcpu.sregs.tr.base
  IdtBase : vcpu.word? (vcpu.sregs.gs.base + 0x38) = some vcpu.sregs.idt.base
  CurrentPrcb : vcpu.word? (vcpu.sregs.gs.base + 0x20) = some (vcpu.sregs.gs.base + 0x180)
  Cr3 : vcpu.word? (vcpu.sregs.gs.base + 0x290) = some vcpu.sregs.cr3
  /-- The stack of the interrupts, that of the kernel and the one it starts on. -/
  Rsp0 : vcpu.word? (vcpu.sregs.tr.base + 4) = some (vcpu.regs.rsp + 0x100)
  RspBase : vcpu.word? (vcpu.sregs.gs.base + 0x1A8) = some (vcpu.regs.rsp + 0x100)
  KernelStack : vcpu.word? (vcpu.regs.rcx + 0x80) = some (vcpu.regs.rsp + 0x100)
  Prcb : vcpu.word? (vcpu.regs.rcx + 0x88) = some (vcpu.sregs.gs.base + 0x180)
  /-- The block comes in the first argument of either calling convention. -/
  arguments : vcpu.regs.rdx = vcpu.regs.rcx

/-- Two fields of the records describe control registers that the processor
    does not start with: `ET` is missing from the first, and the second has
    `DE`, `PSE` and `MCE` where the processor has `FSGSBASE`. -/
structure Disagrees (vcpu : Vcpu) : Prop where
  Cr0 : vcpu.word? (vcpu.sregs.gs.base + 0x280) = some (vcpu.sregs.cr0 ^^^ 0x10)
  Cr4 : vcpu.word? (vcpu.sregs.gs.base + 0x298) = some (vcpu.sregs.cr4 ^^^ 0x10058)

private theorem word?_of_prepared (hprepared : Prepared started.vm.mem) (hcr3 : started.sregs.cr3 = main.SYSTEM_CR3)
    {vaddr : UInt64} (offset : Nat) (hvaddr : vaddr.toNat = main.K_VIRT_ANY.toNat + offset)
    (hoffset : offset + 8 ≤ 2 ^ 30) : started.word? vaddr = some (word started.vm.mem offset) := by
  rw [Vcpu.word?, hcr3, read_of_linear (hprepared.kernelMapped.linear hvaddr hoffset), Option.map_some, word]

/-- The setup leaves the kernel's records alone. -/
private theorem Started.word_eq {lpb_v : UInt64} (hstarted : Started krnl_entry_v main.stack_v lpb_v vcpu started)
    {offset : Nat} (hoffset : offset + 8 ≤ 0x8000000) : word started.vm.mem offset = word vcpu.vm.mem offset := by
  rw [word, word]
  congr 1
  apply load_congr
  intro address haddress
  apply hstarted.elsewhere
  unfold Within at *
  omega

/-- The kernel finds in memory what the processor was started with, apart from
    the copies of two control registers. -/
theorem boot_agrees (hmain : (main.main host dir).run before = .ok kloader booted)
    (hfiles : main.bootFiles dir = some files) (hapart : main.HandoffApart host files kloader.modules)
    (hvm : vcpu.vm = booted)
    (hstart : (setup_long_mode host.profile krnl_entry_v main.stack_v main.LPB_VBASE).run vcpu = .ok () started) :
    Agrees started ∧ Disagrees started := by
  have hstarted := started_of_boot hvm hstart
  have hhandoff := main.main_handoff hmain hfiles hapart
  have hprepared := hstarted.prepared hhandoff
  have hregister : started.sregs.gs.base = main.KPCR_VBASE ∧ started.sregs.gdt.base = main.gdt_v ∧
      started.sregs.tr.base = main.tss_v ∧ started.sregs.idt.base = main.idt_v ∧
      started.sregs.cr3 = main.SYSTEM_CR3 := by
    rw [hstarted.sregs]
    exact ⟨rfl, rfl, rfl, rfl, rfl⟩
  have hcontrol : started.sregs.cr0 ^^^ 0x10 = 0x80050033 ∧ started.sregs.cr4 ^^^ 0x10058 = 0x6f8 := by
    rw [hstarted.sregs, (longModeSregs_control _ _).1, (longModeSregs_control _ _).2]
    decide
  have hargument : started.regs.rcx = main.LPB_VBASE ∧ started.regs.rdx = main.LPB_VBASE ∧
      started.regs.rsp + 0x100 = main.stack_v := by
    rw [hstarted.regs]
    exact ⟨rfl, rfl, rfl⟩
  obtain ⟨hgs, hgdt, htr, hidt, hcr3⟩ := hregister
  obtain ⟨hcr0, hcr4⟩ := hcontrol
  obtain ⟨hrcx, hrdx, hrsp⟩ := hargument
  have hrecord : ∀ (offset : Nat) {vaddr value : UInt64}, word booted.mem offset = value →
      vaddr.toNat = main.K_VIRT_ANY.toNat + offset → offset + 8 ≤ 0x8000000 → started.word? vaddr = some value := by
    intro offset vaddr value hvalue hvaddr hoffset
    rw [word?_of_prepared hprepared hcr3 offset hvaddr (by omega), hstarted.word_eq hoffset, hvalue]
  have hrsp0 : started.word? (main.tss_v + 4) = some main.stack_v := by
    rw [word?_of_prepared hprepared hcr3 0x8001004 (by decide) (by decide), hprepared.stack]
  constructor
  · constructor
    all_goals simp only [hgs, hgdt, htr, hidt, hcr3, hrcx, hrdx, hrsp]
    · exact hrecord 0x4010018 hhandoff.SelfPcr (by decide) (by decide)
    · exact hrecord 0x4010000 hhandoff.GdtBase (by decide) (by decide)
    · exact hrecord 0x4010008 hhandoff.TssBase (by decide) (by decide)
    · exact hrecord 0x4010038 hhandoff.IdtBase (by decide) (by decide)
    · exact hrecord 0x4010020 hhandoff.CurrentPrcb (by decide) (by decide)
    · exact hrecord 0x4010290 hhandoff.Cr3 (by decide) (by decide)
    · exact hrsp0
    · exact hrecord 0x40101A8 hhandoff.RspBase (by decide) (by decide)
    · exact hrecord 0x4000080 hhandoff.KernelStack (by decide) (by decide)
    · exact hrecord 0x4000088 hhandoff.Prcb (by decide) (by decide)
  · constructor
    all_goals simp only [hgs, hcr0, hcr4]
    · exact hrecord 0x4010280 hhandoff.Cr0 (by decide) (by decide)
    · exact hrecord 0x4010298 hhandoff.Cr4 (by decide) (by decide)

end Boot

section QuietBoot

private theorem Vcpu.write_memory_run (profile : Profile) {offset : UInt64} {data : List UInt8} (vcpu : Vcpu)
    (h : offset.toNat + data.length ≤ MEM_SIZE.toNat) : (Vcpu.write_memory profile offset data).run vcpu =
      .ok () { vcpu with vm := { vcpu.vm with mem := store vcpu.vm.mem offset.toNat data } } := by
  change Vcpu.write_memory profile offset data vcpu = _
  rw [Vcpu.write_memory, Vm.write_memory_of_le profile vcpu.vm h]

private theorem exists_bind_run {α β : Type} {x : VcpuM α} {f : α → VcpuM β} {value : α} {result : β}
    {vcpu middle : Vcpu} (hx : x.run vcpu = .ok value middle) (hf : ∃ after, (f value).run middle = .ok result after) :
    ∃ after, (x >>= f).run vcpu = .ok result after := by
  obtain ⟨after, hrest⟩ := hf
  exact ⟨after, Stateful.bind_run_eq_ok_iff.mpr ⟨value, middle, hx, hrest⟩⟩

/-- The setup of a virtual CPU that refuses nothing. -/
private theorem reset_run (mem : Vm) : ∃ started,
    (setup_long_mode .release 0 main.stack_v main.LPB_VBASE).run { resetVcpu with vm := mem } = .ok () started := by
  unfold setup_long_mode setupRegisters
  refine exists_bind_run (Stateful.lift_run_eq_ok_iff.mpr ⟨Profile.release.add64_of_lt (by decide), rfl⟩) ?_
  refine exists_bind_run rfl ?_
  refine exists_bind_run rfl ?_
  refine exists_bind_run (Vcpu.write_memory_run .release _ ?_) ?_
  · rw [length_gdtBytes]
    decide
  refine exists_bind_run (Vcpu.write_memory_run .release _ ?_) ⟨_, rfl⟩
  rw [length_tss]
  decide

/-- The bootstrap of an empty system. -/
private theorem quiet_boot : ∃ kloader booted started,
    (main.main main.releaseHost (main.bootDirectory main.quietFiles)).run ⟨fun _ => 0⟩ = .ok kloader booted ∧
      main.bootFiles (main.bootDirectory main.quietFiles) = some main.quietFiles ∧
      main.HandoffApart main.releaseHost main.quietFiles kloader.modules ∧
      (setup_long_mode .release 0 main.stack_v main.LPB_VBASE).run { resetVcpu with vm := booted } =
        .ok () started := by
  obtain ⟨kloader, loaded, hload⟩ := main.loadModules_bootDirectory main.quietFiles
  obtain ⟨booted, hmain⟩ := main.main_run_bootDirectory hload (by decide) (by decide) (by decide) rfl
  have hplan : main.plannedModules main.releaseHost (main.bootDirectory main.quietFiles) = kloader.modules := by
    rw [main.plannedModules, KernelLoader.load_directory_plan hload]
  have hslots := main.bootDirectory_slots hload
  rw [hplan] at hslots
  obtain ⟨started, hstart⟩ := reset_run booted
  refine ⟨kloader, booted, started, hmain, main.bootFiles_bootDirectory main.quietFiles, ?_, hstart⟩
  refine main.handoffApart_fixed (main.bootDirectory_names hload) ?_ (by decide) (by decide) (by decide) rfl
  rw [hslots]
  simp

theorem boot_agrees_quiet : ∃ booted started,
    (setup_long_mode .release 0 main.stack_v main.LPB_VBASE).run { resetVcpu with vm := booted } = .ok () started ∧
      Agrees started ∧ Disagrees started := by
  obtain ⟨kloader, booted, started, hmain, hfiles, hapart, hstart⟩ := quiet_boot
  exact ⟨booted, started, hstart, boot_agrees hmain hfiles hapart rfl hstart⟩

/-- A breakpoint at the kernel's entry, and an interrupt right behind it. -/
theorem boot_traps_quiet : ∃ booted started first second,
    (setup_long_mode .release 0 main.stack_v main.LPB_VBASE).run { resetVcpu with vm := booted } = .ok () started ∧
      trap .release started.sregs 3 .instruction 0 started.machine = some first ∧
      Trapped started.sregs 3 .instruction 0 started.machine first ∧
      trap .release started.sregs 0x20 .external 0 first = some second ∧
      Trapped started.sregs 0x20 .external 0 first second := by
  obtain ⟨kloader, booted, started, hmain, hfiles, hapart, hstart⟩ := quiet_boot
  have hstarted := @started_of_boot main.releaseHost _ _ _ _ rfl hstart
  have hcs : started.machine.cs = 0x10 := by
    rw [Vcpu.machine, hstarted.sregs]
    rfl
  have hrsp : started.machine.regs.rsp = main.stack_v - 0x100 := by
    rw [Vcpu.machine, hstarted.regs]
  have hroom : OnStack (main.stack_v - 0x100) := by
    unfold OnStack
    decide
  have hstartDeliverable : Deliverable .instruction started.machine := by
    constructor
    · intro _
      rwa [hrsp]
    · intro _
      rw [Machine.cpl, hcs]
      decide
  obtain ⟨first, hfirst, htrapped⟩ := boot_traps hmain hfiles hapart rfl hstart .nil hstartDeliverable 3 0
  obtain ⟨rip, _, hregs⟩ := htrapped.resumes (.inl rfl)
  have hfirstDeliverable : Deliverable .external first := by
    constructor
    · intro _
      rwa [hregs, hrsp]
    · intro hinstruction
      cases hinstruction
  obtain ⟨second, hsecond, htrappedAgain⟩ := boot_traps hmain hfiles hapart rfl hstart
    (.single (.trap hstartDeliverable hfirst)) hfirstDeliverable 0x20 0
  exact ⟨booted, started, first, second, hstart, hfirst, htrapped, hsecond, htrappedAgain⟩

end QuietBoot

end vwfl.cpu
