import Vwfl.Cpu.LongMode
import Vwfl.Debug.Resume
import Vwfl.Main.Boot
import Vwfl.Main.Paging.Kept
import Vwfl.Transition.Run
import Vwfl.X86.Tables

open Rust ByteStore LittleEndian X86 Transition
open vwfl.vm vwfl.debug

namespace vwfl.cpu

/-- The table registers among the special registers. -/
def kvm_sregs.tables (sregs : kvm_sregs) : TableRegisters where
  gdt := ⟨sregs.gdt.base, sregs.gdt.limit.toNat⟩
  idt := ⟨sregs.idt.base, sregs.idt.limit.toNat⟩
  task := ⟨sregs.tr.base, sregs.tr.limit.toNat⟩

/-- The table registers of the kernel's start. -/
def startTables : TableRegisters where
  gdt := ⟨gdt_vbase, 0xFF⟩
  idt := ⟨k_virt_base + gdt_pbase + 0x20000, 0xFFF⟩
  task := ⟨tss_vbase, 0x67⟩

theorem longModeSregs_tables (sregs : kvm_sregs) (kpcr_vaddr : UInt64) :
    (longModeSregs sregs kpcr_vaddr).tables = startTables := rfl

/-- The monitor's side of a trap: what the handler's code reports on port 0xF9
    is handled, and the guest goes on with the registers that this leaves. -/
def answer (profile : Profile) (vector : UInt8) (exit : Machine) : Option Machine :=
  match (handle_diagnostic_trap profile vector).run ⟨⟨exit.mem⟩, exit.regs, fun _ => none⟩ with
  | .ok () guest => some { exit with regs := guest.regs, mem := guest.vm.mem }
  | .error _ _ => none

/-- An interrupt, from the processor's delivery over the handler's code to the
    monitor and back. The translation is the one at the interrupt: nothing on
    the way writes to the page tables. -/
def trap (profile : Profile) (sregs : kvm_sregs) (vector : UInt8) (origin : Origin) (code : UInt64)
    (machine : Machine) : Option Machine := do
  let mmu := gdb.translate machine.mem sregs.cr3
  let delivered ← sregs.tables.deliver mmu vector origin code machine
  match runToEvent mmu 7 delivered with
  | some (.out 0xF9 reported, exit) => answer profile reported exit
  | _ => none

/-- Memory in which interrupts still find their way: the kernel's windows are
    mapped, and the descriptors, the gates and the handlers are as they were
    set up. -/
structure Prepared (mem : Nat → UInt8) : Prop where
  paging : ∃ hal_index, main.KeepsTables mem hal_index
  code : codeLevel (word mem 0x8000010) = some 0
  stack : word mem 0x8001004 = main.stack_v
  handlers : ∀ vector : UInt8, load mem (handlerOffset vector) 41 = stub vector.toNat
  gates : ∀ vector : UInt8, load mem (gateOffset vector) 16 = idtEntry vector.toNat

/-- The area of the tables and the handlers, without the save area. -/
def InTables (address : Nat) : Prop := 0x8000000 ≤ address ∧ address < 0x8180000 ∧ ¬ Within 0x8060000 24 address

theorem Prepared.congr {mem other : Nat → UInt8} (h : Prepared mem)
    (hsame : ∀ address, InTables address → other address = mem address) : Prepared other := by
  have hload : ∀ start length, 0x8000000 ≤ start → start + length ≤ 0x8060000 →
      load other start length = load mem start length := by
    intro start length hstart hend
    apply load_congr
    intro address haddress
    apply hsame
    unfold Within InTables Within at *
    omega
  obtain ⟨hal_index, hpaging⟩ := h.paging
  refine ⟨⟨hal_index, hpaging.congr ?_⟩, ?_, ?_, ?_, ?_⟩
  · intro address haddress
    apply hsame
    unfold Within main.pagingBase at haddress
    unfold InTables Within
    omega
  · rw [word, hload _ _ (by decide) (by decide)]
    exact h.code
  · rw [word, hload _ _ (by decide) (by decide)]
    exact h.stack
  · intro vector
    have hvector := vector.toNat_lt
    rw [hload _ _ (by unfold handlerOffset; omega) (by unfold handlerOffset; omega)]
    exact h.handlers vector
  · intro vector
    have hvector := vector.toNat_lt
    rw [hload _ _ (by unfold gateOffset; omega) (by unfold gateOffset; omega)]
    exact h.gates vector

/-- Stack pointers with room for a frame in the part of the stack window that
    the monitor knows. -/
def OnStack (rsp : UInt64) : Prop :=
  main.STACK_VBASE.toNat + 0x30 ≤ rsp.toNat ∧ rsp.toNat ≤ main.STACK_VBASE.toNat + 0x8000000

/-- An interrupt that the stack has room for. The gates are for ring 0 alone. -/
structure Deliverable (origin : Origin) (machine : Machine) : Prop where
  room : machine.cpl = 0 → OnStack machine.regs.rsp
  admitted : origin = .instruction → machine.cpl = 0

/-- Where the handler's stack starts: the stack of the task state segment takes
    over when the interrupt comes from another level. -/
def handlerTop (machine : Machine) : UInt64 :=
  (if 0 < machine.cpl then main.stack_v else machine.regs.rsp) &&& ~~~ 0xF

/-- Distance of the frame from the start of the stack window. -/
def frameStart (vector : UInt8) (origin : Origin) (code : UInt64) (machine : Machine) : Nat :=
  (handlerTop machine).toNat - main.STACK_VBASE.toNat - 8 * (frameWords vector origin code machine).length

/-- The frame in guest memory. -/
def frameOffset (vector : UInt8) (origin : Origin) (code : UInt64) (machine : Machine) : Nat :=
  main.STACK_PBASE.toNat + frameStart vector origin code machine

section Frame

variable {vector : UInt8} {origin : Origin} {code : UInt64} {machine : Machine}

theorem length_frameWords_le : (frameWords vector origin code machine).length ≤ 6 := by
  unfold frameWords
  split <;> simp

theorem toNat_handlerTop (hdeliverable : Deliverable origin machine) :
    main.STACK_VBASE.toNat + 0x30 ≤ (handlerTop machine).toNat ∧
      (handlerTop machine).toNat ≤ main.STACK_VBASE.toNat + 0x8000000 := by
  have hbase : main.STACK_VBASE.toNat = 0xFFFFFE8000000000 := rfl
  unfold handlerTop
  rw [BitField.toNat_and_field _ (~~~ 0xF) 4 60 rfl]
  by_cases hcpl : 0 < machine.cpl
  · have hstack : main.stack_v.toNat = 0xFFFFFE8000010000 := rfl
    rw [if_pos hcpl, hstack]
    omega
  · obtain ⟨hlow, hhigh⟩ := hdeliverable.room (by omega)
    rw [if_neg hcpl]
    omega

/-- The frame lies in the stack window, below the top of the stack. -/
theorem frame_place (hdeliverable : Deliverable origin machine) :
    frameStart vector origin code machine + 8 * (frameWords vector origin code machine).length ≤ 0x8000000 ∧
      ∃ base : UInt64, handlerTop machine =
          base + UInt64.ofNat (8 * (frameWords vector origin code machine).length) ∧
        base.toNat = main.STACK_VBASE.toNat + frameStart vector origin code machine := by
  have hbase : main.STACK_VBASE.toNat = 0xFFFFFE8000000000 := rfl
  have hlength := @length_frameWords_le vector origin code machine
  obtain ⟨hlow, hhigh⟩ := toNat_handlerTop hdeliverable
  unfold frameStart
  generalize (frameWords vector origin code machine).length = count at hlength
  have hcount : (UInt64.ofNat (8 * count)).toNat = 8 * count := by
    rw [UInt64.toNat_ofNat']
    omega
  refine ⟨by omega, handlerTop machine - UInt64.ofNat (8 * count), ?_, ?_⟩
  · exact (UInt64.sub_add_cancel _ _).symm
  · rw [BitField.toNat_sub_of_le (by omega), hcount]
    omega

end Frame

theorem Prepared.kernelMapped {mem : Nat → UInt8} (h : Prepared mem) :
    KernelMapped (gdb.translate mem main.SYSTEM_CR3) := by
  obtain ⟨hal_index, hpaging⟩ := h.paging
  intro vaddr offset hvaddr hoffset
  exact hpaging.translate_kernel hvaddr hoffset

/-- The tables lead to the handlers at ring 0, on the stack of the task state
    segment where the level changes. -/
theorem Prepared.system {mem : Nat → UInt8} (h : Prepared mem) :
    ∃ system, startTables.system (gdb.translate mem main.SYSTEM_CR3) mem = some system ∧
      system.mmu = gdb.translate mem main.SYSTEM_CR3 ∧ system.idt_base = main.K_VIRT_ANY + idt_pbase ∧
      system.segment 0x10 = some 0 ∧ system.stack 0 = main.stack_v := by
  have htask : Linear (gdb.translate mem main.SYSTEM_CR3) startTables.task.base 0x8001000 104 :=
    h.kernelMapped.linear rfl (by decide)
  have hgdt : Linear (gdb.translate mem main.SYSTEM_CR3) (startTables.gdt.base + UInt64.ofNat (2 * 8)) 0x8000010 8 :=
    h.kernelMapped.linear rfl (by decide)
  refine ⟨_, TableRegisters.system_of_linear (by decide) htask, rfl, rfl, ?_, ?_⟩
  · exact (TableRegisters.segment_of_linear (by decide) (by decide) (by decide) hgdt).trans h.code
  · have hword := take_drop_load mem 0x8001000 (show 4 + 8 ≤ 104 by decide)
    change toUInt64 (((load mem 0x8001000 104).drop 4).take 8) = main.stack_v
    rw [hword]
    exact h.stack

/-- The gate of a vector, read through the interrupt table. -/
theorem Prepared.gate {mem : Nat → UInt8} (h : Prepared mem) (vector : UInt8) :
    read (gdb.translate mem main.SYSTEM_CR3) mem (main.K_VIRT_ANY + idt_pbase + UInt64.ofNat vector.toNat * 16) 16 =
      some (idtEntry vector.toNat) := by
  have hvector := vector.toNat_lt
  have hbase : main.K_VIRT_ANY.toNat = 0xFFFFF80000000000 := rfl
  have hindex : (main.K_VIRT_ANY + idt_pbase + UInt64.ofNat vector.toNat * 16).toNat =
      0xFFFFF80008020000 + vector.toNat * 16 := BitField.toNat_add_index rfl rfl (by omega)
  have haddress : (main.K_VIRT_ANY + idt_pbase + UInt64.ofNat vector.toNat * 16).toNat =
      main.K_VIRT_ANY.toNat + gateOffset vector := by
    rw [hindex, gateOffset]
    omega
  rw [read_of_linear (h.kernelMapped.linear haddress (by unfold gateOffset; omega)), h.gates]

/-- The bytes of a frame, from its last word to its first. -/
def frameBytes (vector : UInt8) (origin : Origin) (code : UInt64) (machine : Machine) : List UInt8 :=
  (frameWords vector origin code machine).reverse.flatMap ofUInt64

theorem length_frameBytes (vector : UInt8) (origin : Origin) (code : UInt64) (machine : Machine) :
    (frameBytes vector origin code machine).length = 8 * (frameWords vector origin code machine).length := by
  simp [frameBytes, List.length_flatMap, Nat.mul_comm]

/-- The processor at the start of a handler. -/
structure AtHandler (vector : UInt8) (origin : Origin) (code : UInt64) (machine delivered : Machine) : Prop where
  rip : delivered.regs.rip.toNat = main.K_VIRT_ANY.toNat + handlerOffset vector
  rsp : delivered.regs.rsp.toNat = main.STACK_VBASE.toNat + frameStart vector origin code machine
  regs : delivered.regs = { machine.regs with
    rsp := delivered.regs.rsp, rip := delivered.regs.rip, rflags := delivered.regs.rflags }
  cs : delivered.cs = 0x10
  ss : delivered.ss = if 0 < machine.cpl then 0 else machine.ss
  mem : delivered.mem =
    store machine.mem (frameOffset vector origin code machine) (frameBytes vector origin code machine)

/-- Every interrupt that the stack has room for reaches its handler. -/
theorem Prepared.delivers {origin : Origin} {machine : Machine} (h : Prepared machine.mem)
    (hdeliverable : Deliverable origin machine) (vector : UInt8) (code : UInt64) :
    ∃ delivered, startTables.deliver (gdb.translate machine.mem main.SYSTEM_CR3) vector origin code machine =
        some delivered ∧ AtHandler vector origin code machine delivered := by
  have hvector := vector.toNat_lt
  obtain ⟨system, hsystem, hmmu, hidt, hsegment, hstack⟩ := h.system
  obtain ⟨hroom, base, htop, hbase⟩ := @frame_place vector origin code machine hdeliverable
  obtain ⟨hal_index, hpaging⟩ := h.paging
  have hgate := decode_idtEntry vector.toNat
  have hlimit : vector.toNat * 16 + 15 ≤ startTables.idt.limit := by
    change vector.toNat * 16 + 15 ≤ 0xFFF
    omega
  have hentry : read system.mmu machine.mem (system.idt_base + UInt64.ofNat vector.toNat * 16) 16 =
      some (idtEntry vector.toNat) := by
    rw [hmmu, hidt]
    exact h.gate vector
  have hadmits : (Gate.decode (idtEntry vector.toNat)).present = true ∧
      ((Gate.decode (idtEntry vector.toNat)).kind = 0xE ∨ (Gate.decode (idtEntry vector.toNat)).kind = 0xF) := by
    rw [hgate]
    exact ⟨rfl, .inl rfl⟩
  have horigin : origin = .instruction → machine.cpl ≤ (Gate.decode (idtEntry vector.toNat)).dpl := by
    intro hinstruction
    rw [hdeliverable.admitted hinstruction]
    exact Nat.zero_le _
  have hlevel : system.segment (Gate.decode (idtEntry vector.toNat)).selector = some 0 := by rw [hgate, hsegment]
  have hhandlerTop : handlerStack system (Gate.decode (idtEntry vector.toNat)) 0 machine &&& ~~~ 0xF =
      base + UInt64.ofNat (8 * (frameWords vector origin code machine).length) := by
    rw [← htop, handlerTop, hgate, handlerStack, if_neg (not_not.mpr rfl), hstack]
  have hframe : Linear system.mmu base (frameOffset vector origin code machine)
      (8 * (frameWords vector origin code machine).length) := by
    have hwindow : main.STACK_VBASE.toNat = 0xFFFFFE8000000000 := rfl
    intro index hindex
    rw [hmmu, frameOffset, Nat.add_assoc]
    apply hpaging.translate_stack _ (by omega)
    rw [UInt64.toNat_add, UInt64.toNat_ofNat']
    omega
  have hdeliver := deliver_of_linear hentry hadmits horigin hlevel (Nat.zero_le _) hhandlerTop hframe
  refine ⟨_, (TableRegisters.deliver_of_system hlimit hsystem).trans hdeliver, ?_⟩
  refine ⟨?_, hbase, rfl, ?_, rfl, rfl⟩
  · have hhandler : (stub_base_v + UInt64.ofNat vector.toNat * 64).toNat = 0xFFFFF80008010000 + vector.toNat * 64 :=
      BitField.toNat_add_index rfl rfl (by omega)
    have hkernel : main.K_VIRT_ANY.toNat = 0xFFFFF80000000000 := rfl
    change (Gate.decode (idtEntry vector.toNat)).offset.toNat = _
    rw [hgate, hhandler, handlerOffset]
    omega
  · have hselector : (Gate.decode (idtEntry vector.toNat)).selector = 0x10 := by rw [hgate]
    change UInt16.ofNat ((Gate.decode (idtEntry vector.toNat)).selector.toNat / 4 * 4 + 0) = 0x10
    rw [hselector]
    decide

/-- The guest behind a trap. -/
structure Trapped (sregs : kvm_sregs) (vector : UInt8) (origin : Origin) (code : UInt64) (machine after : Machine) :
    Prop where
  prepared : Prepared after.mem
  /-- Nothing but the frame and the save area is written. -/
  elsewhere : ∀ address, ¬ Within 0x8060000 24 address →
    ¬ Within (frameOffset vector origin code machine) (8 * (frameWords vector origin code machine).length) address →
    after.mem address = machine.mem address
  frame : load after.mem (frameOffset vector origin code machine)
    (8 * (frameWords vector origin code machine).length) = frameBytes vector origin code machine
  /-- The guest goes on at ring 0, whatever its level was. -/
  cs : after.cs = 0x10
  ss : after.ss = if 0 < machine.cpl then 0 else machine.ss
  /-- A breakpoint or a debug service goes on behind its padding. -/
  resumes : vector = 3 ∨ vector = 0x2d → ∃ rip, FirstStop after.mem machine.regs.rip rip ∧
    after.regs = { machine.regs with
      rax := if vector = 0x2d then 0 else machine.regs.rax
      rip
      rflags := machine.regs.rflags &&& ~~~ 0x100 }
  /-- Every other vector halts in its handler. -/
  halts : ¬ (vector = 3 ∨ vector = 0x2d) →
    runToEvent (gdb.translate machine.mem sregs.cr3) 1 after = some (.halt, after.advance 1)

section Trap

variable {vector : UInt8} {origin : Origin} {code : UInt64} {machine delivered exit : Machine}

private theorem frame_below (hdeliverable : Deliverable origin machine) :
    0x0A000000 ≤ frameOffset vector origin code machine ∧
      frameOffset vector origin code machine + 8 * (frameWords vector origin code machine).length ≤ 0x12000000 := by
  have hroom := (@frame_place vector origin code machine hdeliverable).1
  have hbase : main.STACK_PBASE.toNat = 0x0A000000 := rfl
  unfold frameOffset
  omega

/-- The save area is the only place that a handler writes to. -/
private theorem saved_elsewhere (mem : Nat → UInt8) (regs : kvm_regs) {address : Nat}
    (h : ¬ Within 0x8060000 24 address) : storeAll mem (saveWrites regs) address = mem address := by
  apply storeAll_untouched
  intro write hwrite
  simp only [saveWrites, List.mem_cons, List.not_mem_nil, or_false] at hwrite
  unfold Within at *
  rcases hwrite with rfl | rfl | rfl
  all_goals
    rw [length_ofUInt64]
    omega

private theorem AtHandler.handler (hat : AtHandler vector origin code machine delivered)
    (hprepared : Prepared machine.mem) (hdeliverable : Deliverable origin machine) :
    load delivered.mem (handlerOffset vector) 41 = stub vector.toNat := by
  have hvector := vector.toNat_lt
  have hplace := (@frame_below vector origin code machine hdeliverable).1
  rw [hat.mem, load_store_of_disjoint _ _ (disjoint_of_le (.inl ?_)), hprepared.handlers]
  unfold handlerOffset
  omega

/-- What the memory holds when the handler's code leaves the guest. -/
private theorem AtHandler.memory (hat : AtHandler vector origin code machine delivered)
    (hprepared : Prepared machine.mem) (hdeliverable : Deliverable origin machine)
    (hmem : exit.mem = storeAll delivered.mem (saveWrites delivered.regs)) :
    Prepared exit.mem ∧
      (∀ address, ¬ Within 0x8060000 24 address →
        ¬ Within (frameOffset vector origin code machine) (8 * (frameWords vector origin code machine).length) address →
        exit.mem address = machine.mem address) ∧
      load exit.mem (frameOffset vector origin code machine) (8 * (frameWords vector origin code machine).length) =
        frameBytes vector origin code machine := by
  obtain ⟨hlow, hhigh⟩ := @frame_below vector origin code machine hdeliverable
  have hlength := length_frameBytes vector origin code machine
  have helsewhere : ∀ address, ¬ Within 0x8060000 24 address →
      ¬ Within (frameOffset vector origin code machine) (8 * (frameWords vector origin code machine).length) address →
      exit.mem address = machine.mem address := by
    intro address hsaved hframe
    rw [hmem, saved_elsewhere _ _ hsaved, hat.mem, store_outside]
    rwa [hlength]
  refine ⟨hprepared.congr ?_, helsewhere, ?_⟩
  · intro address haddress
    unfold InTables at haddress
    apply helsewhere address haddress.2.2
    unfold Within
    omega
  · rw [← hlength, ← load_store_same machine.mem (frameOffset vector origin code machine)
      (frameBytes vector origin code machine), ← hat.mem, hmem]
    rw [length_load]
    apply load_congr
    intro address haddress
    apply saved_elsewhere
    unfold Within at *
    omega

/-- The monitor finds the frame where the processor put it. -/
private theorem AtHandler.translated (hat : AtHandler vector origin code machine delivered)
    (hdeliverable : Deliverable origin machine) :
    ∃ paddr, virt_to_phys delivered.regs.rsp = some paddr ∧
      paddr.toNat = frameOffset vector origin code machine := by
  have hroom := (@frame_place vector origin code machine hdeliverable).1
  have hcount : 5 ≤ (frameWords vector origin code machine).length := by
    unfold frameWords
    rw [List.length_append]
    exact Nat.le_add_right 5 _
  exact virt_to_phys_stack hat.rsp (by omega)

/-- The monitor's answer to a breakpoint or a debug service. -/
private theorem AtHandler.answer_resumes (profile : Profile) (hvector : vector = 3 ∨ vector = 0x2d)
    (hat : AtHandler vector origin code machine delivered) (hdeliverable : Deliverable origin machine)
    (hmem : exit.mem = storeAll delivered.mem (saveWrites delivered.regs))
    (hregs : exit.regs = { delivered.regs with rax := exit.regs.rax, rip := exit.regs.rip }) :
    ∃ rip, FirstStop exit.mem machine.regs.rip rip ∧
      answer profile vector exit = some { exit with
        regs := { machine.regs with
          rax := if vector = 0x2d then 0 else machine.regs.rax
          rip
          rflags := machine.regs.rflags &&& ~~~ 0x100 } } := by
  have hsize := MEM_SIZE_toNat
  obtain ⟨hlow, hhigh⟩ := @frame_below vector origin code machine hdeliverable
  obtain ⟨paddr, htranslated, hpaddr⟩ := hat.translated hdeliverable
  obtain ⟨hrax, hrcx, hrdx⟩ := word_saved delivered.mem delivered.regs
  rw [← hmem, hat.regs] at hrax hrcx hrdx
  have hwords : frameWords vector origin code machine =
      [machine.ss.toUInt64, machine.regs.rsp, machine.regs.rflags, machine.cs.toUInt64, machine.regs.rip] := by
    unfold frameWords
    rw [if_neg, List.append_nil]
    rintro ⟨_, herror⟩
    rcases hvector with rfl | rfl
    · exact absurd herror (by decide)
    · exact absurd herror (by decide)
  have hlength : (frameWords vector origin code machine).length = 5 := by rw [hwords]; rfl
  have hpushed := hat.mem
  unfold frameBytes at hpushed
  rw [hwords, ← hpaddr] at hpushed
  obtain ⟨hpushedRip, hrflags, hrsp⟩ :=
    word_frame hpushed delivered.regs (disjoint_of_le (.inr (by rw [hpaddr]; omega)))
  rw [← hmem] at hpushedRip hrflags hrsp
  have hexitRsp : exit.regs.rsp = delivered.regs.rsp := by rw [hregs]
  obtain ⟨rip, hfirst, hrun⟩ := @handle_diagnostic_trap_resumes profile vector hvector
    ⟨⟨exit.mem⟩, exit.regs, fun _ => none⟩ rfl rfl paddr (hexitRsp ▸ htranslated) (by rw [hpaddr]; omega)
  rw [hpushedRip] at hfirst
  refine ⟨rip, hfirst, ?_⟩
  unfold answer
  rw [hrun, hrax, hrcx, hrdx, hrsp, hrflags, hregs, hat.regs]

/-- The monitor's answer to every other vector. -/
private theorem AtHandler.answer_dumps (profile : Profile) (hvector : ¬ (vector = 3 ∨ vector = 0x2d))
    (hat : AtHandler vector origin code machine delivered) (hdeliverable : Deliverable origin machine)
    (hregs : exit.regs = { delivered.regs with rax := exit.regs.rax, rip := exit.regs.rip }) :
    answer profile vector exit = some exit := by
  have hsize := MEM_SIZE_toNat
  obtain ⟨hlow, hhigh⟩ := @frame_below vector origin code machine hdeliverable
  obtain ⟨paddr, htranslated, hpaddr⟩ := hat.translated hdeliverable
  have hcount : 5 ≤ (frameWords vector origin code machine).length := by
    unfold frameWords
    rw [List.length_append]
    exact Nat.le_add_right 5 _
  have hexitRsp : exit.regs.rsp = delivered.regs.rsp := by rw [hregs]
  have hrun := @handle_diagnostic_trap_dumps profile vector hvector
    ⟨⟨exit.mem⟩, exit.regs, fun _ => none⟩ rfl rfl paddr (hexitRsp ▸ htranslated) (by rw [hpaddr]; omega)
  unfold answer
  rw [hrun]

/-- Whatever interrupts the guest, the processor, the handler's code and the
    monitor deal with it together. -/
theorem trap_exact (profile : Profile) {sregs : kvm_sregs} (htables : sregs.tables = startTables)
    (hcr3 : sregs.cr3 = main.SYSTEM_CR3) (hprepared : Prepared machine.mem)
    (hdeliverable : Deliverable origin machine) (vector : UInt8) (code : UInt64) :
    ∃ after, trap profile sregs vector origin code machine = some after ∧
      Trapped sregs vector origin code machine after := by
  obtain ⟨delivered, hdeliver, hat⟩ := hprepared.delivers hdeliverable vector code
  obtain ⟨exit, hout, hhalt, hmem, hregs⟩ :=
    stub_runs hprepared.kernelMapped (hat.handler hprepared hdeliverable) hat.rip
  obtain ⟨hcs, hss⟩ := runToEvent_segments hout
  obtain ⟨hafter, helsewhere, hframe⟩ := hat.memory hprepared hdeliverable hmem
  have htrap : trap profile sregs vector origin code machine = answer profile vector exit := by
    unfold trap
    simp only [htables, hcr3, hdeliver, hout, Option.bind_eq_bind, Option.bind_some]
  by_cases hvector : vector = 3 ∨ vector = 0x2d
  · obtain ⟨rip, hfirst, hanswer⟩ := hat.answer_resumes profile hvector hdeliverable hmem hregs
    refine ⟨_, htrap.trans hanswer, hafter, helsewhere, hframe, hcs.trans hat.cs, hss.trans hat.ss, ?_, ?_⟩
    · exact fun _ => ⟨rip, hfirst, rfl⟩
    · exact fun hnot => absurd hvector hnot
  · have hanswer := hat.answer_dumps profile hvector hdeliverable hregs
    refine ⟨exit, htrap.trans hanswer, hafter, helsewhere, hframe, hcs.trans hat.cs, hss.trans hat.ss, ?_, ?_⟩
    · exact fun hresumes => absurd hresumes hvector
    · intro _
      rwa [hcr3]

end Trap

end vwfl.cpu
