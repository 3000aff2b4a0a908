import Vwfl.Gdb.Readback
import Vwfl.Transition.Refine
import Vwfl.X86.Machine

open Rust ByteStore Paging Transition
open vwfl.vm

namespace vwfl.gdb

inductive GdbResumeAction where
  | Continue
  | Step
  deriving Repr, DecidableEq

/-- The calls of the vCPU that the stub makes. -/
inductive Ioctl where
  | get_regs
  | get_sregs
  | set_regs
  | set_guest_debug
  deriving Repr, DecidableEq

structure X86SegmentRegs where
  cs : UInt32
  ss : UInt32
  ds : UInt32
  es : UInt32
  fs : UInt32
  gs : UInt32
  deriving Repr, DecidableEq

/-- The register block of the protocol, without the vector and floating-point
    registers, which the stub never touches. -/
structure X86_64CoreRegs where
  regs : Vector UInt64 16
  rip : UInt64
  eflags : UInt32
  segments : X86SegmentRegs
  deriving Repr, DecidableEq

structure Selectors where
  cs : UInt16
  ss : UInt16
  ds : UInt16
  es : UInt16
  fs : UInt16
  gs : UInt16
  deriving Repr, DecidableEq

/-- The stopped machine under the stub, with the stub's own state. `control` is
    the word that `set_guest_debug` was last called with. -/
structure Stopped where
  vm : Vm
  regs : X86.Registers
  cr3 : UInt64
  selectors : Selectors
  resume_action : Option GdbResumeAction
  control : Option UInt32

abbrev StoppedM (α : Type) := Stateful Stopped α

namespace Stopped

/-- `TargetError::NonFatal`, which the stub makes of every failed call. -/
def nonFatal : Fault := .err "NonFatal"

def call (refuses : Ioctl → Bool) (ioctl : Ioctl) (fault : Fault) : StoppedM Unit :=
  if refuses ioctl then throw fault else return ()

/-- The target of the memory requests, whose translation asks for the special
    registers. -/
def target (self : Stopped) (refuses : Ioctl → Bool) : VwflTarget where
  vm := self.vm
  sregs := if refuses .get_sregs then none else some ⟨self.cr3⟩

/-- The block that `read_registers` fills in. -/
def reported (kvm_regs : X86.Registers) (sregs : Selectors) : X86_64CoreRegs where
  regs := #v[kvm_regs.rax, kvm_regs.rbx, kvm_regs.rcx, kvm_regs.rdx, kvm_regs.rsi, kvm_regs.rdi, kvm_regs.rbp,
    kvm_regs.rsp, kvm_regs.r8, kvm_regs.r9, kvm_regs.r10, kvm_regs.r11, kvm_regs.r12, kvm_regs.r13, kvm_regs.r14,
    kvm_regs.r15]
  rip := kvm_regs.rip
  eflags := kvm_regs.rflags.toUInt32
  segments := {
    cs := sregs.cs.toUInt32
    ss := sregs.ss.toUInt32
    ds := sregs.ds.toUInt32
    es := sregs.es.toUInt32
    fs := sregs.fs.toUInt32
    gs := sregs.gs.toUInt32 }

def read_registers (refuses : Ioctl → Bool) : StoppedM X86_64CoreRegs := do
  call refuses .get_regs nonFatal
  let kvm_regs := (← get).regs
  call refuses .get_sregs nonFatal
  let sregs := (← get).selectors
  return reported kvm_regs sregs

/-- The registers that `write_registers` makes of a block. It assigns every
    field that it has read before, and drops the segments. -/
def replaced (regs : X86_64CoreRegs) : X86.Registers where
  rax := regs.regs[0]
  rbx := regs.regs[1]
  rcx := regs.regs[2]
  rdx := regs.regs[3]
  rsi := regs.regs[4]
  rdi := regs.regs[5]
  rbp := regs.regs[6]
  rsp := regs.regs[7]
  r8 := regs.regs[8]
  r9 := regs.regs[9]
  r10 := regs.regs[10]
  r11 := regs.regs[11]
  r12 := regs.regs[12]
  r13 := regs.regs[13]
  r14 := regs.regs[14]
  r15 := regs.regs[15]
  rip := regs.rip
  rflags := regs.eflags.toUInt64

def write_registers (refuses : Ioctl → Bool) (regs : X86_64CoreRegs) : StoppedM Unit := do
  call refuses .get_regs nonFatal
  call refuses .set_regs nonFatal
  modify fun self => { self with regs := replaced regs }

def read_addrs (profile : Profile) (refuses : Ioctl → Bool) (start_addr : UInt64) (data : List UInt8) :
    StoppedM (Nat × List UInt8) := do
  VwflTarget.read_addrs profile ((← get).target refuses) start_addr data

def write_addrs (profile : Profile) (refuses : Ioctl → Bool) (start_addr : UInt64) (data : List UInt8) :
    StoppedM Unit := fun self =>
  match (VwflTarget.write_addrs profile start_addr data).run (self.target refuses) with
  | .ok _ target => .ok () { self with vm := target.vm }
  | .error (.err _) target => .error nonFatal { self with vm := target.vm }
  | .error fault target => .error fault { self with vm := target.vm }

def clear_resume_actions : StoppedM Unit := modify fun self => { self with resume_action := none }

def set_resume_action_continue : StoppedM Unit := modify fun self => { self with resume_action := some .Continue }

def set_resume_action_step : StoppedM Unit := modify fun self => { self with resume_action := some .Step }

def KVM_GUESTDBG_ENABLE : UInt32 := 0x1

def KVM_GUESTDBG_SINGLESTEP : UInt32 := 0x2

def KVM_GUESTDBG_USE_SW_BP : UInt32 := 0x10000

def resume (refuses : Ioctl → Bool) : StoppedM Unit := do
  let control := KVM_GUESTDBG_ENABLE ||| KVM_GUESTDBG_USE_SW_BP
  let control :=
    match (← get).resume_action with
    | some .Step => control ||| KVM_GUESTDBG_SINGLESTEP
    | _ => control
  call refuses .set_guest_debug (.err "KVM Debug Error")
  modify fun self => { self with control := some control }

/-- Breakpoints are the debugger's own bytes in memory; the stub keeps none. -/
def add_sw_breakpoint (_addr : UInt64) (_kind : Nat) : StoppedM Bool := return true

def remove_sw_breakpoint (_addr : UInt64) (_kind : Nat) : StoppedM Bool := return true

end Stopped

/-- What the protocol asks the stub for while the guest is stopped. -/
inductive Command where
  | read_registers
  | write_registers (regs : X86_64CoreRegs)
  | read_addrs (start_addr : UInt64) (data : U8Slice)
  | write_addrs (start_addr : UInt64) (data : U8Slice)
  | clear_resume_actions
  | set_resume_action_continue
  | set_resume_action_step
  | resume
  | add_sw_breakpoint (addr : UInt64) (kind : Nat)
  | remove_sw_breakpoint (addr : UInt64) (kind : Nat)

/-- One request, with the calls of the vCPU that fail while it is served. -/
structure Request where
  command : Command
  refuses : Ioctl → Bool

inductive Reply where
  | registers (regs : X86_64CoreRegs)
  | bytes (count : Nat) (data : List UInt8)
  | found (known : Bool)
  | done
  | refused
  deriving Repr, DecidableEq

/-- A non-fatal error is an answer to the debugger. -/
def Stopped.answer (reply : StoppedM Reply) : StoppedM Reply := fun self =>
  match reply self with
  | .error (.err _) after => .ok .refused after
  | outcome => outcome

/-- Errors of the resume commands are fatal and end the session. -/
def Stopped.serve (profile : Profile) (request : Request) : StoppedM Reply :=
  match request.command with
  | .read_registers => answer do return .registers (← read_registers request.refuses)
  | .write_registers regs => answer do
    write_registers request.refuses regs
    return .done
  | .read_addrs start_addr data => answer do
    let read ← read_addrs profile request.refuses start_addr data.bytes
    return .bytes read.1 read.2
  | .write_addrs start_addr data => answer do
    write_addrs profile request.refuses start_addr data.bytes
    return .done
  | .clear_resume_actions => do
    clear_resume_actions
    return .done
  | .set_resume_action_continue => do
    set_resume_action_continue
    return .done
  | .set_resume_action_step => do
    set_resume_action_step
    return .done
  | .resume => do
    resume request.refuses
    return .done
  | .add_sw_breakpoint addr kind => answer do return .found (← add_sw_breakpoint addr kind)
  | .remove_sw_breakpoint addr kind => answer do return .found (← remove_sw_breakpoint addr kind)

/-- What a debugger takes the stopped machine for: a block of registers, a flat
    memory, whether the next resume is a single step, and how the guest was
    last resumed. -/
structure Debuggee where
  registers : X86_64CoreRegs
  mem : Nat → UInt8
  step : Bool
  stepping : Option Bool

/-- The answers of such a machine, its addresses having fixed places in the
    flat memory. -/
def Debuggee.serve (place : (Ioctl → Bool) → UInt64 → Nat) (request : Request) : Stateful Debuggee Reply :=
  fun self =>
    let refused := request.refuses
    match request.command with
    | .read_registers =>
      if refused .get_regs ∨ refused .get_sregs then .ok .refused self else .ok (.registers self.registers) self
    | .write_registers regs =>
      if refused .get_regs ∨ refused .set_regs then .ok .refused self
      else .ok .done { self with registers := { regs with segments := self.registers.segments } }
    | .read_addrs start_addr data =>
      if place refused start_addr + data.length ≤ MEM_SIZE.toNat then
        .ok (.bytes data.length (load self.mem (place refused start_addr) data.length)) self
      else .ok (.bytes 0 data.bytes) self
    | .write_addrs start_addr data =>
      if place refused start_addr + data.length ≤ MEM_SIZE.toNat then
        .ok .done { self with mem := store self.mem (place refused start_addr) data.bytes }
      else .ok .refused self
    | .clear_resume_actions => .ok .done { self with step := false }
    | .set_resume_action_continue => .ok .done { self with step := false }
    | .set_resume_action_step => .ok .done { self with step := true }
    | .resume =>
      if refused .set_guest_debug then .error (.err "KVM Debug Error") self
      else .ok .done { self with stepping := some self.step }
    | .add_sw_breakpoint _ _ => .ok (.found true) self
    | .remove_sw_breakpoint _ _ => .ok (.found true) self

namespace Stopped

/-- Where an address lies in guest memory. An address without a mapping is its
    own place, and so is every address when the special registers cannot be
    read. -/
def place (self : Stopped) (refuses : Ioctl → Bool) (vaddr : UInt64) : Nat :=
  ((self.target refuses).translation vaddr).getD vaddr.toNat

def debuggee (self : Stopped) : Debuggee where
  registers := reported self.regs self.selectors
  mem := self.vm.mem
  step := self.resume_action = some .Step
  stepping := self.control.map fun control => control &&& KVM_GUESTDBG_SINGLESTEP ≠ 0

/-- Bytes of the table entries that the translations of some addresses read. -/
def TableByte (self : Stopped) (addresses : List UInt64) (byte : Nat) : Prop :=
  ∃ vaddr ∈ addresses, ∃ refuses, (self.target refuses).EntryByte vaddr byte

/-- The machine shows the debugger one of its own, and the tables it was
    stopped with still translate the addresses. -/
structure Shows (start : Stopped) (addresses : List UInt64) (current : Stopped) (debuggee : Debuggee) : Prop where
  shown : debuggee = current.debuggee
  cr3 : current.cr3 = start.cr3
  tables : ∀ byte, start.TableByte addresses byte → current.vm.mem byte = start.vm.mem byte

variable {start current : Stopped} {addresses : List UInt64} {debuggee : Debuggee}

theorem Shows.place_eq (hshows : Shows start addresses current debuggee) {vaddr : UInt64} (hmem : vaddr ∈ addresses)
    (refuses : Ioctl → Bool) : current.place refuses vaddr = start.place refuses vaddr := by
  have hsregs : (current.target refuses).sregs = (start.target refuses).sregs := by
    unfold target
    rw [hshows.cr3]
  unfold place
  rw [VwflTarget.translation_congr hsregs]
  intro byte hentry
  exact hshows.tables byte ⟨vaddr, hmem, refuses, hentry⟩

theorem virt_to_phys_target (profile : Profile) (self : Stopped) (refuses : Ioctl → Bool) (vaddr : UInt64) :
    ∃ paddr, (self.target refuses).virt_to_phys profile vaddr = .ok paddr ∧
      paddr.toNat = self.place refuses vaddr := by
  refine ⟨_, VwflTarget.virt_to_phys_eq profile _ vaddr, ?_⟩
  have hword := vaddr.toNat_lt
  unfold place
  cases htranslation : (self.target refuses).translation vaddr with
  | none =>
    rw [Option.getD_none, UInt64.toNat_ofNat', Nat.mod_eq_of_lt hword]
  | some paddr =>
    have hlt := VwflTarget.translation_lt htranslation
    rw [Option.getD_some, UInt64.toNat_ofNat', Nat.mod_eq_of_lt (by omega)]

theorem place_add_lt (self : Stopped) (refuses : Ioctl → Bool) {vaddr : UInt64} {data : U8Slice}
    (hword : vaddr.toNat + data.length < 2 ^ 64) : self.place refuses vaddr + data.length < 2 ^ 64 := by
  have hlength := data.length_lt
  unfold U8Slice.length at hword ⊢
  unfold place
  cases htranslation : (self.target refuses).translation vaddr with
  | none => exact hword
  | some paddr =>
    have hlt := VwflTarget.translation_lt htranslation
    rw [Option.getD_some]
    omega

theorem reported_replaced (regs : X86_64CoreRegs) (kvm_regs : X86.Registers) (sregs : Selectors) :
    reported (replaced regs) sregs = { regs with segments := (reported kvm_regs sregs).segments } := by
  have hregs : #v[regs.regs[0], regs.regs[1], regs.regs[2], regs.regs[3], regs.regs[4], regs.regs[5], regs.regs[6],
      regs.regs[7], regs.regs[8], regs.regs[9], regs.regs[10], regs.regs[11], regs.regs[12], regs.regs[13],
      regs.regs[14], regs.regs[15]] = regs.regs := by
    apply Vector.ext
    intro i hi
    interval_cases i <;> rfl
  unfold reported replaced
  simp only [hregs, UInt32.toUInt32_toUInt64]

theorem read_addrs_run (profile : Profile) (self : Stopped) (refuses : Ioctl → Bool) (start_addr : UInt64)
    (data : U8Slice) (hword : start_addr.toNat + data.length < 2 ^ 64) :
    (self.target refuses).read_addrs profile start_addr data.bytes =
      .ok (if self.place refuses start_addr + data.length ≤ MEM_SIZE.toNat then
        (data.length, load self.vm.mem (self.place refuses start_addr) data.length)
      else (0, data.bytes)) := by
  obtain ⟨paddr, hpaddr, hplace⟩ := virt_to_phys_target profile self refuses start_addr
  have hsum := place_add_lt self refuses hword
  rw [← hplace] at hsum ⊢
  by_cases hbound : paddr.toNat + data.bytes.length ≤ MEM_SIZE.toNat
  · rw [if_pos (show paddr.toNat + data.length ≤ MEM_SIZE.toNat from hbound)]
    exact read_addrs_of_le hpaddr hbound
  · rw [if_neg (show ¬ paddr.toNat + data.length ≤ MEM_SIZE.toNat from hbound)]
    unfold VwflTarget.read_addrs
    rw [hpaddr, ok_bind, Vm.read_memory_of_gt profile _ (Nat.lt_of_not_le hbound) hsum]
    rfl

theorem write_addrs_run (profile : Profile) (self : Stopped) (refuses : Ioctl → Bool) (start_addr : UInt64)
    (data : U8Slice) (hword : start_addr.toNat + data.length < 2 ^ 64) :
    (write_addrs profile refuses start_addr data.bytes).run self =
      if self.place refuses start_addr + data.length ≤ MEM_SIZE.toNat then
        .ok () { self with vm := ⟨store self.vm.mem (self.place refuses start_addr) data.bytes⟩ }
      else .error nonFatal self := by
  obtain ⟨paddr, hpaddr, hplace⟩ := virt_to_phys_target profile self refuses start_addr
  have hsum := place_add_lt self refuses hword
  rw [← hplace] at hsum ⊢
  change write_addrs profile refuses start_addr data.bytes self = _
  unfold write_addrs
  by_cases hbound : paddr.toNat + data.bytes.length ≤ MEM_SIZE.toNat
  · rw [if_pos (show paddr.toNat + data.length ≤ MEM_SIZE.toNat from hbound), write_addrs_of_le hpaddr hbound]
    rfl
  · have hrefused : (VwflTarget.write_addrs profile start_addr data.bytes).run (self.target refuses) =
        .error (.err "Memory write out of bounds") (self.target refuses) := by
      change VwflTarget.write_addrs profile start_addr data.bytes (self.target refuses) = _
      unfold VwflTarget.write_addrs
      simp only [hpaddr, Vm.write_memory_of_gt profile _ (Nat.lt_of_not_le hbound) hsum]
    rw [if_neg (show ¬ paddr.toNat + data.length ≤ MEM_SIZE.toNat from hbound), hrefused]
    rfl

theorem read_registers_run (refuses : Ioctl → Bool) (self : Stopped) :
    (read_registers refuses).run self =
      if refuses .get_regs ∨ refuses .get_sregs then .error nonFatal self
      else .ok (reported self.regs self.selectors) self := by
  unfold read_registers call
  cases refuses .get_regs <;> cases refuses .get_sregs <;> rfl

theorem write_registers_run (refuses : Ioctl → Bool) (regs : X86_64CoreRegs) (self : Stopped) :
    (write_registers refuses regs).run self =
      if refuses .get_regs ∨ refuses .set_regs then .error nonFatal self
      else .ok () { self with regs := replaced regs } := by
  unfold write_registers call
  cases refuses .get_regs <;> cases refuses .set_regs <;> rfl

theorem resume_run (refuses : Ioctl → Bool) (self : Stopped) :
    (resume refuses).run self =
      if refuses .set_guest_debug then .error (.err "KVM Debug Error") self
      else .ok () { self with
        control := some (if self.resume_action = some .Step then
          KVM_GUESTDBG_ENABLE ||| KVM_GUESTDBG_USE_SW_BP ||| KVM_GUESTDBG_SINGLESTEP
        else KVM_GUESTDBG_ENABLE ||| KVM_GUESTDBG_USE_SW_BP) } := by
  unfold resume call
  cases refuses .set_guest_debug
  · rcases self with ⟨_, _, _, _, _ | _ | _, _⟩ <;> rfl
  · rfl

/-- A call that returns, or fails in a way that the debugger is told. -/
theorem answer_run_ok {α : Type} {program : StoppedM α} {reply : α → Reply} {value : α} {self after : Stopped}
    (h : program.run self = .ok value after) :
    (answer do return reply (← program)).run self = .ok (reply value) after := by
  have hrun : (do return reply (← program) : StoppedM Reply).run self = .ok (reply value) after := by
    rw [Stateful.bind_run, h]
    rfl
  change (do return reply (← program) : StoppedM Reply) self = _ at hrun
  change answer _ self = _
  rw [answer, hrun]

theorem answer_run_nonFatal {α : Type} {program : StoppedM α} {reply : α → Reply} {self after : Stopped}
    (h : program.run self = .error nonFatal after) :
    (answer do return reply (← program)).run self = .ok .refused after := by
  have hrun : (do return reply (← program) : StoppedM Reply).run self = .error nonFatal after := by
    rw [Stateful.bind_run, h]
  change (do return reply (← program) : StoppedM Reply) self = _ at hrun
  change answer _ self = _
  rw [answer, hrun]
  rfl

private theorem serve_read_registers (profile : Profile) (refuses : Ioctl → Bool) :
    Refines (Shows start addresses) (serve profile ⟨.read_registers, refuses⟩)
      (Debuggee.serve start.place ⟨.read_registers, refuses⟩) := by
  rintro self _ ⟨rfl, hcr3, htables⟩
  have hrun := read_registers_run refuses self
  change Alike _ (EStateM.run (answer do return .registers (← read_registers refuses)) self)
    (if _ then _ else _)
  split_ifs at hrun ⊢ with hrefused
  · rw [answer_run_nonFatal hrun]
    exact .ok ⟨rfl, hcr3, htables⟩
  · rw [answer_run_ok hrun]
    exact .ok ⟨rfl, hcr3, htables⟩

private theorem serve_write_registers (profile : Profile) (refuses : Ioctl → Bool) (regs : X86_64CoreRegs) :
    Refines (Shows start addresses) (serve profile ⟨.write_registers regs, refuses⟩)
      (Debuggee.serve start.place ⟨.write_registers regs, refuses⟩) := by
  rintro self _ ⟨rfl, hcr3, htables⟩
  have hrun := write_registers_run refuses regs self
  change Alike _ (EStateM.run (answer do write_registers refuses regs; return .done) self) (if _ then _ else _)
  split_ifs at hrun ⊢ with hrefused
  · rw [answer_run_nonFatal hrun]
    exact .ok ⟨rfl, hcr3, htables⟩
  · rw [answer_run_ok hrun]
    refine .ok ⟨?_, hcr3, htables⟩
    unfold debuggee
    dsimp only
    rw [reported_replaced regs self.regs]

private theorem serve_read_addrs (profile : Profile) (refuses : Ioctl → Bool) {start_addr : UInt64} {data : U8Slice}
    (hmem : start_addr ∈ addresses) (hword : start_addr.toNat + data.length < 2 ^ 64) :
    Refines (Shows start addresses) (serve profile ⟨.read_addrs start_addr data, refuses⟩)
      (Debuggee.serve start.place ⟨.read_addrs start_addr data, refuses⟩) := by
  intro self debuggee hshows
  have hread := read_addrs_run profile self refuses start_addr data hword
  rw [hshows.place_eq hmem refuses] at hread
  obtain ⟨rfl, hcr3, htables⟩ := hshows
  have hrun : (read_addrs profile refuses start_addr data.bytes).run self =
      .ok (if start.place refuses start_addr + data.length ≤ MEM_SIZE.toNat then
        (data.length, load self.vm.mem (start.place refuses start_addr) data.length)
      else (0, data.bytes)) self := by
    have hget : (get : StoppedM Stopped).run self = .ok self self := rfl
    unfold read_addrs
    rw [Stateful.bind_run, hget]
    dsimp only
    rw [hread, Stateful.lift_ok_run]
  change Alike _ (EStateM.run (answer do
    let read ← read_addrs profile refuses start_addr data.bytes
    return .bytes read.1 read.2) self) (if _ then _ else _)
  rw [answer_run_ok hrun]
  split_ifs
  · exact .ok ⟨rfl, hcr3, htables⟩
  · exact .ok ⟨rfl, hcr3, htables⟩

private theorem serve_write_addrs (profile : Profile) (refuses : Ioctl → Bool) {start_addr : UInt64} {data : U8Slice}
    (hmem : start_addr ∈ addresses) (hword : start_addr.toNat + data.length < 2 ^ 64)
    (hmisses : ∀ byte, start.TableByte addresses byte →
      ¬ Within (start.place refuses start_addr) data.length byte) :
    Refines (Shows start addresses) (serve profile ⟨.write_addrs start_addr data, refuses⟩)
      (Debuggee.serve start.place ⟨.write_addrs start_addr data, refuses⟩) := by
  intro self debuggee hshows
  have hrun := write_addrs_run profile self refuses start_addr data hword
  rw [hshows.place_eq hmem refuses] at hrun
  obtain ⟨rfl, hcr3, htables⟩ := hshows
  change Alike _ (EStateM.run (answer do write_addrs profile refuses start_addr data.bytes; return .done) self)
    (if _ then _ else _)
  split_ifs at hrun ⊢ with hbound
  · rw [answer_run_ok hrun]
    refine .ok ⟨rfl, hcr3, ?_⟩
    intro byte htable
    dsimp only
    rw [store_outside _ _ _ (hmisses byte htable), htables byte htable]
  · rw [answer_run_nonFatal hrun]
    exact .ok ⟨rfl, hcr3, htables⟩

private theorem serve_resume (profile : Profile) (refuses : Ioctl → Bool) :
    Refines (Shows start addresses) (serve profile ⟨.resume, refuses⟩)
      (Debuggee.serve start.place ⟨.resume, refuses⟩) := by
  rintro self _ ⟨rfl, hcr3, htables⟩
  have hrun := resume_run refuses self
  change Alike _ (EStateM.run (do resume refuses; return .done : StoppedM Reply) self) (if _ then _ else _)
  rw [Stateful.bind_run]
  split_ifs at hrun ⊢ with hrefused hstep
  · rw [hrun]
    exact .error ⟨rfl, hcr3, htables⟩
  · rw [hrun]
    refine .ok ⟨?_, hcr3, htables⟩
    unfold debuggee
    dsimp only
    rw [hstep]
    rfl
  · rw [hrun]
    refine .ok ⟨?_, hcr3, htables⟩
    unfold debuggee
    simp only [hstep, decide_false, Option.map_some]
    rfl

end Stopped

/-- Addresses that a request asks to translate. -/
def Command.addresses : Command → List UInt64
  | .read_addrs start_addr _ => [start_addr]
  | .write_addrs start_addr _ => [start_addr]
  | _ => []

/-- The bytes of a memory request do not run over the end of the address space. -/
def Command.Fits : Command → Prop
  | .read_addrs start_addr data => start_addr.toNat + data.length < 2 ^ 64
  | .write_addrs start_addr data => start_addr.toNat + data.length < 2 ^ 64
  | _ => True

/-- A write that leaves the tables alone which translate some addresses. -/
def Request.LeavesTables (start : Stopped) (addresses : List UInt64) (request : Request) : Prop :=
  match request.command with
  | .write_addrs start_addr data => ∀ byte, start.TableByte addresses byte →
      ¬ Within (start.place request.refuses start_addr) data.length byte
  | _ => True

/-- As long as no write hits the tables of an address that the session uses, a
    stopped machine is to the debugger a block of registers and a flat memory,
    whatever calls of the vCPU fail. Each answer is that machine's answer. -/
theorem session_refines (profile : Profile) (start : Stopped) (requests : List Request)
    (hfits : ∀ request ∈ requests, request.command.Fits)
    (htables : ∀ request ∈ requests,
      request.LeavesTables start (requests.flatMap fun request => request.command.addresses)) :
    Alike (Stopped.Shows start (requests.flatMap fun request => request.command.addresses))
      ((requests.mapM (Stopped.serve profile)).run start)
      ((requests.mapM (Debuggee.serve start.place)).run start.debuggee) := by
  have hserve : Refines (Stopped.Shows start (requests.flatMap fun request => request.command.addresses))
      (requests.mapM (Stopped.serve profile)) (requests.mapM (Debuggee.serve start.place)) := by
    apply Refines.mapM
    intro request hmem
    have hfit := hfits request hmem
    have hleaves := htables request hmem
    have haddresses : ∀ vaddr ∈ request.command.addresses,
        vaddr ∈ requests.flatMap fun request => request.command.addresses :=
      fun vaddr hvaddr => List.mem_flatMap.mpr ⟨request, hmem, hvaddr⟩
    obtain ⟨command, refuses⟩ := request
    cases command with
    | read_registers => exact Stopped.serve_read_registers profile refuses
    | write_registers regs => exact Stopped.serve_write_registers profile refuses regs
    | read_addrs start_addr data =>
      exact Stopped.serve_read_addrs profile refuses (haddresses _ (List.mem_singleton.mpr rfl)) hfit
    | write_addrs start_addr data =>
      exact Stopped.serve_write_addrs profile refuses (haddresses _ (List.mem_singleton.mpr rfl)) hfit hleaves
    | resume => exact Stopped.serve_resume profile refuses
    | clear_resume_actions | set_resume_action_continue | set_resume_action_step | add_sw_breakpoint addr kind
    | remove_sw_breakpoint addr kind =>
      rintro self _ ⟨rfl, hcr3, htables⟩
      exact .ok ⟨rfl, hcr3, htables⟩
  exact hserve _ _ ⟨rfl, rfl, fun _ _ => rfl⟩

/-- A machine stopped with the tables of `swappedPages`. -/
def stoppedPages : Stopped where
  vm := swappedPages.vm
  regs := ⟨0, 0, 0, 0, 0, 0, 0, 0, 0, 0, 0, 0, 0, 0, 0, 0, 0xFFFF800000001000, 0x246⟩
  cr3 := 0x1000
  selectors := ⟨0x10, 0x18, 0x28, 0x28, 0x50, 0x28⟩
  resume_action := none
  control := none

/-- Bytes are written through a large page and read back, and the guest is
    stepped. -/
def shortSession : List Request :=
  [⟨.write_addrs 0x5000 ⟨[1, 2, 3], by decide⟩, fun _ => false⟩, ⟨.read_registers, fun ioctl => ioctl = .get_sregs⟩,
    ⟨.read_addrs 0x5000 ⟨[0, 0, 0], by decide⟩, fun _ => false⟩, ⟨.set_resume_action_step, fun _ => false⟩,
    ⟨.resume, fun _ => false⟩]

theorem session_refines_short :
    Alike (Stopped.Shows stoppedPages [0x5000, 0x5000]) ((shortSession.mapM (Stopped.serve .release)).run stoppedPages)
      ((shortSession.mapM (Debuggee.serve stoppedPages.place)).run stoppedPages.debuggee) := by
  have hplace : stoppedPages.place (fun _ => false) 0x5000 = 0x405000 := by decide +kernel
  have hleaves : ∀ byte, stoppedPages.TableByte [0x5000, 0x5000] byte →
      ¬ Within (stoppedPages.place (fun _ => false) 0x5000) 3 byte := by
    rw [hplace]
    rintro byte ⟨vaddr, hvaddr, refuses, sregs, hsregs, slot, hslot, _, hbyte⟩ hin
    simp only [List.mem_cons, List.not_mem_nil, or_false, or_self] at hvaddr
    subst hvaddr
    unfold Stopped.target at hsregs
    split at hsregs
    · cases hsregs
    · cases hsregs
      have hvisited : visited (entryAt swappedPages.vm.mem) 3 (frame (0x1000 : UInt64).toNat)
          (0x5000 : UInt64).toNat = [0x1000, 0x2000, 0x3000] := by decide +kernel
      change slot ∈ visited (entryAt swappedPages.vm.mem) 3 (frame (0x1000 : UInt64).toNat) (0x5000 : UInt64).toNat
        at hslot
      rw [hvisited] at hslot
      simp only [List.mem_cons, List.not_mem_nil, or_false] at hslot
      unfold Within at hbyte hin
      omega
  refine session_refines .release stoppedPages shortSession ?_ ?_
  · unfold shortSession
    simp only [List.forall_mem_cons, List.not_mem_nil, false_implies, implies_true, Command.Fits, and_true]
    decide
  · intro request hmem
    simp only [shortSession, List.mem_cons, List.not_mem_nil, or_false] at hmem
    rcases hmem with rfl | rfl | rfl | rfl | rfl
    · exact hleaves
    all_goals trivial

end vwfl.gdb
