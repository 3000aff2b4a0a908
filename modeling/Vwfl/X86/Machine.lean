import Vwfl.ByteStore.Trace
import Vwfl.ByteStore.LittleEndian
import Vwfl.BitField

open ByteStore LittleEndian

namespace X86

/-- The general registers, the instruction pointer and the flags. -/
structure Registers where
  rax : UInt64
  rbx : UInt64
  rcx : UInt64
  rdx : UInt64
  rsi : UInt64
  rdi : UInt64
  rsp : UInt64
  rbp : UInt64
  r8 : UInt64
  r9 : UInt64
  r10 : UInt64
  r11 : UInt64
  r12 : UInt64
  r13 : UInt64
  r14 : UInt64
  r15 : UInt64
  rip : UInt64
  rflags : UInt64
  deriving Repr, DecidableEq

/-- A processor in 64-bit mode with the memory behind it. The low two bits of
    `cs` are the privilege level. -/
structure Machine where
  regs : Registers
  cs : UInt16
  ss : UInt16
  mem : Nat → UInt8

/-- The registers that an encoding without register extensions can name, in
    the order of their numbers. -/
inductive Reg where
  | rax
  | rcx
  | rdx
  | rbx
  | rsp
  | rbp
  | rsi
  | rdi
  deriving Repr, DecidableEq

def Reg.ofNumber : Nat → Reg
  | 0 => .rax
  | 1 => .rcx
  | 2 => .rdx
  | 3 => .rbx
  | 4 => .rsp
  | 5 => .rbp
  | 6 => .rsi
  | _ => .rdi

def Registers.get (regs : Registers) : Reg → UInt64
  | .rax => regs.rax
  | .rcx => regs.rcx
  | .rdx => regs.rdx
  | .rbx => regs.rbx
  | .rsp => regs.rsp
  | .rbp => regs.rbp
  | .rsi => regs.rsi
  | .rdi => regs.rdi

def Registers.set (regs : Registers) (value : UInt64) : Reg → Registers
  | .rax => { regs with rax := value }
  | .rcx => { regs with rcx := value }
  | .rdx => { regs with rdx := value }
  | .rbx => { regs with rbx := value }
  | .rsp => { regs with rsp := value }
  | .rbp => { regs with rbp := value }
  | .rsi => { regs with rsi := value }
  | .rdi => { regs with rdi := value }

/-- The fragment of the instruction set. -/
inductive Instruction where
  /-- `mov moffs64, rax`. -/
  | movAbsolute (address : UInt64)
  /-- `mov r64, r64`. -/
  | movRegister (target source : Reg)
  /-- `mov al, imm8`. -/
  | movAl (value : UInt8)
  /-- `out imm8, al`. -/
  | outAl (port : UInt8)
  | hlt
  deriving Repr, DecidableEq

/-- What the outside of the processor sees of a step. -/
inductive Event where
  | out (port : UInt8) (value : UInt8)
  | halt
  deriving Repr, DecidableEq

/-- The instruction at the start of a code stream, with its length. Bytes that
    cannot be fetched are missing from the stream. -/
def decode (code : Nat → Option UInt8) : Option (Instruction × UInt64) := do
  let opcode ← code 0
  if opcode = 0x48 then
    let opcode ← code 1
    if opcode = 0xA3 then
      let address ← (List.range 8).mapM fun index => code (2 + index)
      return (.movAbsolute (toUInt64 address), 10)
    else if opcode = 0x89 then
      let modrm ← code 2
      -- The other addressing forms name memory.
      if modrm.toNat / 64 = 3 then
        return (.movRegister (.ofNumber (modrm.toNat % 8)) (.ofNumber (modrm.toNat / 8 % 8)), 3)
      else none
    else none
  else if opcode = 0xB0 then return (.movAl (← code 1), 2)
  else if opcode = 0xE6 then return (.outAl (← code 1), 2)
  else if opcode = 0xF4 then return (.hlt, 1)
  else none

section Translation

variable (mmu : UInt64 → Option Nat)

/-- The bytes at consecutive addresses, unless one of them is not mapped. -/
def read (mem : Nat → UInt8) (address : UInt64) (length : Nat) : Option (List UInt8) :=
  (List.range length).mapM fun index => (mmu (address + UInt64.ofNat index)).map mem

def write (mem : Nat → UInt8) (address : UInt64) : List UInt8 → Option (Nat → UInt8)
  | [] => some mem
  | byte :: rest => do
    let mem ← write mem (address + 1) rest
    let target ← mmu address
    return store mem target [byte]

/-- An instruction, once the instruction pointer is behind it. `none` is a
    fault. -/
def execute (machine : Machine) : Instruction → Option (Machine × Option Event)
  | .movAbsolute address => do
    let mem ← write mmu machine.mem address (ofUInt64 machine.regs.rax)
    return ({ machine with mem }, none)
  | .movRegister target source =>
    some ({ machine with regs := machine.regs.set (machine.regs.get source) target }, none)
  | .movAl value =>
    let rax := UInt64.ofNat (machine.regs.rax.toNat / 256 * 256 + value.toNat)
    some ({ machine with regs := { machine.regs with rax } }, none)
  | .outAl port => some (machine, some (.out port machine.regs.rax.toUInt8))
  | .hlt => some (machine, some .halt)

/-- The processor behind an instruction of the given length. -/
def Machine.advance (machine : Machine) (length : UInt64) : Machine :=
  { machine with regs := { machine.regs with rip := machine.regs.rip + length } }

def step (machine : Machine) : Option (Machine × Option Event) := do
  let (instruction, length) ← decode fun index => (mmu (machine.regs.rip + UInt64.ofNat index)).map machine.mem
  execute mmu (machine.advance length) instruction

/-- Run to the first event. -/
def runToEvent : Nat → Machine → Option (Event × Machine)
  | 0, _ => none
  | fuel + 1, machine =>
    match step mmu machine with
    | none => none
    | some (after, some event) => some (event, after)
    | some (after, none) => runToEvent fuel after

/-- Consecutive addresses are mapped to consecutive cells. -/
def Linear (address : UInt64) (target length : Nat) : Prop :=
  ∀ index < length, mmu (address + UInt64.ofNat index) = some (target + index)

/-- The code stream at an address starts with the given bytes. -/
def CodeAt (mem : Nat → UInt8) (address : UInt64) (bytes : List UInt8) : Prop :=
  ∀ index (h : index < bytes.length), (mmu (address + UInt64.ofNat index)).map mem = some bytes[index]

end Translation

private theorem mapM_eq_some {α β : Type} {f : α → Option β} {g : α → β} {items : List α}
    (h : ∀ item ∈ items, f item = some (g item)) : items.mapM f = some (items.map g) := by
  induction items with
  | nil => rfl
  | cons item items ih =>
    rw [List.mapM_cons, h item List.mem_cons_self, ih fun other hother => h other (List.mem_cons_of_mem _ hother)]
    rfl

/-- Two adjacent stores are one store of both. -/
theorem store_append (cells : Nat → UInt8) (offset : Nat) (first second : List UInt8) :
    store (store cells (offset + first.length) second) offset first = store cells offset (first ++ second) := by
  funext address
  by_cases hfirst : Within offset first.length address
  · obtain ⟨index, rfl⟩ := Nat.exists_eq_add_of_le hfirst.1
    have hindex : index < first.length := Nat.lt_of_add_lt_add_left hfirst.2
    rw [store_inside _ _ _ hindex, store_inside _ _ _ (by rw [List.length_append]; omega),
      List.getElem_append_left hindex]
  · rw [store_outside _ _ _ hfirst]
    by_cases hsecond : Within (offset + first.length) second.length address
    · obtain ⟨index, rfl⟩ := Nat.exists_eq_add_of_le hsecond.1
      have hindex : index < second.length := Nat.lt_of_add_lt_add_left hsecond.2
      rw [store_inside _ _ _ hindex, Nat.add_assoc, store_inside _ _ _ (by rw [List.length_append]; omega)]
      rw [List.getElem_append_right (by omega)]
      simp only [Nat.add_sub_cancel_left]
    · rw [store_outside _ _ _ hsecond, store_outside]
      unfold Within at *
      rw [List.length_append]
      omega

section Access

variable {mmu : UInt64 → Option Nat}

/-- A part of a linear range is linear. -/
theorem Linear.part {address : UInt64} {target length : Nat} (h : Linear mmu address target length) {start size : Nat}
    (hpart : start + size ≤ length) : Linear mmu (address + UInt64.ofNat start) (target + start) size := by
  intro index hindex
  rw [UInt64.add_assoc, ← UInt64.ofNat_add, h (start + index) (by omega), Nat.add_assoc]

theorem read_of_linear {address : UInt64} {target length : Nat} (h : Linear mmu address target length)
    (mem : Nat → UInt8) : read mmu mem address length = some (load mem target length) := by
  unfold read load
  apply mapM_eq_some
  intro index hindex
  rw [h index (List.mem_range.mp hindex)]
  rfl

theorem write_of_linear {address : UInt64} {target : Nat} {data : List UInt8}
    (h : Linear mmu address target data.length) (mem : Nat → UInt8) :
    write mmu mem address data = some (store mem target data) := by
  induction data generalizing address target with
  | nil => rw [write, store_nil]
  | cons byte rest ih =>
    have hhead : mmu address = some target := by simpa using h 0 (Nat.succ_pos rest.length)
    have htail : Linear mmu (address + 1) (target + 1) rest.length :=
      h.part (by rw [List.length_cons, Nat.add_comm])
    rw [write, ih htail, hhead]
    exact congrArg some (store_append mem target [byte] rest)

/-- Code in linear memory is read from the cells behind it. -/
theorem CodeAt.of_linear {mem : Nat → UInt8} {address : UInt64} {target length : Nat} {bytes : List UInt8}
    (hlinear : Linear mmu address target length) (hlength : bytes.length ≤ length)
    (hbytes : load mem target bytes.length = bytes) : CodeAt mmu mem address bytes := by
  intro index hindex
  rw [hlinear index (by omega), Option.map_some, (load_eq_iff mem target bytes).mp hbytes index hindex]

private theorem CodeAt.mapM_eq {mem : Nat → UInt8} {address : UInt64} {before bytes : List UInt8}
    (h : CodeAt mmu mem address (before ++ bytes)) :
    (List.range bytes.length).mapM (fun index => (mmu (address + UInt64.ofNat (before.length + index))).map mem) =
      some bytes := by
  have hgiven : (List.range bytes.length).map (fun index => bytes[index]?.getD 0) = bytes := by
    apply List.ext_getElem (by simp)
    intro index hindex hbound
    simp [hbound]
  refine (mapM_eq_some ?_).trans (congrArg some hgiven)
  intro index hindex
  have hbound := List.mem_range.mp hindex
  rw [h (before.length + index) (by rw [List.length_append]; omega), List.getElem_append_right (by omega)]
  simp [hbound]

section Steps

variable {machine : Machine}

private theorem step_of_decode {code : Nat → Option UInt8} {instruction : Instruction} {length : UInt64}
    (hcode : code = fun index => (mmu (machine.regs.rip + UInt64.ofNat index)).map machine.mem)
    (h : decode code = some (instruction, length)) :
    step mmu machine = execute mmu (machine.advance length) instruction := by
  unfold step
  rw [← hcode, h]
  rfl

theorem step_movAbsolute {address : UInt64} {target : Nat}
    (hcode : CodeAt mmu machine.mem machine.regs.rip ([0x48, 0xA3] ++ ofUInt64 address))
    (htarget : Linear mmu address target 8) :
    step mmu machine =
      some ({ machine.advance 10 with mem := store machine.mem target (ofUInt64 machine.regs.rax) }, none) := by
  generalize hstream : (fun index => (mmu (machine.regs.rip + UInt64.ofNat index)).map machine.mem) = code
  have hprefix : code 0 = some 0x48 := by rw [← hstream]; exact hcode 0 (by simp)
  have hopcode : code 1 = some 0xA3 := by rw [← hstream]; exact hcode 1 (by simp)
  have haddress : (List.range 8).mapM (fun index => code (2 + index)) = some (ofUInt64 address) := by
    rw [← hstream]
    exact CodeAt.mapM_eq hcode
  have hdecode : decode code = some (.movAbsolute address, 10) := by
    simp [decode, hprefix, hopcode, haddress]
  rw [step_of_decode hstream.symm hdecode]
  change (write mmu machine.mem address (ofUInt64 machine.regs.rax)).bind _ = _
  rw [write_of_linear (by rwa [length_ofUInt64])]
  rfl

theorem step_movRegister {modrm : UInt8} (hcode : CodeAt mmu machine.mem machine.regs.rip [0x48, 0x89, modrm])
    (hmode : modrm.toNat / 64 = 3) :
    step mmu machine = some ({ machine.advance 3 with
      regs := (machine.advance 3).regs.set ((machine.advance 3).regs.get (.ofNumber (modrm.toNat / 8 % 8)))
        (.ofNumber (modrm.toNat % 8)) }, none) := by
  generalize hstream : (fun index => (mmu (machine.regs.rip + UInt64.ofNat index)).map machine.mem) = code
  have hprefix : code 0 = some 0x48 := by rw [← hstream]; exact hcode 0 (by simp)
  have hopcode : code 1 = some 0x89 := by rw [← hstream]; exact hcode 1 (by simp)
  have hmodrm : code 2 = some modrm := by rw [← hstream]; exact hcode 2 (by simp)
  have hdecode : decode code =
      some (.movRegister (.ofNumber (modrm.toNat % 8)) (.ofNumber (modrm.toNat / 8 % 8)), 3) := by
    simp [decode, hprefix, hopcode, hmodrm, hmode]
  rw [step_of_decode hstream.symm hdecode]
  rfl

theorem step_movAl {value : UInt8} (hcode : CodeAt mmu machine.mem machine.regs.rip [0xB0, value]) :
    step mmu machine = some ({ machine.advance 2 with
      regs := { (machine.advance 2).regs with
        rax := UInt64.ofNat (machine.regs.rax.toNat / 256 * 256 + value.toNat) } }, none) := by
  generalize hstream : (fun index => (mmu (machine.regs.rip + UInt64.ofNat index)).map machine.mem) = code
  have hopcode : code 0 = some 0xB0 := by rw [← hstream]; exact hcode 0 (by simp)
  have hvalue : code 1 = some value := by rw [← hstream]; exact hcode 1 (by simp)
  have hdecode : decode code = some (.movAl value, 2) := by
    simp [decode, hopcode, hvalue]
  rw [step_of_decode hstream.symm hdecode]
  rfl

theorem step_outAl {port : UInt8} (hcode : CodeAt mmu machine.mem machine.regs.rip [0xE6, port]) :
    step mmu machine = some (machine.advance 2, some (.out port machine.regs.rax.toUInt8)) := by
  generalize hstream : (fun index => (mmu (machine.regs.rip + UInt64.ofNat index)).map machine.mem) = code
  have hopcode : code 0 = some 0xE6 := by rw [← hstream]; exact hcode 0 (by simp)
  have hport : code 1 = some port := by rw [← hstream]; exact hcode 1 (by simp)
  have hdecode : decode code = some (.outAl port, 2) := by
    simp [decode, hopcode, hport]
  rw [step_of_decode hstream.symm hdecode]
  rfl

theorem step_hlt (hcode : CodeAt mmu machine.mem machine.regs.rip [0xF4]) :
    step mmu machine = some (machine.advance 1, some .halt) := by
  generalize hstream : (fun index => (mmu (machine.regs.rip + UInt64.ofNat index)).map machine.mem) = code
  have hopcode : code 0 = some 0xF4 := by rw [← hstream]; exact hcode 0 (by simp)
  have hdecode : decode code = some (.hlt, 1) := by
    simp [decode, hopcode]
  rw [step_of_decode hstream.symm hdecode]
  rfl

/-- No instruction of the fragment changes a segment. -/
theorem step_segments {after : Machine} {event : Option Event} (h : step mmu machine = some (after, event)) :
    after.cs = machine.cs ∧ after.ss = machine.ss := by
  obtain ⟨⟨instruction, length⟩, _, hexecute⟩ := Option.bind_eq_some_iff.mp h
  cases instruction with
  | movAbsolute address =>
    obtain ⟨mem, _, hpure⟩ := Option.bind_eq_some_iff.mp hexecute
    cases hpure
    exact ⟨rfl, rfl⟩
  | movRegister target source =>
    cases hexecute
    exact ⟨rfl, rfl⟩
  | movAl value =>
    cases hexecute
    exact ⟨rfl, rfl⟩
  | outAl port =>
    cases hexecute
    exact ⟨rfl, rfl⟩
  | hlt =>
    cases hexecute
    exact ⟨rfl, rfl⟩

theorem runToEvent_segments {after : Machine} {event : Event} {fuel : Nat}
    (h : runToEvent mmu fuel machine = some (event, after)) : after.cs = machine.cs ∧ after.ss = machine.ss := by
  induction fuel generalizing machine with
  | zero => cases h
  | succ fuel ih =>
    rw [runToEvent] at h
    cases hstep : step mmu machine with
    | none =>
      rw [hstep] at h
      cases h
    | some reached =>
      obtain ⟨middle, found⟩ := reached
      rw [hstep] at h
      obtain ⟨hcs, hss⟩ := step_segments hstep
      cases found with
      | none =>
        obtain ⟨hlater, hlaterStack⟩ := ih h
        exact ⟨hlater.trans hcs, hlaterStack.trans hss⟩
      | some event =>
        cases h
        exact ⟨hcs, hss⟩

theorem runToEvent_of_silent {after : Machine} (h : step mmu machine = some (after, none)) (fuel : Nat) :
    runToEvent mmu (fuel + 1) machine = runToEvent mmu fuel after := by
  rw [runToEvent, h]

theorem runToEvent_of_event {after : Machine} {event : Event} (h : step mmu machine = some (after, some event))
    (fuel : Nat) : runToEvent mmu (fuel + 1) machine = some (event, after) := by
  rw [runToEvent, h]

end Steps

end Access

end X86
