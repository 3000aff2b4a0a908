import Vwfl.X86.Machine

open ByteStore LittleEndian

namespace X86

/-- A gate of the interrupt descriptor table. -/
structure Gate where
  offset : UInt64
  selector : UInt16
  ist : Nat
  kind : Nat
  dpl : Nat
  present : Bool
  deriving Repr, DecidableEq

/-- The fields of the sixteen bytes of a gate. The offset of the handler is
    split over three of them. -/
def Gate.decode (entry : List UInt8) : Gate where
  offset := UInt64.ofNat (number (entry.take 2) + number ((entry.drop 6).take 2) * 2 ^ 16 +
    number ((entry.drop 8).take 4) * 2 ^ 32)
  selector := toUInt16 ((entry.drop 2).take 2)
  ist := (entry[4]?.getD 0).toNat % 8
  kind := (entry[5]?.getD 0).toNat % 16
  dpl := (entry[5]?.getD 0).toNat / 32 % 4
  present := (entry[5]?.getD 0).toNat / 128 = 1

/-- Where an interrupt comes from. -/
inductive Origin where
  | exception
  | instruction
  | external
  deriving Repr, DecidableEq

/-- The tables that a delivery consults: `segment` gives the privilege level of
    the 64-bit code segment that a selector names, `stack` and `ist` the stacks
    of the task state segment. -/
structure System where
  mmu : UInt64 → Option Nat
  idt_base : UInt64
  segment : UInt16 → Option Nat
  stack : Nat → UInt64
  ist : Nat → UInt64

/-- Exceptions that push an error code. -/
def PushesErrorCode (vector : UInt8) : Prop := vector ∈ [8, 10, 11, 12, 13, 14, 17, 21, 29, 30]

instance (vector : UInt8) : Decidable (PushesErrorCode vector) := inferInstanceAs (Decidable (_ ∈ _))

/-- Push one word. -/
def push (mmu : UInt64 → Option Nat) (mem : Nat → UInt8) (rsp value : UInt64) : Option ((Nat → UInt8) × UInt64) := do
  let mem ← write mmu mem (rsp - 8) (ofUInt64 value)
  return (mem, rsp - 8)

def pushAll (mmu : UInt64 → Option Nat) : (Nat → UInt8) → UInt64 → List UInt64 → Option ((Nat → UInt8) × UInt64)
  | mem, rsp, [] => some (mem, rsp)
  | mem, rsp, value :: rest => do
    let (mem, rsp) ← push mmu mem rsp value
    pushAll mmu mem rsp rest

def Machine.cpl (machine : Machine) : Nat := machine.cs.toNat % 4

/-- The words of an interrupt frame, in the order in which they are pushed. -/
def frameWords (vector : UInt8) (origin : Origin) (code : UInt64) (machine : Machine) : List UInt64 :=
  [machine.ss.toUInt64, machine.regs.rsp, machine.regs.rflags, machine.cs.toUInt64, machine.regs.rip] ++
    if origin = .exception ∧ PushesErrorCode vector then [code] else []

/-- The stack that a handler at privilege level `level` runs on. -/
def handlerStack (system : System) (gate : Gate) (level : Nat) (machine : Machine) : UInt64 :=
  if gate.ist ≠ 0 then system.ist gate.ist
  else if level < machine.cpl then system.stack level
  else machine.regs.rsp

/-- The flags at the start of a handler: the trap, nested task, resume and
    virtual 8086 flags are cleared, and an interrupt gate also masks further
    interrupts. -/
def handlerFlags (gate : Gate) (rflags : UInt64) : UInt64 :=
  rflags &&& ~~~ (if gate.kind = 0xE then 0x34300 else 0x34100)

/-- The processor at the start of a handler, once the frame is pushed. -/
def Machine.enter (machine : Machine) (gate : Gate) (level : Nat) (mem : Nat → UInt8) (rsp : UInt64) : Machine where
  regs := { machine.regs with rsp, rip := gate.offset, rflags := handlerFlags gate machine.regs.rflags }
  cs := UInt16.ofNat (gate.selector.toNat / 4 * 4 + level)
  ss := if level < machine.cpl then UInt16.ofNat level else machine.ss
  mem := mem

/-- Delivery of an interrupt in 64-bit mode. `none` is a further fault. -/
def deliver (system : System) (vector : UInt8) (origin : Origin) (code : UInt64) (machine : Machine) :
    Option Machine := do
  let entry ← read system.mmu machine.mem (system.idt_base + UInt64.ofNat vector.toNat * 16) 16
  let gate := Gate.decode entry
  guard (gate.present = true ∧ (gate.kind = 0xE ∨ gate.kind = 0xF))
  guard (origin = .instruction → machine.cpl ≤ gate.dpl)
  let level ← system.segment gate.selector
  guard (level ≤ machine.cpl)
  let top := handlerStack system gate level machine &&& ~~~ 0xF
  let (mem, rsp) ← pushAll system.mmu machine.mem top (frameWords vector origin code machine)
  return machine.enter gate level mem rsp

/-- What a delivery does, once the gate is known. -/
theorem deliver_cases {system : System} {vector : UInt8} {origin : Origin} {code : UInt64} {machine delivered : Machine}
    (h : deliver system vector origin code machine = some delivered) {entry : List UInt8}
    (hentry : read system.mmu machine.mem (system.idt_base + UInt64.ofNat vector.toNat * 16) 16 = some entry) :
    ∃ level mem rsp, pushAll system.mmu machine.mem (handlerStack system (Gate.decode entry) level machine &&& ~~~ 0xF)
        (frameWords vector origin code machine) = some (mem, rsp) ∧
      delivered = machine.enter (Gate.decode entry) level mem rsp := by
  unfold deliver at h
  simp only [hentry, Option.bind_eq_bind, Option.bind_some] at h
  obtain ⟨_, _, h⟩ := Option.bind_eq_some_iff.mp h
  obtain ⟨_, _, h⟩ := Option.bind_eq_some_iff.mp h
  obtain ⟨level, _, h⟩ := Option.bind_eq_some_iff.mp h
  obtain ⟨_, _, h⟩ := Option.bind_eq_some_iff.mp h
  obtain ⟨⟨mem, rsp⟩, hpush, h⟩ := Option.bind_eq_some_iff.mp h
  exact ⟨level, mem, rsp, hpush, (Option.some.inj h).symm⟩

/-- The frame ends at the stack pointer that the pushes left, and lies in one
    piece when its addresses do. -/
theorem pushAll_of_linear {mmu : UInt64 → Option Nat} {base : UInt64} {target : Nat} {values : List UInt64}
    (h : Linear mmu base target (8 * values.length)) (mem : Nat → UInt8) :
    pushAll mmu mem (base + UInt64.ofNat (8 * values.length)) values =
      some (store mem target (values.reverse.flatMap ofUInt64), base) := by
  induction values generalizing mem with
  | nil =>
    rw [pushAll, List.reverse_nil, List.flatMap_nil, store_nil]
    simp
  | cons value rest ih =>
    have hslot : base + UInt64.ofNat (8 * (value :: rest).length) - 8 = base + UInt64.ofNat (8 * rest.length) := by
      rw [List.length_cons, Nat.mul_add, UInt64.ofNat_add]
      have height : UInt64.ofNat (8 * 1) = 8 := rfl
      rw [height]
      grind
    have hword : Linear mmu (base + UInt64.ofNat (8 * rest.length)) (target + 8 * rest.length) 8 :=
      h.part (by rw [List.length_cons]; omega)
    have hlower : Linear mmu base target (8 * rest.length) :=
      fun index hindex => h index (by rw [List.length_cons]; omega)
    have hlength : (rest.reverse.flatMap ofUInt64).length = 8 * rest.length := by
      simp [List.length_flatMap, Nat.mul_comm]
    unfold pushAll push
    rw [hslot, write_of_linear (by rwa [length_ofUInt64])]
    simp only [Option.bind_eq_bind, Option.bind_some, Option.pure_def]
    rw [ih hlower, List.reverse_cons, List.flatMap_append, ← store_append, hlength]
    simp

theorem pushAll_rsp {mmu : UInt64 → Option Nat} {mem after : Nat → UInt8} {top rsp : UInt64} {values : List UInt64}
    (h : pushAll mmu mem top values = some (after, rsp)) : top = rsp + UInt64.ofNat (8 * values.length) := by
  induction values generalizing mem top with
  | nil =>
    cases h
    simp
  | cons value rest ih =>
    unfold pushAll push at h
    obtain ⟨⟨middle, next⟩, hpush, hrest⟩ := Option.bind_eq_some_iff.mp h
    obtain ⟨written, _, hpure⟩ := Option.bind_eq_some_iff.mp hpush
    cases hpure
    have hnext := ih hrest
    rw [List.length_cons, Nat.mul_add, UInt64.ofNat_add, ← UInt64.add_assoc, ← hnext]
    have height : UInt64.ofNat (8 * 1) = 8 := rfl
    rw [height]
    grind

/-- A delivery succeeds when the gate admits it and the frame is mapped. -/
theorem deliver_of_linear {system : System} {vector : UInt8} {origin : Origin} {code : UInt64} {machine : Machine}
    {entry : List UInt8} {level target : Nat} {base : UInt64}
    (hentry : read system.mmu machine.mem (system.idt_base + UInt64.ofNat vector.toNat * 16) 16 = some entry)
    (hgate : (Gate.decode entry).present = true ∧ ((Gate.decode entry).kind = 0xE ∨ (Gate.decode entry).kind = 0xF))
    (horigin : origin = .instruction → machine.cpl ≤ (Gate.decode entry).dpl)
    (hsegment : system.segment (Gate.decode entry).selector = some level) (hlevel : level ≤ machine.cpl)
    (htop : handlerStack system (Gate.decode entry) level machine &&& ~~~ 0xF =
      base + UInt64.ofNat (8 * (frameWords vector origin code machine).length))
    (hlinear : Linear system.mmu base target (8 * (frameWords vector origin code machine).length)) :
    deliver system vector origin code machine = some (machine.enter (Gate.decode entry) level
      (store machine.mem target ((frameWords vector origin code machine).reverse.flatMap ofUInt64)) base) := by
  have hpush := pushAll_of_linear hlinear machine.mem
  rw [← htop] at hpush
  unfold deliver
  simp only [hentry, hsegment, hpush, Option.bind_eq_bind, Option.bind_some, guard, if_pos hgate, if_pos horigin,
    if_pos hlevel]
  rfl

end X86
