import Vwfl.X86.Interrupt

open ByteStore LittleEndian

namespace X86

/-- A table register. The limit is the offset of the last byte. -/
structure TableRegister where
  base : UInt64
  limit : Nat
  deriving Repr, DecidableEq

/-- The registers that locate the descriptor tables and the task state segment. -/
structure TableRegisters where
  gdt : TableRegister
  idt : TableRegister
  task : TableRegister
  deriving Repr, DecidableEq

/-- The level of the 64-bit code segment that a descriptor describes.
    Conforming segments are outside the fragment. -/
def codeLevel (descriptor : UInt64) : Option Nat :=
  let bit := fun place => descriptor.toNat / 2 ^ place % 2
  if bit 42 = 0 ∧ bit 43 = 1 ∧ bit 44 = 1 ∧ bit 47 = 1 ∧ bit 53 = 1 ∧ bit 54 = 0 then
    some (descriptor.toNat / 2 ^ 45 % 4)
  else none

namespace TableRegisters

variable (self : TableRegisters) (mmu : UInt64 → Option Nat) (mem : Nat → UInt8)

/-- The level of the code segment that a selector names. The null selector and
    the selectors of a local table name none. -/
def segment (selector : UInt16) : Option Nat := do
  let slot := selector.toNat / 8
  guard (slot ≠ 0 ∧ selector.toNat / 4 % 2 = 0 ∧ slot * 8 + 7 ≤ self.gdt.limit)
  let descriptor ← read mmu mem (self.gdt.base + UInt64.ofNat (slot * 8)) 8
  codeLevel (toUInt64 descriptor)

/-- What the tables in memory say. The whole task state segment has to be
    there. -/
def system : Option System := do
  guard (103 ≤ self.task.limit)
  let task ← read mmu mem self.task.base 104
  return {
    mmu := mmu
    idt_base := self.idt.base
    segment := self.segment mmu mem
    stack level := toUInt64 ((task.drop (4 + 8 * level)).take 8)
    ist number := toUInt64 ((task.drop (28 + 8 * number)).take 8) }

/-- Delivery of an interrupt through the tables in memory. -/
def deliver (vector : UInt8) (origin : Origin) (code : UInt64) (machine : Machine) : Option Machine := do
  guard (vector.toNat * 16 + 15 ≤ self.idt.limit)
  let system ← self.system mmu machine.mem
  X86.deliver system vector origin code machine

end TableRegisters

variable {tables : TableRegisters} {mmu : UInt64 → Option Nat} {mem : Nat → UInt8}

/-- A selector of the global table, found in linear memory. -/
theorem TableRegisters.segment_of_linear {selector : UInt16} {slot target : Nat} (hslot : selector.toNat = slot * 8)
    (hnull : slot ≠ 0) (hlimit : slot * 8 + 7 ≤ tables.gdt.limit)
    (hlinear : Linear mmu (tables.gdt.base + UInt64.ofNat (slot * 8)) target 8) :
    tables.segment mmu mem selector = codeLevel (toUInt64 (load mem target 8)) := by
  have hindex : selector.toNat / 8 = slot := by omega
  have hglobal : selector.toNat / 4 % 2 = 0 := by omega
  unfold segment
  simp only [hindex, hglobal, hnull, hlimit, read_of_linear hlinear, guard, Option.bind_eq_bind, ne_eq,
    not_false_eq_true, and_self, if_true, Option.pure_def, Option.bind_some]

/-- A task state segment in linear memory gives the stacks. -/
theorem TableRegisters.system_of_linear {target : Nat} (hlimit : 103 ≤ tables.task.limit)
    (hlinear : Linear mmu tables.task.base target 104) :
    tables.system mmu mem = some {
      mmu := mmu
      idt_base := tables.idt.base
      segment := tables.segment mmu mem
      stack level := toUInt64 (((load mem target 104).drop (4 + 8 * level)).take 8)
      ist number := toUInt64 (((load mem target 104).drop (28 + 8 * number)).take 8) } := by
  unfold system
  simp only [hlimit, read_of_linear hlinear, guard, if_true, Option.bind_eq_bind, Option.pure_def, Option.bind_some]

theorem TableRegisters.deliver_of_system {system : System} {vector : UInt8} {origin : Origin} {code : UInt64}
    {machine : Machine} (hlimit : vector.toNat * 16 + 15 ≤ tables.idt.limit)
    (hsystem : tables.system mmu machine.mem = some system) :
    tables.deliver mmu vector origin code machine = X86.deliver system vector origin code machine := by
  unfold deliver
  simp only [hlimit, hsystem, guard, if_true, Option.bind_eq_bind, Option.pure_def, Option.bind_some]

end X86
