import Vwfl.ByteStore.Trace
import Vwfl.ByteStore.LittleEndian
import Vwfl.BitField
import Vwfl.Rust.Arith

open Rust ByteStore

namespace vwfl.vm

/-- Bytes of the host mapping behind the guest memory. -/
def MEM_SIZE : UInt64 := 8 * 1024 * 1024 * 1024

def MMIO_HOLE_START : UInt64 := 0xC0000000

def MMIO_HOLE_SIZE : UInt64 := 0x40000000

/-- The mapping at `mem_ptr`, indexed by host offset. Only the first `MEM_SIZE`
    offsets belong to it: an access to another one is a fault. -/
structure Vm where
  mem : Nat → UInt8

abbrev VmM (α : Type) := Stateful Vm α

@[simp] theorem MEM_SIZE_toNat : MEM_SIZE.toNat = 0x200000000 := rfl

/-- The copy out of `mem_ptr.add(offset)`. -/
def Vm.copy_from (self : Vm) (offset : UInt64) (length : Nat) : Result (List UInt8) :=
  if offset.toNat + length ≤ MEM_SIZE.toNat then .ok (load self.mem offset.toNat length) else .error .ub

/-- The copy into `mem_ptr.add(offset)`. -/
def Vm.copy_to (offset : UInt64) (data : List UInt8) : VmM Unit := fun self =>
  if offset.toNat + data.length ≤ MEM_SIZE.toNat then
    .ok () { self with mem := store self.mem offset.toNat data }
  else .error .ub self

def Vm.write_memory (profile : Profile) (offset : UInt64) (data : List UInt8) : VmM Unit := do
  let sum ← profile.add64 offset (UInt64.ofNat data.length)
  if sum > MEM_SIZE then throw (.err "Memory write out of bounds")
  else Vm.copy_to offset data

/-- The source fills a caller's slice; here the `length` bytes it receives are
    returned. -/
def Vm.read_memory (profile : Profile) (self : Vm) (offset : UInt64) (length : Nat) : Result (List UInt8) := do
  let sum ← profile.add64 offset (UInt64.ofNat length)
  if sum > MEM_SIZE then throw (.err "Memory read out of bounds")
  else self.copy_from offset length

end vwfl.vm
