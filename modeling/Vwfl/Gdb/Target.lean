import Vwfl.Vm.Access

open Rust ByteStore
open vwfl.vm

namespace vwfl.gdb

structure kvm_sregs where
  cr3 : UInt64

/-- The debugger's view of the machine. `sregs` is the answer of `get_sregs`,
    absent when the ioctl fails. -/
structure VwflTarget where
  vm : Vm
  sregs : Option kvm_sregs

/-- One table entry, absent when `read_memory` returns an error. -/
def read_entry (profile : Profile) (vm : Vm) (address : UInt64) : Result (Option UInt64) :=
  match Vm.read_memory profile vm address 8 with
  | .ok entry => .ok (some (LittleEndian.toUInt64 entry))
  | .error (.err _) => .ok none
  | .error fault => .error fault

/-- Every failure exit returns the virtual address itself. -/
def VwflTarget.virt_to_phys (profile : Profile) (self : VwflTarget) (vaddr : UInt64) : Result UInt64 :=
  match self.sregs with
  | none => .ok vaddr
  | some sregs => do
    let cr3 := sregs.cr3
    let pml4_base := cr3 &&& 0x000FFFFFFFFFF000
    let pml4_idx := (vaddr >>> 39) &&& 0x1FF
    match ← read_entry profile self.vm (pml4_base + pml4_idx * 8) with
    | none => return vaddr
    | some pml4e =>
      if pml4e &&& 1 = 0 then return vaddr
      else do
        let pdpt_base := pml4e &&& 0x000FFFFFFFFFF000
        let pdpt_idx := (vaddr >>> 30) &&& 0x1FF
        match ← read_entry profile self.vm (pdpt_base + pdpt_idx * 8) with
        | none => return vaddr
        | some pdpte =>
          if pdpte &&& 1 = 0 then return vaddr
          else if pdpte &&& 0x80 ≠ 0 then
            return (pdpte &&& 0x000FFFFFC0000000) ||| (vaddr &&& 0x3FFFFFFF)
          else do
            let pd_base := pdpte &&& 0x000FFFFFFFFFF000
            let pd_idx := (vaddr >>> 21) &&& 0x1FF
            match ← read_entry profile self.vm (pd_base + pd_idx * 8) with
            | none => return vaddr
            | some pde =>
              if pde &&& 1 = 0 then return vaddr
              else if pde &&& 0x80 ≠ 0 then
                return (pde &&& 0x000FFFFFFFE00000) ||| (vaddr &&& 0x1FFFFF)
              else do
                let pt_base := pde &&& 0x000FFFFFFFFFF000
                let pt_idx := (vaddr >>> 12) &&& 0x1FF
                match ← read_entry profile self.vm (pt_base + pt_idx * 8) with
                | none => return vaddr
                | some pte =>
                  if pte &&& 1 = 0 then return vaddr
                  else return (pte &&& 0x000FFFFFFFFFF000) ||| (vaddr &&& 0xFFF)

/-- Reading through the stub: `Ok(0)` with the caller's bytes untouched when
    the memory read fails, else the number of bytes read and the bytes. -/
def VwflTarget.read_addrs (profile : Profile) (self : VwflTarget) (start_addr : UInt64) (data : List UInt8) :
    Result (Nat × List UInt8) := do
  let paddr ← self.virt_to_phys profile start_addr
  match Vm.read_memory profile self.vm paddr data.length with
  | .ok bytes => return (data.length, bytes)
  | .error (.err _) => return (0, data)
  | .error fault => throw fault

def VwflTarget.write_addrs (profile : Profile) (start_addr : UInt64) (data : List UInt8) :
    Stateful VwflTarget Unit := fun self =>
  match self.virt_to_phys profile start_addr with
  | .error fault => .error fault self
  | .ok paddr =>
    match (Vm.write_memory profile paddr data).run self.vm with
    | .ok _ vm => .ok () { self with vm }
    | .error fault vm => .error fault { self with vm }

end vwfl.gdb
