import Vwfl.ByteStore.LittleEndian
import Vwfl.Rust.Arith
import Vwfl.Rust.Slice

open Rust LittleEndian

namespace vwfl.cpu

structure ApicState where
  tpr : UInt32
  svr : UInt32
  lvt_timer : UInt32
  init_count : UInt32
  deriving Repr, DecidableEq

structure HpetState where
  config : UInt64
  counter : UInt64
  deriving Repr, DecidableEq

/-- A reading of the monotonic clock, in nanoseconds. -/
abbrev Instant := Nat

/-- The device registers and the clock reading taken when the vCPU starts. -/
structure Devices where
  APIC : ApicState
  HPET : HpetState
  START_TIME : Option Instant
  deriving Repr, DecidableEq

/-- The statics as the program starts. -/
def Devices.initial : Devices where
  APIC := { tpr := 0, svr := 0x1FF, lvt_timer := 0x10000, init_count := 0 }
  HPET := { config := 0, counter := 0 }
  START_TIME := none

def IsApic (addr : UInt64) : Prop := addr ≥ 0xfee00000 ∧ addr ≤ 0xfee00fff

def IsHpet (addr : UInt64) : Prop := addr ≥ 0xfed00000 ∧ addr ≤ 0xfed003ff

instance (addr : UInt64) : Decidable (IsApic addr) := inferInstanceAs (Decidable (_ ∧ _))

instance (addr : UInt64) : Decidable (IsHpet addr) := inferInstanceAs (Decidable (_ ∧ _))

/-- Value of a register of the local APIC. -/
def ApicState.read (self : ApicState) (register : UInt64) (loop_count : UInt64) : UInt32 :=
  if register = 0x20 then 0x0
  else if register = 0x30 then 0x50014
  else if register = 0x80 then self.tpr
  else if register = 0xF0 then self.svr
  else if register = 0x320 then self.lvt_timer
  else if register = 0x380 then self.init_count
  else if register = 0x390 then
    if self.init_count > 0 then self.init_count - (loop_count &&& 0xFFFF).toUInt32 else 0x100000
  else 0

/-- The main counter of the HPET, from the time since the start or, before it,
    from the loop count. `now` is the clock when `elapsed` reads it. -/
def Devices.main_counter (profile : Profile) (self : Devices) (now : Instant) (loop_count : UInt64) :
    Result UInt64 :=
  match self.START_TIME with
  | some start =>
    let elapsed := UInt64.ofNat (now - start)
    profile.mul64 elapsed 1000000
  | none => profile.mul64 loop_count 100000

/-- Value of a register of the HPET. -/
def Devices.read_hpet (profile : Profile) (self : Devices) (now : Instant) (register loop_count : UInt64) :
    Result UInt64 :=
  if register = 0x00 then .ok 0x8086a20100000001
  else if register = 0x10 then .ok self.HPET.config
  else if register = 0xF0 then self.main_counter profile now loop_count
  else .ok 0

/-- The slice that the guest's read is answered with. -/
def handle_mmio_read (profile : Profile) (self : Devices) (now : Instant) (addr : UInt64) (data : List UInt8)
    (loop_count : UInt64) : Result (List UInt8) :=
  if IsApic addr then do
    let val := self.APIC.read (addr &&& 0xFFF) loop_count
    let bytes := ofUInt32 val
    let len := min data.length 4
    copy_from_slice data 0 len (← slice bytes 0 len)
  else if IsHpet addr then do
    let val ← self.read_hpet profile now (addr &&& 0x3FF) loop_count
    let len := data.length
    if len = 8 then copy_from_slice data 0 len (ofUInt64 val)
    else if len = 4 then copy_from_slice data 0 len (ofUInt32 val.toUInt32)
    else return data
  else return data

def ApicState.write (self : ApicState) (register : UInt64) (val : UInt32) : ApicState :=
  if register = 0x80 then { self with tpr := val }
  else if register = 0xF0 then { self with svr := val }
  else if register = 0x320 then { self with lvt_timer := val }
  else if register = 0x380 then { self with init_count := val }
  else self

def HpetState.write (self : HpetState) (register : UInt64) (val : UInt32) : HpetState :=
  if register = 0x10 then { self with config := val.toUInt64 }
  else if register = 0xF0 then { self with counter := val.toUInt64 }
  else self

def handle_mmio_write (self : Devices) (addr : UInt64) (data : List UInt8) : Result Devices :=
  if IsApic addr then do
    let val := toUInt32 (← slice data 0 4)
    return { self with APIC := self.APIC.write (addr &&& 0xFFF) val }
  else if IsHpet addr then
    if data.length ≥ 4 then do
      let val := toUInt32 (← slice data 0 4)
      return { self with HPET := self.HPET.write (addr &&& 0x3FF) val }
    else return self
  else return self

end vwfl.cpu
