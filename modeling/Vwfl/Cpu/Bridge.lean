import Vwfl.Rust.Slice

open Rust

namespace vwfl.cpu

/-- A connection of the bridge, told apart from every other by its number. -/
structure TcpStream where
  id : Nat
  deriving Repr, DecidableEq

/-- The data that the event loop shares with the threads of the bridge, each
    part behind its mutex, and the bytes that left it: those printed and those
    written to a stream. -/
structure Bridge where
  SERIAL_IN_QUEUE : List UInt8
  WINDBG_STREAM : Option TcpStream
  console : List UInt8
  forwarded : List (TcpStream × UInt8)
  deriving Repr, DecidableEq

def Bridge.initial : Bridge where
  SERIAL_IN_QUEUE := []
  WINDBG_STREAM := none
  console := []
  forwarded := []

/-- One critical section of the bridge threads. -/
inductive BridgeStep where
  /-- The accept loop hands the stream of a new client to the event loop. -/
  | accept (client : TcpStream)
  /-- A reader thread queues the bytes of one read. -/
  | push (chunk : List UInt8)
  /-- A reader thread has met the end of its stream. -/
  | disconnect

def Bridge.apply (self : Bridge) : BridgeStep → Bridge
  | .accept client => { self with WINDBG_STREAM := some client }
  | .push chunk => { self with SERIAL_IN_QUEUE := self.SERIAL_IN_QUEUE ++ chunk }
  | .disconnect => { self with WINDBG_STREAM := none }

/-- Data of an I/O exit, which is never empty. -/
structure IoData where
  bytes : List UInt8
  nonempty : bytes ≠ []

/-- Data of a memory-mapped I/O exit. -/
structure MmioData where
  bytes : List UInt8
  width : bytes.length = 1 ∨ bytes.length = 2 ∨ bytes.length = 4 ∨ bytes.length = 8

/-- The stop reasons that the event loop reports. -/
inductive BaseStopReason where
  | DoneStep
  | SIGTRAP
  | SIGSEGV
  deriving Repr, DecidableEq

/-- What the event loop does after an exit: go on, with the slice for the
    guest, report a stop, or hand a vector to the diagnostic trap and report a
    stop after it. -/
inductive Action where
  | resume (data : List UInt8)
  | trap (vector : UInt8)
  | stop (reason : BaseStopReason)
  deriving Repr, DecidableEq

/-- The `IoIn` arm of the event loop. -/
def Bridge.io_in (self : Bridge) (addr : UInt16) (data : List UInt8) : Result (List UInt8 × Bridge) :=
  if addr = 0x3F8 then do
    let data ← setIndex data 0 (self.SERIAL_IN_QUEUE.headD 0)
    return (data, { self with SERIAL_IN_QUEUE := self.SERIAL_IN_QUEUE.tail })
  else if addr = 0x3FD then do
    let data ← setIndex data 0 (if self.SERIAL_IN_QUEUE.isEmpty then 0x60 else 0x61)
    return (data, self)
  else return (data, self)

/-- The `IoOut` arm of the event loop. -/
def Bridge.io_out (self : Bridge) (addr : UInt16) (data : List UInt8) : Result (Action × Bridge) := do
  let val ← getIndex data 0
  if addr = 0xF9 then return (.trap val, self)
  else if addr = 0x3F8 then
    let printed := { self with console := self.console ++ [val] }
    match printed.WINDBG_STREAM with
    | some s => return (.resume data, { printed with forwarded := printed.forwarded ++ [(s, val)] })
    | none => return (.resume data, printed)
  else return (.resume data, self)

end vwfl.cpu
