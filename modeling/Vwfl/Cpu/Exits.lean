import Vwfl.Cpu.Bridge
import Vwfl.Cpu.Devices

open Rust

namespace vwfl.cpu

inductive VcpuExit where
  | Debug
  | IrqWindowOpen
  | IoIn (addr : UInt16) (data : IoData)
  | IoOut (addr : UInt16) (data : IoData)
  | MmioRead (addr : UInt64) (data : MmioData)
  | MmioWrite (addr : UInt64) (data : MmioData)
  | Hlt
  | Shutdown
  /-- Every other exit. -/
  | Unknown

/-- The host side of the devices. -/
structure Host where
  devices : Devices
  bridge : Bridge

/-- The dispatch of `wait_for_stop_reason` on an exit. `clock` is the clock
    while the exit is handled. -/
def handle_exit (profile : Profile) (self : Host) (clock : Instant) (loop_count : UInt64) :
    VcpuExit → Result (Action × Host)
  | .Debug => return (.stop .DoneStep, self)
  | .IrqWindowOpen => return (.resume [], self)
  | .IoIn addr data => do
    let (reply, bridge) ← self.bridge.io_in addr data.bytes
    return (.resume reply, { self with bridge })
  | .IoOut addr data => do
    let (action, bridge) ← self.bridge.io_out addr data.bytes
    return (action, { self with bridge })
  | .MmioRead addr data => do
    let reply ← handle_mmio_read profile self.devices clock addr data.bytes loop_count
    return (.resume reply, self)
  | .MmioWrite addr data => do
    let devices ← handle_mmio_write self.devices addr data.bytes
    return (.resume data.bytes, { self with devices })
  | .Hlt => return (.resume [], self)
  | .Shutdown => return (.stop .SIGSEGV, self)
  | .Unknown => return (.stop .SIGTRAP, self)

/-- What happens to the host's state: the guest exits, or a thread of the
    bridge takes a lock. -/
inductive Occurrence where
  | exit (cause : VcpuExit) (loop_count : UInt64) (clock : Instant)
  | bridge (step : BridgeStep)

def Host.occur (profile : Profile) (self : Host) : Occurrence → Result Host
  | .exit cause loop_count clock => do
    let (_, host) ← handle_exit profile self clock loop_count cause
    return host
  | .bridge step => return { self with bridge := self.bridge.apply step }

/-- A run of exits, interleaved with the bridge threads. -/
def Host.run (profile : Profile) (self : Host) (occurrences : List Occurrence) : Result Host :=
  occurrences.foldlM (Host.occur profile) self

end vwfl.cpu
