import Vwfl.Cpu.Exits
import Vwfl.Vm.Effects

open Rust ByteStore LittleEndian
open vwfl.vm

namespace vwfl.cpu

def update_windows_time (profile : Profile) (count : UInt64) : VmM Unit := do
  let kuser_p : UInt64 := 0x9000000
  let virtual_time := count * 10000
  let time_bytes := ofUInt64 virtual_time
  let high_bytes := (virtual_time >>> 32).toUInt32
  Stateful.ok (Vm.write_memory profile (kuser_p + 0x08) time_bytes)
  Stateful.ok (Vm.write_memory profile (kuser_p + 0x10) (ofUInt32 high_bytes))
  Stateful.ok (Vm.write_memory profile (kuser_p + 0x14) time_bytes)
  Stateful.ok (Vm.write_memory profile (kuser_p + 0x1C) (ofUInt32 high_bytes))

/-- What the debugger's connection has to say: an error, a waiting byte (and
    whether it can be taken), or nothing. -/
inductive Peek where
  | failed
  | waiting (byte : UInt8) (readable : Bool)
  | empty

/-- The guest's turn: the memory it leaves behind, the exit and the clock while
    the exit is handled. -/
structure Ran where
  memory : Vm
  exit : VcpuExit
  clock : Instant

/-- What the world outside supplies to one pass of the loop. `ran` is absent
    when the vCPU cannot be entered. -/
structure Iteration where
  peek : Peek
  now : Instant
  ran : Option Ran

inductive GdbEvent where
  | IncomingData (byte : UInt8)
  | TargetStopped (reason : BaseStopReason)

inductive WaitForStopReasonError where
  | Connection
  | Target (message : String)

inductive Phase where
  /-- No call is in progress. -/
  | idle
  /-- A call is in its loop. -/
  | waiting
  /-- A call has failed or panicked, which ends the session. -/
  | over
  deriving DecidableEq

/-- One update of the shared time: the call and pass that made it and the
    memory right after it. -/
structure TimeUpdate where
  call : Nat
  loop_count : UInt64
  vm : Vm

/-- A debugger session. `loop_count` and `last_tick` are the locals of the call
    in progress. `calls` and `updates` record the session's history: the number
    of calls so far and every update of the shared time. -/
structure Session where
  vm : Vm
  host : Host
  phase : Phase
  loop_count : UInt64
  last_tick : Instant
  calls : Nat
  updates : List TimeUpdate

def tick_interval : Nat := 10000000

/-- The tick is due in this pass. -/
def Session.Due (self : Session) (iteration : Iteration) : Prop :=
  iteration.now - self.last_tick ≥ tick_interval

instance (self : Session) (iteration : Iteration) : Decidable (self.Due iteration) :=
  inferInstanceAs (Decidable (_ ≥ _))

/-- The update of the shared time, when it is due. -/
def Session.tick (profile : Profile) (self : Session) (iteration : Iteration) : EStateM.Result Fault Session Unit :=
  if self.Due iteration then
    match (update_windows_time profile self.loop_count).run self.vm with
    | .ok () vm =>
      let update := { call := self.calls, loop_count := self.loop_count, vm }
      .ok () { self with vm, last_tick := iteration.now, updates := self.updates ++ [update] }
    | .error fault vm => .error fault { self with vm }
  else .ok () self

section

-- The diagnostic trap of port 0xF9 reads the memory and sets registers of the vCPU.
variable (profile : Profile) (trap : UInt8 → Vm → Result Unit)

/-- The guest's turn and the dispatch on its exit. The pass ends the call when
    it has something to return. -/
def Session.enter (self : Session) (ran : Option Ran) :
    EStateM.Result Fault Session (Option (Except WaitForStopReasonError GdbEvent)) :=
  match ran with
  | none => .ok (some (.error (.Target "KVM Run Error"))) self
  | some ran =>
    let self := { self with vm := ran.memory }
    match handle_exit profile self.host ran.clock self.loop_count ran.exit with
    | .error fault => .error fault self
    | .ok (.resume _, host) => .ok none { self with host }
    | .ok (.stop reason, host) => .ok (some (.ok (.TargetStopped reason))) { self with host }
    | .ok (.trap vector, host) =>
      match attempt (trap vector self.vm) with
      | .error fault => .error fault { self with host }
      | .ok _ => .ok (some (.ok (.TargetStopped .SIGTRAP))) { self with host }

/-- One pass of the loop of `wait_for_stop_reason`. -/
def Session.pass (self : Session) (iteration : Iteration) :
    EStateM.Result Fault Session (Option (Except WaitForStopReasonError GdbEvent)) :=
  match profile.add64 self.loop_count 1 with
  | .error fault => .error fault self
  | .ok loop_count =>
    let self := { self with loop_count }
    match iteration.peek with
    | .failed => .ok (some (.error .Connection)) self
    | .waiting byte readable =>
      .ok (some (if readable then .ok (.IncomingData byte) else .error .Connection)) self
    | .empty =>
      match self.tick profile iteration with
      | .error fault self => .error fault self
      | .ok () self => self.enter profile trap iteration.ran

/-- A step of a session: the stub calls `wait_for_stop_reason` again, with the
    memory that its requests in between left, or the call makes one pass. -/
inductive SessionInput where
  | call (now : Instant) (vm : Vm)
  | pass (iteration : Iteration)

def Session.step (self : Session) : SessionInput → Option Session
  | .call now vm =>
    if self.phase = .idle then
      some { self with vm, phase := .waiting, loop_count := 0, last_tick := now, calls := self.calls + 1 }
    else none
  | .pass iteration =>
    if self.phase = .waiting then
      match self.pass profile trap iteration with
      | .ok none after => some after
      | .ok (some (.ok _)) after => some { after with phase := .idle }
      | .ok (some (.error _)) after => some { after with phase := .over }
      | .error _ after => some { after with phase := .over }
    else none

end

end vwfl.cpu
