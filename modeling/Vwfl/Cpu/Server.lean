import Vwfl.Cpu.Bridge
import Mathlib.Logic.Function.Basic

open Rust

namespace vwfl.cpu

/-- The bridge with its clients. A client that was accepted has one reader
    thread for as long as it is connected; `incoming` holds the bytes that a
    client has sent and its thread has not read. -/
structure Server where
  bridge : Bridge
  accepted : List TcpStream
  connected : List TcpStream
  incoming : TcpStream → List UInt8

def Server.initial : Server where
  bridge := Bridge.initial
  accepted := []
  connected := []
  incoming := fun _ => []

/-- One step of the bridge's threads, of a client or of the event loop. Each
    step of the bridge takes a mutex once. -/
inductive ServerEvent where
  | accept (client : TcpStream)
  | send (client : TcpStream) (bytes : List UInt8)
  /-- A reader thread's read returned `count` bytes, which it queues. -/
  | read (client : TcpStream) (count : Nat)
  /-- A reader thread's read returned zero bytes. -/
  | disconnect (client : TcpStream)
  | io_in (addr : UInt16) (data : IoData)
  | io_out (addr : UInt16) (data : IoData)

/-- The size of a reader thread's buffer. -/
def readBuffer : Nat := 1024

def Server.step (self : Server) : ServerEvent → Option Server
  | .accept client =>
    if client ∈ self.accepted then none
    else some { self with
      bridge := self.bridge.apply (.accept client)
      accepted := self.accepted ++ [client]
      connected := self.connected ++ [client] }
  | .send client bytes =>
    some { self with incoming := Function.update self.incoming client (self.incoming client ++ bytes) }
  | .read client count =>
    if client ∈ self.connected ∧ 0 < count ∧ count ≤ readBuffer ∧ count ≤ (self.incoming client).length then
      some { self with
        bridge := self.bridge.apply (.push ((self.incoming client).take count))
        incoming := Function.update self.incoming client ((self.incoming client).drop count) }
    else none
  | .disconnect client =>
    if client ∈ self.connected then
      some { self with
        bridge := self.bridge.apply .disconnect
        connected := self.connected.filter (· ≠ client) }
    else none
  | .io_in addr data =>
    match self.bridge.io_in addr data.bytes with
    | .ok (_, bridge) => some { self with bridge }
    | .error _ => none
  | .io_out addr data =>
    match self.bridge.io_out addr data.bytes with
    | .ok (_, bridge) => some { self with bridge }
    | .error _ => none

def ServerStep (before : Server) (event : ServerEvent) (after : Server) : Prop := before.step event = some after

/-- The event loop's arms leave the stream slot to the bridge. -/
theorem Bridge.io_in_stream {self after : Bridge} {addr : UInt16} {data reply : List UInt8}
    (h : self.io_in addr data = .ok (reply, after)) : after.WINDBG_STREAM = self.WINDBG_STREAM := by
  unfold Bridge.io_in at h
  split at h
  · obtain ⟨_, _, hafter⟩ := bind_eq_ok_iff.mp h
    cases hafter
    rfl
  · split at h
    · obtain ⟨_, _, hafter⟩ := bind_eq_ok_iff.mp h
      cases hafter
      rfl
    · cases h
      rfl

theorem Bridge.io_out_keeps {self after : Bridge} {addr : UInt16} {data : List UInt8} {action : Action}
    (h : self.io_out addr data = .ok (action, after)) :
    after.WINDBG_STREAM = self.WINDBG_STREAM ∧ after.SERIAL_IN_QUEUE = self.SERIAL_IN_QUEUE := by
  unfold Bridge.io_out at h
  obtain ⟨val, _, h⟩ := bind_eq_ok_iff.mp h
  split at h
  · cases h
    exact ⟨rfl, rfl⟩
  · split at h
    · dsimp only at h
      split at h
      · cases h
        exact ⟨rfl, rfl⟩
      · cases h
        exact ⟨rfl, rfl⟩
    · cases h
      exact ⟨rfl, rfl⟩

end vwfl.cpu
