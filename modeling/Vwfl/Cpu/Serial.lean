import Vwfl.Cpu.Server
import Vwfl.Transition.Run

open Rust Transition

namespace vwfl.cpu

/-- A guest read of the data port: the byte it returned, whether the status
    port had announced it since the data read before, and whether the queue
    had a byte for it. -/
structure PortRead where
  value : UInt8
  polled : Bool
  queued : Bool
  deriving Repr, DecidableEq

/-- The bridge with a record of its serial input: every chunk that a reader
    thread queued, the bytes that each client has sent, whether the status port
    has announced data since the last data read, and every data read. -/
structure Observed where
  server : Server
  chunks : List (TcpStream × List UInt8)
  sent : TcpStream → List UInt8
  polled : Bool
  reads : List PortRead

def Observed.initial : Observed where
  server := Server.initial
  chunks := []
  sent := fun _ => []
  polled := false
  reads := []

/-- The byte that a guest's read of a port returns. -/
def Bridge.reply (self : Bridge) (addr : UInt16) (data : IoData) : UInt8 :=
  match self.io_in addr data.bytes with
  | .ok (reply, _) => reply.headD 0
  | .error _ => 0

/-- The record after a step of the bridge. -/
def Observed.record (self : Observed) (after : Server) : ServerEvent → Observed
  | .send client bytes =>
    { self with server := after, sent := Function.update self.sent client (self.sent client ++ bytes) }
  | .read client count =>
    { self with server := after, chunks := self.chunks ++ [(client, (self.server.incoming client).take count)] }
  | .io_in addr data =>
    let value := self.server.bridge.reply addr data
    if addr = 0x3F8 then
      let read := { value, polled := self.polled, queued := !self.server.bridge.SERIAL_IN_QUEUE.isEmpty }
      { self with server := after, polled := false, reads := self.reads ++ [read] }
    else if addr = 0x3FD then { self with server := after, polled := self.polled || value == 0x61 }
    else { self with server := after }
  | _ => { self with server := after }

def Observed.step (self : Observed) (event : ServerEvent) : Option Observed :=
  (self.server.step event).map fun after => self.record after event

/-- The bytes of the data reads that were announced or found a byte. -/
def Observed.delivered (self : Observed) : List UInt8 :=
  (self.reads.filter fun read => read.polled || read.queued).map PortRead.value

/-- The chunks that a client's reader thread queued. -/
def Observed.chunksOf (self : Observed) (client : TcpStream) : List (List UInt8) :=
  (self.chunks.filter fun chunk => chunk.1 = client).map Prod.snd

/-- Input is neither lost nor invented: what was delivered and what is queued
    is what was pushed, an announced read always finds a byte, and each client's
    chunks with its unread bytes are what it sent. -/
structure Observed.InOrder (observed : Observed) : Prop where
  order : observed.delivered ++ observed.server.bridge.SERIAL_IN_QUEUE = (observed.chunks.map Prod.snd).flatten
  announced : ∀ read ∈ observed.reads, read.polled = true → read.queued = true
  pending : observed.polled = true → observed.server.bridge.SERIAL_IN_QUEUE ≠ []
  clients : ∀ client, (observed.chunksOf client).flatten ++ observed.server.incoming client = observed.sent client

private theorem setIndex_first (data : IoData) (byte : UInt8) :
    setIndex data.bytes 0 byte = .ok (data.bytes.set 0 byte) ∧ (data.bytes.set 0 byte).headD 0 = byte := by
  obtain ⟨first, rest, hbytes⟩ := List.exists_cons_of_ne_nil data.nonempty
  rw [hbytes]
  exact ⟨rfl, rfl⟩

/-- A data read takes the first byte of the queue, or a filler. -/
theorem Bridge.io_in_data (self : Bridge) (data : IoData) :
    self.io_in 0x3F8 data.bytes =
        .ok (data.bytes.set 0 (self.SERIAL_IN_QUEUE.headD 0),
          { self with SERIAL_IN_QUEUE := self.SERIAL_IN_QUEUE.tail }) ∧
      self.reply 0x3F8 data = self.SERIAL_IN_QUEUE.headD 0 := by
  obtain ⟨hset, hhead⟩ := setIndex_first data (self.SERIAL_IN_QUEUE.headD 0)
  have hin : self.io_in 0x3F8 data.bytes = .ok (data.bytes.set 0 (self.SERIAL_IN_QUEUE.headD 0),
      { self with SERIAL_IN_QUEUE := self.SERIAL_IN_QUEUE.tail }) := by
    unfold Bridge.io_in
    rw [if_pos rfl, hset]
    rfl
  refine ⟨hin, ?_⟩
  unfold Bridge.reply
  rw [hin]
  exact hhead

/-- A status read announces data exactly when the queue has some. -/
theorem Bridge.io_in_status (self : Bridge) (data : IoData) :
    (∃ reply, self.io_in 0x3FD data.bytes = .ok (reply, self)) ∧
      (self.reply 0x3FD data = 0x61 ↔ self.SERIAL_IN_QUEUE ≠ []) := by
  obtain ⟨hset, hhead⟩ := setIndex_first data (if self.SERIAL_IN_QUEUE.isEmpty then 0x60 else 0x61)
  have hin : self.io_in 0x3FD data.bytes =
      .ok (data.bytes.set 0 (if self.SERIAL_IN_QUEUE.isEmpty then 0x60 else 0x61), self) := by
    unfold Bridge.io_in
    rw [if_neg (by decide), if_pos rfl, hset]
    rfl
  refine ⟨⟨_, hin⟩, ?_⟩
  unfold Bridge.reply
  rw [hin]
  simp only [hhead]
  cases self.SERIAL_IN_QUEUE with
  | nil => simp
  | cons byte rest => simp

theorem Bridge.io_in_other (self : Bridge) {addr : UInt16} (data : IoData) (hdata : addr ≠ 0x3F8)
    (hstatus : addr ≠ 0x3FD) : self.io_in addr data.bytes = .ok (data.bytes, self) := by
  unfold Bridge.io_in
  rw [if_neg hdata, if_neg hstatus]
  rfl

variable {before after : Observed}

/-- A chunk joins the queue behind what is there, and its client's chunks. -/
private theorem inOrder_read {client : TcpStream} {count : Nat} (h : before.InOrder)
    (hstep : before.step (.read client count) = some after) : after.InOrder := by
  obtain ⟨server, hserver, rfl⟩ := Option.map_eq_some_iff.mp hstep
  simp only [Server.step] at hserver
  split at hserver
  · rename_i hread
    cases hserver
    refine ⟨?_, h.announced, ?_, ?_⟩
    · simp only [Observed.record, Observed.delivered, Bridge.apply, List.map_append, List.map_singleton,
        List.flatten_append, List.flatten_singleton, ← h.order, List.append_assoc]
    · intro hpolled hempty
      exact h.pending hpolled (List.append_eq_nil_iff.mp hempty).1
    · intro other
      have hsent := h.clients other
      simp only [Observed.record, Observed.chunksOf] at hsent ⊢
      by_cases hsame : client = other
      · subst hsame
        rw [← hsent]
        simp
      · rw [Function.update_of_ne (Ne.symm hsame), ← hsent]
        simp [hsame]
  · cases hserver

private theorem inOrder_send {client : TcpStream} {bytes : List UInt8} (h : before.InOrder)
    (hstep : before.step (.send client bytes) = some after) : after.InOrder := by
  obtain ⟨server, hserver, rfl⟩ := Option.map_eq_some_iff.mp hstep
  cases hserver
  refine ⟨h.order, h.announced, h.pending, ?_⟩
  intro other
  have hsent := h.clients other
  simp only [Observed.record, Observed.chunksOf] at hsent ⊢
  by_cases hsame : other = client
  · subst hsame
    rw [Function.update_self, Function.update_self, ← List.append_assoc, hsent]
  · rw [Function.update_of_ne hsame, Function.update_of_ne hsame, hsent]

/-- A data read hands out the first byte of the queue. Only a read that was not
    announced can find the queue empty, and then the record leaves it out. -/
private theorem inOrder_data {data : IoData} (h : before.InOrder)
    (hstep : before.step (.io_in 0x3F8 data) = some after) : after.InOrder := by
  obtain ⟨server, hserver, rfl⟩ := Option.map_eq_some_iff.mp hstep
  obtain ⟨hin, hreply⟩ := before.server.bridge.io_in_data data
  simp only [Server.step, hin] at hserver
  cases hserver
  simp only [Observed.record, if_true]
  have horder := h.order
  cases hqueue : before.server.bridge.SERIAL_IN_QUEUE with
  | nil =>
    have hquiet : before.polled = false := by
      by_contra hpolled
      exact h.pending (by simpa using hpolled) hqueue
    rw [hqueue] at horder
    refine ⟨?_, ?_, fun hpolled => absurd hpolled (by simp), h.clients⟩
    · simpa [Observed.delivered, hquiet] using horder
    · refine List.forall_mem_append.mpr ⟨h.announced, List.forall_mem_singleton.mpr ?_⟩
      simp [hquiet]
  | cons byte rest =>
    rw [hqueue] at horder
    refine ⟨?_, ?_, fun hpolled => absurd hpolled (by simp), h.clients⟩
    · simpa [Observed.delivered, hreply, hqueue] using horder
    · refine List.forall_mem_append.mpr ⟨h.announced, List.forall_mem_singleton.mpr ?_⟩
      simp

/-- A status read changes nothing but what the guest knows. -/
private theorem inOrder_status {data : IoData} (h : before.InOrder)
    (hstep : before.step (.io_in 0x3FD data) = some after) : after.InOrder := by
  obtain ⟨server, hserver, rfl⟩ := Option.map_eq_some_iff.mp hstep
  obtain ⟨⟨reply, hin⟩, hannounced⟩ := before.server.bridge.io_in_status data
  simp only [Server.step, hin] at hserver
  cases hserver
  refine ⟨h.order, h.announced, ?_, h.clients⟩
  intro hpolled
  rcases Bool.or_eq_true_iff.mp hpolled with hearlier | hnow
  · exact h.pending hearlier
  · exact hannounced.mp (eq_of_beq hnow)

/-- The steps that neither queue nor take a byte. -/
private theorem inOrder_of_same {server : Server} (h : before.InOrder)
    (hqueue : server.bridge.SERIAL_IN_QUEUE = before.server.bridge.SERIAL_IN_QUEUE)
    (hincoming : server.incoming = before.server.incoming) : Observed.InOrder { before with server } := by
  refine ⟨?_, h.announced, ?_, ?_⟩
  · rw [hqueue]
    exact h.order
  · rw [hqueue]
    exact h.pending
  · rw [hincoming]
    exact h.clients

theorem Observed.step_inOrder {event : ServerEvent} (h : before.InOrder) (hstep : before.step event = some after) :
    after.InOrder := by
  cases event with
  | read client count => exact inOrder_read h hstep
  | send client bytes => exact inOrder_send h hstep
  | accept client =>
    obtain ⟨server, hserver, rfl⟩ := Option.map_eq_some_iff.mp hstep
    simp only [Server.step] at hserver
    split at hserver
    · cases hserver
    · cases hserver
      exact inOrder_of_same h rfl rfl
  | disconnect client =>
    obtain ⟨server, hserver, rfl⟩ := Option.map_eq_some_iff.mp hstep
    simp only [Server.step] at hserver
    split at hserver
    · cases hserver
      exact inOrder_of_same h rfl rfl
    · cases hserver
  | io_out addr data =>
    obtain ⟨server, hserver, rfl⟩ := Option.map_eq_some_iff.mp hstep
    simp only [Server.step] at hserver
    split at hserver
    · rename_i action bridge hout
      cases hserver
      exact inOrder_of_same h (Bridge.io_out_keeps hout).2 rfl
    · cases hserver
  | io_in addr data =>
    by_cases hdata : addr = 0x3F8
    · subst hdata
      exact inOrder_data h hstep
    · by_cases hstatus : addr = 0x3FD
      · subst hstatus
        exact inOrder_status h hstep
      · obtain ⟨server, hserver, rfl⟩ := Option.map_eq_some_iff.mp hstep
        simp only [Server.step, before.server.bridge.io_in_other data hdata hstatus] at hserver
        cases hserver
        simp only [Observed.record, hdata, hstatus, if_false]
        exact inOrder_of_same h rfl rfl

/-- In every interleaving of the clients, the reader threads and the guest, the
    announced data reads and those that find a byte hand out the pushed chunks
    in push order, with the rest still queued. An announced read never gets the
    filler, and each client's bytes are queued in the order it sent them. -/
theorem serial_in_order (events : List ServerEvent) (last : Observed)
    (hrun : Run (fun before event after => before.step event = some after) Observed.initial events last) :
    last.delivered ++ last.server.bridge.SERIAL_IN_QUEUE = (last.chunks.map Prod.snd).flatten ∧
      (∀ read ∈ last.reads, read.polled = true → read.queued = true) ∧
      ∀ client, (last.chunksOf client).flatten ++ last.server.incoming client = last.sent client := by
  have hstart : Observed.initial.InOrder :=
    ⟨rfl, fun _ hnone => absurd hnone List.not_mem_nil, fun hpolled => absurd hpolled (by decide), fun _ => rfl⟩
  have hlast : last.InOrder := hrun.invariant Observed.InOrder hstart
    fun _ _ _ h hstep => Observed.step_inOrder h hstep
  exact ⟨hlast.order, hlast.announced, hlast.clients⟩

/-- Two clients, a chunk of each, and one announced read. -/
def twoClients : List ServerEvent :=
  [.accept ⟨1⟩, .accept ⟨2⟩, .send ⟨2⟩ [0x42], .send ⟨1⟩ [0x41, 0x43], .read ⟨2⟩ 1, .io_in 0x3FD ⟨[0], by decide⟩,
    .read ⟨1⟩ 1, .io_in 0x3F8 ⟨[0], by decide⟩]

theorem serial_in_order_twoClients : ∃ last, twoClients.foldlM Observed.step Observed.initial = some last ∧
    last.reads = [⟨0x42, true, true⟩] ∧
    last.delivered ++ last.server.bridge.SERIAL_IN_QUEUE = (last.chunks.map Prod.snd).flatten ∧
    last.server.bridge.SERIAL_IN_QUEUE = [0x41] := by
  obtain ⟨last, hlast⟩ : ∃ last, twoClients.foldlM Observed.step Observed.initial = some last := ⟨_, rfl⟩
  refine ⟨last, hlast, ?_, (serial_in_order twoClients last (run_of_foldlM hlast)).1, ?_⟩
  · cases hlast
    rfl
  · cases hlast
    rfl

end vwfl.cpu
