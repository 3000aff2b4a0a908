import Vwfl.Cpu.Bridge
import Vwfl.Rust.Utf8Text
import Vwfl.Transition.Run

open Rust Transition

namespace vwfl.cpu

/-- The bytes of standard output: each value is printed as a character. -/
def Bridge.stdout (self : Bridge) : List UInt8 := self.console.flatMap fun val => charBytes (Char.ofNat val.toNat)

/-- The bridge with a record of its serial output: the bytes of all slices
    written to the data port, and those that a stream was connected for, each
    with its stream. -/
structure Output where
  bridge : Bridge
  written : List UInt8
  owed : List (TcpStream × UInt8)

def Output.initial : Output where
  bridge := Bridge.initial
  written := []
  owed := []

/-- An output instruction of the guest, or a thread of the bridge at work. -/
inductive OutputEvent where
  | io_out (addr : UInt16) (data : IoData)
  | bridge (step : BridgeStep)

/-- The bytes of a slice that the connected stream is owed. -/
def Bridge.owes (self : Bridge) (bytes : List UInt8) : List (TcpStream × UInt8) :=
  match self.WINDBG_STREAM with
  | some s => bytes.map fun byte => (s, byte)
  | none => []

def Output.record (self : Output) (addr : UInt16) (data : IoData) (after : Bridge) : Output :=
  if addr = 0x3F8 then
    { bridge := after, written := self.written ++ data.bytes, owed := self.owed ++ self.bridge.owes data.bytes }
  else { self with bridge := after }

def Output.step (self : Output) : OutputEvent → Option Output
  | .io_out addr data =>
    match self.bridge.io_out addr data.bytes with
    | .ok (_, after) => some (self.record addr data after)
    | .error _ => none
  | .bridge step => some { self with bridge := self.bridge.apply step }

def OutputStep (before : Output) (event : OutputEvent) (after : Output) : Prop := before.step event = some after

/-- The console and the streams got exactly the bytes that were written. -/
structure Output.Lossless (output : Output) : Prop where
  console : output.bridge.stdout = output.written
  streams : output.bridge.forwarded = output.owed

/-- A write to the data port carries one ASCII character. Without a stream
    there is one longer slice that is printed as it is. -/
def Output.Sendable (self : Output) : OutputEvent → Prop
  | .io_out addr data =>
    addr = 0x3F8 → (∃ byte < 0x80, data.bytes = [byte]) ∨
      self.bridge.WINDBG_STREAM = none ∧ data.bytes = [0xC3, 0x83]
  | .bridge _ => True

private theorem toNat_char {code : Nat} (h : code < 256) : (Char.ofNat code).toNat = code := by
  rw [Char.ofNat, dif_pos (Or.inl (by omega))]
  rfl

/-- The characters whose encoding starts with their own number. -/
theorem charBytes_eq_iff (val : UInt8) (rest : List UInt8) :
    charBytes (Char.ofNat val.toNat) = val :: rest ↔ val < 0x80 ∧ rest = [] ∨ val = 0xC3 ∧ rest = [0x83] := by
  have hlt := val.toNat_lt
  have hhalf : (0x80 : UInt8).toNat = 0x80 := rfl
  have hlead : (0xC3 : UInt8).toNat = 0xC3 := rfl
  unfold charBytes
  simp only [toNat_char hlt, UInt8.lt_iff_toNat_lt, hhalf]
  split
  · rename_i hascii
    rw [UInt8.ofNat_toNat, List.cons.injEq]
    constructor
    · rintro ⟨_, hrest⟩
      exact .inl ⟨hascii, hrest.symm⟩
    · rintro (⟨_, rfl⟩ | ⟨rfl, _⟩)
      · exact ⟨rfl, rfl⟩
      · exact absurd hascii (by decide)
  · rename_i hwide
    rw [if_pos (by omega), List.cons.injEq]
    constructor
    · rintro ⟨hfirst, hrest⟩
      have hnumber := congrArg UInt8.toNat hfirst
      rw [UInt8.toNat_ofNat'] at hnumber
      obtain rfl : val = 0xC3 := UInt8.toNat_inj.mp (by omega)
      exact .inr ⟨rfl, hrest.symm⟩
    · rintro (⟨hsmall, _⟩ | ⟨rfl, rfl⟩)
      · exact absurd hsmall hwide
      · exact ⟨rfl, rfl⟩

variable {before after : Output} {event : OutputEvent}

/-- A write to the data port prints its first byte and forwards it. -/
theorem Bridge.io_out_data (self : Bridge) (val : UInt8) (rest : List UInt8) :
    ∃ after : Bridge, self.io_out 0x3F8 (val :: rest) = .ok (.resume (val :: rest), after) ∧
      after.stdout = self.stdout ++ charBytes (Char.ofNat val.toNat) ∧
      after.forwarded = self.forwarded ++ self.owes [val] := by
  have hstdout : ∀ forwarded, Bridge.stdout { self with console := self.console ++ [val], forwarded } =
      self.stdout ++ charBytes (Char.ofNat val.toNat) := by
    intro forwarded
    simp only [Bridge.stdout, List.flatMap_append, List.flatMap_singleton]
  unfold Bridge.io_out Bridge.owes
  cases hslot : self.WINDBG_STREAM with
  | none =>
    refine ⟨{ self with console := self.console ++ [val] }, ?_, hstdout _, by simp⟩
    simp [getIndex, hslot, ok_bind, pure, Except.pure]
  | some s =>
    refine ⟨{ self with console := self.console ++ [val], forwarded := self.forwarded ++ [(s, val)] }, ?_, hstdout _,
      rfl⟩
    simp [getIndex, hslot, ok_bind, pure, Except.pure]

theorem Bridge.io_out_other {self after : Bridge} {addr : UInt16} {data : List UInt8} {action : Action}
    (haddr : addr ≠ 0x3F8) (h : self.io_out addr data = .ok (action, after)) : after = self := by
  unfold Bridge.io_out at h
  obtain ⟨val, _, h⟩ := bind_eq_ok_iff.mp h
  rw [if_neg haddr] at h
  split at h
  · cases h
    rfl
  · cases h
    rfl

/-- The slices that the console and the stream get whole. -/
private theorem delivered_iff (bridge : Bridge) (val : UInt8) (rest : List UInt8) :
    charBytes (Char.ofNat val.toNat) = val :: rest ∧ bridge.owes [val] = bridge.owes (val :: rest) ↔
      (∃ byte < 0x80, val :: rest = [byte]) ∨ bridge.WINDBG_STREAM = none ∧ val :: rest = [0xC3, 0x83] := by
  rw [charBytes_eq_iff]
  unfold Bridge.owes
  constructor
  · rintro ⟨⟨hascii, rfl⟩ | ⟨rfl, rfl⟩, hstream⟩
    · exact .inl ⟨val, hascii, rfl⟩
    · cases hslot : bridge.WINDBG_STREAM with
      | none => exact .inr ⟨rfl, rfl⟩
      | some s =>
        rw [hslot] at hstream
        cases hstream
  · rintro (⟨byte, hascii, hbytes⟩ | ⟨hslot, hbytes⟩)
    · cases hbytes
      exact ⟨.inl ⟨hascii, rfl⟩, rfl⟩
    · cases hbytes
      rw [hslot]
      exact ⟨.inr ⟨rfl, rfl⟩, rfl⟩

/-- From a state without loss, the next one has none exactly when the write is
    sendable. -/
theorem Output.step_lossless_iff (hlossless : before.Lossless) (h : OutputStep before event after) :
    after.Lossless ↔ before.Sendable event := by
  unfold OutputStep Output.step at h
  cases event with
  | bridge step =>
    cases h
    refine iff_of_true ?_ trivial
    cases step with
    | accept client => exact ⟨hlossless.console, hlossless.streams⟩
    | push chunk => exact ⟨hlossless.console, hlossless.streams⟩
    | disconnect => exact ⟨hlossless.console, hlossless.streams⟩
  | io_out addr data =>
    dsimp only at h
    by_cases haddr : addr = 0x3F8
    · subst haddr
      obtain ⟨val, rest, hbytes⟩ := List.exists_cons_of_ne_nil data.nonempty
      obtain ⟨bridge, hout, hstdout, hforwarded⟩ := before.bridge.io_out_data val rest
      simp only [hbytes, hout] at h
      cases h
      simp only [Output.Sendable, true_implies, hbytes, ← delivered_iff]
      constructor
      · rintro ⟨hconsole, hstreams⟩
        simp only [Output.record, if_true, hstdout, hforwarded, hbytes, hlossless.console, hlossless.streams]
          at hconsole hstreams
        exact ⟨List.append_cancel_left hconsole, List.append_cancel_left hstreams⟩
      · rintro ⟨hconsole, hstreams⟩
        constructor
        · simp only [Output.record, if_true, hstdout, hbytes, hlossless.console, hconsole]
        · simp only [Output.record, if_true, hforwarded, hbytes, hlossless.streams, hstreams]
    · refine iff_of_true ?_ fun h => absurd h haddr
      split at h
      · rename_i action bridge hout
        cases h
        rw [Bridge.io_out_other haddr hout, Output.record, if_neg haddr]
        exact hlossless
      · cases h

/-- The runs in which the console and the streams always have all the bytes
    that were written are those of writes of single characters: an exit with a
    longer slice loses all but its first byte, and a byte from `0x80` on is
    printed as two. -/
theorem lossless_iff (events : List OutputEvent) (last : Output) :
    Run (Into OutputStep Output.Lossless) Output.initial events last ↔
      Run (Allowed OutputStep Output.Sendable) Output.initial events last := by
  refine run_into_iff_allowed (fun _ => True) trivial ⟨rfl, rfl⟩ (fun _ _ _ _ _ => trivial) ?_
  exact fun _ _ _ _ hlossless hstep => Output.step_lossless_iff hlossless hstep

/-- A two-byte string instruction with a stream connected. -/
theorem not_lossless_two_bytes : ∃ last,
    Run OutputStep Output.initial [.bridge (.accept ⟨1⟩), .io_out 0x3F8 ⟨[0x41, 0x42], by decide⟩] last ∧
      last.written = [0x41, 0x42] ∧ last.bridge.stdout = [0x41] ∧ last.bridge.forwarded = [(⟨1⟩, 0x41)] ∧
      ¬ last.Lossless := by
  refine ⟨_, run_of_foldlM rfl, rfl, rfl, rfl, fun hlossless => ?_⟩
  exact absurd hlossless.console (by decide)

end vwfl.cpu
