import Vwfl.Cpu.Exits

open Rust LittleEndian

namespace vwfl.cpu

/-- The main counter of the HPET is still below 64 bits. -/
def CounterFits (start_time : Option Instant) (loop_count : UInt64) (clock : Instant) : Prop :=
  match start_time with
  | some start => (clock - start) % 2 ^ 64 * 1000000 < 2 ^ 64
  | none => loop_count.toNat * 100000 < 2 ^ 64

/-- An access that its handler has code for: a write to the local APIC carries
    a whole register, and the main counter of the HPET is read before its
    product leaves 64 bits. -/
def VcpuExit.Covered (start_time : Option Instant) (loop_count : UInt64) (clock : Instant) : VcpuExit → Prop
  | .MmioRead addr _ => IsHpet addr ∧ addr &&& 0x3FF = 0xF0 → CounterFits start_time loop_count clock
  | .MmioWrite addr data => IsApic addr → 4 ≤ data.bytes.length
  | _ => True

def Occurrence.Covered (start_time : Option Instant) : Occurrence → Prop
  | .exit cause loop_count clock => cause.Covered start_time loop_count clock
  | .bridge _ => True

/-- The devices after a write of a 32-bit value. -/
def Devices.written (self : Devices) (addr : UInt64) (val : UInt32) : Devices :=
  if IsApic addr then { self with APIC := self.APIC.write (addr &&& 0xFFF) val }
  else if IsHpet addr then { self with HPET := self.HPET.write (addr &&& 0x3FF) val }
  else self

variable {profile : Profile} {self after : Devices} {clock : Instant} {addr loop_count : UInt64} {data : List UInt8}

theorem not_isApic_of_isHpet (h : IsHpet addr) : ¬ IsApic addr := by
  rintro ⟨hlow, _⟩
  have hhigh := h.2
  rw [ge_iff_le, UInt64.le_iff_toNat_le] at hlow
  rw [UInt64.le_iff_toNat_le] at hhigh
  exact absurd (hlow.trans hhigh) (by decide)

/-- A read of four bytes from the local APIC gives a register. -/
theorem handle_mmio_read_apic_whole (haddr : IsApic addr) (hlength : data.length = 4) :
    handle_mmio_read profile self clock addr data loop_count =
      .ok (ofUInt32 (self.APIC.read (addr &&& 0xFFF) loop_count)) := by
  have hwhole := copy_from_slice_whole
    ((length_ofUInt32 (self.APIC.read (addr &&& 0xFFF) loop_count)).trans hlength.symm)
  rw [hlength] at hwhole
  unfold handle_mmio_read
  rw [if_pos haddr]
  generalize self.APIC.read (addr &&& 0xFFF) loop_count = val at hwhole ⊢
  have hslice : slice (ofUInt32 val) 0 4 = .ok (ofUInt32 val) := by
    rw [slice_of_le ⟨Nat.zero_le _, (length_ofUInt32 val).ge⟩, List.drop_zero, Nat.sub_zero,
      List.take_of_length_le (length_ofUInt32 val).le]
  simp only [hlength, Nat.min_self, hslice, ok_bind]
  exact hwhole

/-- A read of eight bytes from the HPET gives a register, a read of four bytes
    its low half. -/
theorem handle_mmio_read_hpet_whole (haddr : IsHpet addr) (hlength : data.length = 4 ∨ data.length = 8) {val : UInt64}
    (hval : self.read_hpet profile clock (addr &&& 0x3FF) loop_count = .ok val) :
    handle_mmio_read profile self clock addr data loop_count = .ok (bytes data.length val.toNat) := by
  unfold handle_mmio_read
  rw [if_neg (not_isApic_of_isHpet haddr), if_pos haddr, hval, ok_bind]
  rcases hlength with hfour | height
  · have hwhole := copy_from_slice_whole ((length_bytes 4 val.toNat).trans hfour.symm)
    rw [hfour] at hwhole ⊢
    simp only [ofUInt32_low]
    exact hwhole
  · have hwhole := copy_from_slice_whole ((length_bytes 8 val.toNat).trans height.symm)
    rw [height] at hwhole ⊢
    simp only [if_true, ofUInt64]
    exact hwhole

theorem handle_mmio_write_of_le (self : Devices) (h : 4 ≤ data.length) :
    handle_mmio_write self addr data = .ok (self.written addr (toUInt32 (data.take 4))) := by
  have hslice : slice data 0 4 = .ok (data.take 4) := slice_of_le ⟨Nat.zero_le _, h⟩
  unfold handle_mmio_write Devices.written
  simp only [hslice, ok_bind, ge_iff_le, h, if_true]
  split
  · rfl
  · split
    · rfl
    · rfl

/-- A slice shorter than a register is ignored by the HPET, not by the local
    APIC. -/
theorem handle_mmio_write_of_lt (self : Devices) (h : data.length < 4) :
    handle_mmio_write self addr data =
      if IsApic addr then .error (.panic "range out of range for slice") else .ok self := by
  have hslice : slice data 0 4 = .error (.panic "range out of range for slice") := if_neg (by omega)
  unfold handle_mmio_write
  simp only [hslice, error_bind, ge_iff_le, Nat.not_le.mpr h, if_false]
  rw [ite_self]
  rfl

theorem handle_mmio_write_eq_ok (h : handle_mmio_write self addr data = .ok after) :
    ¬ IsApic addr ∧ after = self ∨ after = self.written addr (toUInt32 (data.take 4)) := by
  by_cases hlength : 4 ≤ data.length
  · rw [handle_mmio_write_of_le self hlength] at h
    exact .inr (Except.ok.inj h).symm
  · rw [handle_mmio_write_of_lt self (Nat.not_le.mp hlength)] at h
    split at h
    · cases h
    · rename_i hapic
      exact .inl ⟨hapic, (Except.ok.inj h).symm⟩

private theorem mul64_returns_iff {first second : UInt64} :
    (∃ product, Profile.dev.mul64 first second = .ok product) ↔ first.toNat * second.toNat < 2 ^ 64 := by
  unfold Profile.mul64
  simp only [Profile.checked_eq_ok_iff, true_implies, decide_eq_false_iff_not, not_le, exists_and_left, exists_eq,
    and_true]

private theorem main_counter_returns_iff :
    (∃ value, self.main_counter .dev clock loop_count = .ok value) ↔
      CounterFits self.START_TIME loop_count clock := by
  unfold Devices.main_counter CounterFits
  cases self.START_TIME with
  | none => exact mul64_returns_iff
  | some start =>
    have helapsed : (UInt64.ofNat (clock - start)).toNat = (clock - start) % 2 ^ 64 := UInt64.toNat_ofNat'
    simp only [mul64_returns_iff, helapsed]
    rfl

private theorem read_hpet_returns_iff {register : UInt64} :
    (∃ value, self.read_hpet .dev clock register loop_count = .ok value) ↔
      (register = 0xF0 → ∃ value, self.main_counter .dev clock loop_count = .ok value) := by
  unfold Devices.read_hpet
  split
  · rename_i hid
    simp [hid]
  · split
    · rename_i hconfig
      simp [hconfig]
    · split
      · rename_i hcounter
        simp [hcounter]
      · rename_i hother
        simp [hother]

private theorem handle_mmio_read_apic (hapic : IsApic addr) :
    ∃ reply, handle_mmio_read .dev self clock addr data loop_count = .ok reply := by
  have hbytes := length_ofUInt32 (self.APIC.read (addr &&& 0xFFF) loop_count)
  unfold handle_mmio_read
  rw [if_pos hapic]
  dsimp only
  generalize ofUInt32 (self.APIC.read (addr &&& 0xFFF) loop_count) = bytes at hbytes
  have hslice : slice bytes 0 (min data.length 4) = .ok ((bytes.drop 0).take (min data.length 4 - 0)) :=
    slice_of_le ⟨by omega, by omega⟩
  simp only [hslice, ok_bind]
  unfold copy_from_slice
  exact ⟨_, by rw [if_pos (by omega), if_pos (by simp only [List.length_take, List.length_drop]; omega)]⟩

private theorem handle_mmio_read_hpet (hapic : ¬ IsApic addr) (hhpet : IsHpet addr) :
    (∃ reply, handle_mmio_read .dev self clock addr data loop_count = .ok reply) ↔
      ∃ value, self.read_hpet .dev clock (addr &&& 0x3FF) loop_count = .ok value := by
  cases hvalue : self.read_hpet .dev clock (addr &&& 0x3FF) loop_count with
  | error fault =>
    unfold handle_mmio_read
    rw [if_neg hapic, if_pos hhpet, hvalue]
    simp
  | ok value =>
    refine iff_of_true ?_ ⟨_, rfl⟩
    by_cases hwhole : data.length = 4 ∨ data.length = 8
    · exact ⟨_, handle_mmio_read_hpet_whole hhpet hwhole hvalue⟩
    · obtain ⟨hfour, height⟩ := not_or.mp hwhole
      refine ⟨data, ?_⟩
      unfold handle_mmio_read
      rw [if_neg hapic, if_pos hhpet, hvalue, ok_bind]
      simp only [hfour, height, if_false]
      rfl

private theorem handle_mmio_read_returns_iff (data : List UInt8) :
    (∃ reply, handle_mmio_read .dev self clock addr data loop_count = .ok reply) ↔
      (IsHpet addr ∧ addr &&& 0x3FF = 0xF0 → CounterFits self.START_TIME loop_count clock) := by
  by_cases hapic : IsApic addr
  · exact iff_of_true (handle_mmio_read_apic hapic) fun h => absurd hapic (not_isApic_of_isHpet h.1)
  · by_cases hhpet : IsHpet addr
    · rw [handle_mmio_read_hpet hapic hhpet, read_hpet_returns_iff, main_counter_returns_iff]
      simp only [hhpet, true_and]
    · refine iff_of_true ?_ fun h => absurd h.1 hhpet
      unfold handle_mmio_read
      rw [if_neg hapic, if_neg hhpet]
      exact ⟨data, rfl⟩

private theorem handle_mmio_write_returns_iff (self : Devices) :
    (∃ after, handle_mmio_write self addr data = .ok after) ↔ (IsApic addr → 4 ≤ data.length) := by
  by_cases hlength : 4 ≤ data.length
  · exact iff_of_true ⟨_, handle_mmio_write_of_le self hlength⟩ fun _ => hlength
  · rw [handle_mmio_write_of_lt self (Nat.not_le.mp hlength)]
    by_cases hapic : IsApic addr
    · simp [hapic, hlength]
    · simp [hapic]

theorem handle_mmio_write_start_time (h : handle_mmio_write self addr data = .ok after) :
    after.START_TIME = self.START_TIME := by
  rcases handle_mmio_write_eq_ok h with ⟨_, rfl⟩ | rfl
  · rfl
  · unfold Devices.written
    split
    · rfl
    · split
      · rfl
      · rfl

private theorem io_in_returns (bridge : Bridge) (port : UInt16) (data : IoData) :
    ∃ answer, bridge.io_in port data.bytes = .ok answer := by
  have hindex (byte : UInt8) : setIndex data.bytes 0 byte = .ok (data.bytes.set 0 byte) :=
    if_pos (List.length_pos_iff.mpr data.nonempty)
  unfold Bridge.io_in
  simp only [hindex, ok_bind]
  split
  · exact ⟨_, rfl⟩
  · split
    · exact ⟨_, rfl⟩
    · exact ⟨_, rfl⟩

private theorem io_out_returns (bridge : Bridge) (port : UInt16) (data : IoData) :
    ∃ answer, bridge.io_out port data.bytes = .ok answer := by
  obtain ⟨first, rest, hbytes⟩ := List.exists_cons_of_ne_nil data.nonempty
  unfold Bridge.io_out
  simp only [hbytes, getIndex, List.getElem?_cons_zero, ok_bind]
  split
  · exact ⟨_, rfl⟩
  · split
    · split
      · exact ⟨_, rfl⟩
      · exact ⟨_, rfl⟩
    · exact ⟨_, rfl⟩

/-- One exit is handled exactly when it is covered. -/
theorem handle_exit_returns_iff (host : Host) (clock : Instant) (loop_count : UInt64) (cause : VcpuExit) :
    (∃ outcome, handle_exit .dev host clock loop_count cause = .ok outcome) ↔
      cause.Covered host.devices.START_TIME loop_count clock := by
  cases cause with
  | MmioRead addr data =>
    refine Iff.trans ?_ (handle_mmio_read_returns_iff data.bytes)
    unfold handle_exit
    constructor
    · rintro ⟨outcome, hhandled⟩
      obtain ⟨reply, hreply, _⟩ := bind_eq_ok_iff.mp hhandled
      exact ⟨reply, hreply⟩
    · rintro ⟨reply, hreply⟩
      simp only [hreply, ok_bind]
      exact ⟨_, rfl⟩
  | MmioWrite addr data =>
    refine Iff.trans ?_ (handle_mmio_write_returns_iff host.devices)
    unfold handle_exit
    constructor
    · rintro ⟨outcome, hhandled⟩
      obtain ⟨devices, hdevices, _⟩ := bind_eq_ok_iff.mp hhandled
      exact ⟨devices, hdevices⟩
    · rintro ⟨devices, hdevices⟩
      simp only [hdevices, ok_bind]
      exact ⟨_, rfl⟩
  | IoIn port data =>
    obtain ⟨answer, hanswer⟩ := io_in_returns host.bridge port data
    unfold handle_exit
    simp only [hanswer, ok_bind]
    exact iff_of_true ⟨_, rfl⟩ trivial
  | IoOut port data =>
    obtain ⟨answer, hanswer⟩ := io_out_returns host.bridge port data
    unfold handle_exit
    simp only [hanswer, ok_bind]
    exact iff_of_true ⟨_, rfl⟩ trivial
  | Debug => exact iff_of_true ⟨_, rfl⟩ trivial
  | IrqWindowOpen => exact iff_of_true ⟨_, rfl⟩ trivial
  | Hlt => exact iff_of_true ⟨_, rfl⟩ trivial
  | Shutdown => exact iff_of_true ⟨_, rfl⟩ trivial
  | Unknown => exact iff_of_true ⟨_, rfl⟩ trivial

/-- No exit moves the start time. -/
theorem handle_exit_start_time {profile : Profile} {host after : Host} {action : Action} {cause : VcpuExit}
    (h : handle_exit profile host clock loop_count cause = .ok (action, after)) :
    after.devices.START_TIME = host.devices.START_TIME := by
  cases cause with
  | MmioRead addr data =>
    obtain ⟨reply, _, hafter⟩ := bind_eq_ok_iff.mp h
    cases hafter
    rfl
  | MmioWrite addr data =>
    obtain ⟨devices, hdevices, hafter⟩ := bind_eq_ok_iff.mp h
    cases hafter
    exact handle_mmio_write_start_time hdevices
  | IoIn port data =>
    obtain ⟨answer, _, hafter⟩ := bind_eq_ok_iff.mp h
    cases hafter
    rfl
  | IoOut port data =>
    obtain ⟨answer, _, hafter⟩ := bind_eq_ok_iff.mp h
    cases hafter
    rfl
  | Debug | IrqWindowOpen | Hlt | Shutdown | Unknown =>
    cases h
    rfl

private theorem occur_returns_iff (host : Host) (occurrence : Occurrence) :
    (∃ after, host.occur .dev occurrence = .ok after) ↔ occurrence.Covered host.devices.START_TIME := by
  cases occurrence with
  | bridge step => exact iff_of_true ⟨_, rfl⟩ trivial
  | exit cause loop_count clock =>
    refine Iff.trans ?_ (handle_exit_returns_iff host clock loop_count cause)
    unfold Host.occur
    constructor
    · rintro ⟨after, hoccur⟩
      obtain ⟨outcome, hhandled, _⟩ := bind_eq_ok_iff.mp hoccur
      exact ⟨outcome, hhandled⟩
    · rintro ⟨outcome, hhandled⟩
      simp only [hhandled, ok_bind]
      exact ⟨_, rfl⟩

private theorem occur_start_time {profile : Profile} {host after : Host} {occurrence : Occurrence}
    (h : host.occur profile occurrence = .ok after) :
    after.devices.START_TIME = host.devices.START_TIME := by
  cases occurrence with
  | bridge step =>
    cases h
    rfl
  | exit cause loop_count clock =>
    obtain ⟨⟨action, handled⟩, hhandled, hafter⟩ := bind_eq_ok_iff.mp h
    cases hafter
    exact handle_exit_start_time hhandled

/-- With overflow checks a run of exits returns exactly when every access in it
    is one that its handler has code for. The bridge threads cannot disturb the
    handlers. -/
theorem run_returns_iff (host : Host) (occurrences : List Occurrence) :
    (∃ after, host.run .dev occurrences = .ok after) ↔
      ∀ occurrence ∈ occurrences, occurrence.Covered host.devices.START_TIME := by
  induction occurrences generalizing host with
  | nil => exact iff_of_true ⟨host, rfl⟩ (by simp)
  | cons occurrence rest ih =>
    unfold Host.run at ih ⊢
    rw [List.foldlM_cons, List.forall_mem_cons, ← occur_returns_iff]
    constructor
    · rintro ⟨after, hrun⟩
      obtain ⟨middle, hoccur, hrest⟩ := bind_eq_ok_iff.mp hrun
      refine ⟨⟨middle, hoccur⟩, ?_⟩
      rw [← occur_start_time hoccur]
      exact (ih middle).mp ⟨after, hrest⟩
    · rintro ⟨⟨middle, hoccur⟩, hrest⟩
      rw [hoccur, ok_bind, ih, occur_start_time hoccur]
      exact hrest

/-- A run of the vCPU that was started at clock zero. -/
def startedHost : Host where
  devices := { Devices.initial with START_TIME := some 0 }
  bridge := Bridge.initial

/-- Reading the main counter six hours after the start overflows its product,
    and a two-byte write to the local APIC is sliced past its end. -/
theorem not_run_returns_late_counter :
    (¬ ∃ after, startedHost.run .dev
      [.exit (.MmioRead 0xfed000f0 ⟨[0, 0, 0, 0, 0, 0, 0, 0], by decide⟩) 1 21600000000000] = .ok after) ∧
    ¬ ∃ after, startedHost.run .dev [.exit (.MmioWrite 0xfee00080 ⟨[0, 0], by decide⟩) 1 0] = .ok after := by
  refine ⟨?_, ?_⟩
  · rintro ⟨after, hrun⟩
    have hpanic : startedHost.run .dev
        [.exit (.MmioRead 0xfed000f0 ⟨[0, 0, 0, 0, 0, 0, 0, 0], by decide⟩) 1 21600000000000] =
          .error (.panic "attempt to multiply with overflow") := rfl
    rw [hpanic] at hrun
    cases hrun
  · rintro ⟨after, hrun⟩
    have hpanic : startedHost.run .dev [.exit (.MmioWrite 0xfee00080 ⟨[0, 0], by decide⟩) 1 0] =
        .error (.panic "range out of range for slice") := rfl
    rw [hpanic] at hrun
    cases hrun

end vwfl.cpu
