import Vwfl.BitField
import Vwfl.Cpu.Handlers
import Vwfl.Rust.Bytes
import Vwfl.Transition.Run

open Rust LittleEndian Transition

namespace vwfl.cpu

/-- An access of the guest to the memory-mapped devices. The clock is what
    `elapsed` reads if the access asks for it. -/
inductive Access where
  | read (addr : UInt64) (data : List UInt8) (loop_count : UInt64) (clock : Instant)
  | write (addr : UInt64) (data : List UInt8)

/-- The main counter of the HPET, the current count and the initial count of the
    APIC timer. -/
def IsMainCounter (addr : UInt64) : Prop := IsHpet addr ∧ addr &&& 0x3FF = 0xF0

def IsCurrentCount (addr : UInt64) : Prop := IsApic addr ∧ addr &&& 0xFFF = 0x390

def IsInitialCount (addr : UInt64) : Prop := IsApic addr ∧ addr &&& 0xFFF = 0x380

instance (addr : UInt64) : Decidable (IsMainCounter addr) := inferInstanceAs (Decidable (_ ∧ _))

instance (addr : UInt64) : Decidable (IsCurrentCount addr) := inferInstanceAs (Decidable (_ ∧ _))

instance (addr : UInt64) : Decidable (IsInitialCount addr) := inferInstanceAs (Decidable (_ ∧ _))

/-- The devices and what the guest has seen of their timers: the clock at its
    last read, the initial count it wrote last, the 64-bit values it read from
    the main counter, and the current counts it read, each with the initial
    count of that time. -/
structure Timers where
  devices : Devices
  clock : Instant
  written : Option UInt32
  counters : List UInt64
  counts : List (UInt32 × Nat)

namespace Timers

/-- The timers as a vCPU starts. -/
def start (start_time : Instant) : Timers where
  devices := { Devices.initial with START_TIME := some start_time }
  clock := start_time
  written := none
  counters := []
  counts := []

/-- Counters after a read was answered. -/
def seenCounters (self : Timers) (addr : UInt64) (reply : List UInt8) : List UInt64 :=
  if IsMainCounter addr ∧ reply.length = 8 then self.counters ++ [toUInt64 reply] else self.counters

/-- Current counts after a read was answered. The register has 32 bits. -/
def seenCounts (self : Timers) (addr : UInt64) (reply : List UInt8) : List (UInt32 × Nat) :=
  if IsCurrentCount addr then
    self.counts ++ self.written.toList.map fun initial => (initial, number (reply.take 4))
  else self.counts

/-- One access. Its clock is not behind the last one, and its handler returns. -/
def step (profile : Profile) (self : Timers) : Access → Option Timers
  | .read addr data loop_count clock =>
    if self.clock ≤ clock then
      (handle_mmio_read profile self.devices clock addr data loop_count).toOption.map fun reply =>
        { self with clock, counters := self.seenCounters addr reply, counts := self.seenCounts addr reply }
    else none
  | .write addr data =>
    (handle_mmio_write self.devices addr data).toOption.map fun devices =>
      { self with
        devices
        written := if IsInitialCount addr then some (toUInt32 (data.take 4)) else self.written }

/-- Values of the main counter never decrease, and no current count exceeds the
    positive initial count that it counts down from. -/
structure WellBehaved (timers : Timers) : Prop where
  counters : timers.counters.Pairwise (· ≤ ·)
  counts : ∀ seen ∈ timers.counts, 0 < seen.1 → seen.2 ≤ seen.1.toNat

/-- An access in the range of the timers: the product that makes the main
    counter fits 64 bits, and the loop count that the current count is made of
    is at most the initial count. -/
def InRange (self : Timers) : Access → Prop
  | .read addr data loop_count clock =>
    (IsMainCounter addr ∧ data.length = 8 → ∀ start ∈ self.devices.START_TIME, (clock - start) * 1000000 < 2 ^ 64) ∧
      (IsCurrentCount addr → ∀ initial ∈ self.written, 0 < initial → loop_count.toNat % 2 ^ 16 ≤ initial.toNat)
  | .write _ _ => True

instance (self : Timers) (access : Access) : Decidable (self.InRange access) :=
  match access with
  | .read _ _ loop_count _ =>
    -- Over the option, not over all 32-bit words.
    letI : Decidable (∀ initial ∈ self.written, 0 < initial → loop_count.toNat % 2 ^ 16 ≤ initial.toNat) :=
      Option.decidableForallMem _
    inferInstanceAs (Decidable (_ ∧ _))
  | .write _ _ => inferInstanceAs (Decidable True)

end Timers

section Handlers

variable {profile : Profile} {self after : Devices} {clock : Instant} {addr loop_count : UInt64}
  {data reply : List UInt8}

private theorem copy_front_eq_ok {part : List UInt8} {stop : Nat} (h : copy_from_slice data 0 stop part = .ok reply) :
    part.length = stop ∧ reply = part ++ data.drop stop := by
  unfold copy_from_slice at h
  split at h
  · split at h
    · rename_i hlength
      rw [Nat.sub_zero] at hlength
      rw [← Except.ok.inj h, splice, List.take_zero, List.nil_append, Nat.zero_add, hlength]
      exact ⟨rfl, rfl⟩
    · cases h
  · cases h

/-- A whole value that replaces a slice of its width. -/
private theorem copy_whole_eq_ok {part : List UInt8} (h : copy_from_slice data 0 data.length part = .ok reply) :
    reply = part := by
  rw [(copy_front_eq_ok h).2, List.drop_length, List.append_nil]

/-- A read of eight bytes from the main counter gives its value. -/
theorem read_main_counter (haddr : IsMainCounter addr)
    (hread : handle_mmio_read profile self clock addr data loop_count = .ok reply) (hlength : reply.length = 8) :
    data.length = 8 ∧ self.main_counter profile clock loop_count = .ok (toUInt64 reply) := by
  obtain ⟨hhpet, hregister⟩ := haddr
  rw [handle_mmio_read, if_neg (not_isApic_of_isHpet hhpet), if_pos hhpet] at hread
  obtain ⟨value, hvalue, hread⟩ := bind_eq_ok_iff.mp hread
  rw [hregister] at hvalue
  have hvalue : self.main_counter profile clock loop_count = .ok value := hvalue
  dsimp only at hread
  split at hread
  · rename_i height
    rw [copy_whole_eq_ok hread, toUInt64_ofUInt64]
    exact ⟨height, hvalue⟩
  · rename_i hnot
    split at hread
    · rw [copy_whole_eq_ok hread, length_ofUInt32] at hlength
      cases hlength
    · rw [← Except.ok.inj hread] at hlength
      exact absurd hlength hnot

theorem number_take_le (bytes : List UInt8) (count : Nat) : number (bytes.take count) ≤ number bytes := by
  induction bytes generalizing count with
  | nil => simp
  | cons byte rest ih =>
    cases count with
    | zero => exact Nat.zero_le _
    | succ count =>
      have hrest := ih count
      rw [List.take_succ_cons, number, number]
      omega

/-- A read from the APIC gives the low bytes of a register. -/
theorem read_apic (haddr : IsApic addr)
    (hread : handle_mmio_read profile self clock addr data loop_count = .ok reply) :
    number (reply.take 4) ≤ (self.APIC.read (addr &&& 0xFFF) loop_count).toNat := by
  rw [handle_mmio_read, if_pos haddr] at hread
  obtain ⟨part, hpart, hcopy⟩ := bind_eq_ok_iff.mp hread
  generalize self.APIC.read (addr &&& 0xFFF) loop_count = value at hpart ⊢
  obtain ⟨hlength, rfl⟩ := copy_front_eq_ok hcopy
  rw [slice_of_le ⟨Nat.zero_le _, by rw [length_ofUInt32]; exact Nat.min_le_right _ _⟩] at hpart
  rw [List.drop_zero, Nat.sub_zero] at hpart
  -- At most four bytes are copied, and a longer slice keeps its own behind them.
  have hfront : (part ++ data.drop (min data.length 4)).take 4 = part := by
    by_cases hshort : data.length < 4
    · rw [Nat.min_eq_left (by omega), List.drop_length, List.append_nil, List.take_of_length_le (by omega)]
    · exact List.take_left' (by omega)
  have hvalue : number (ofUInt32 value) = value.toNat := by
    have hlt := value.toNat_lt
    rw [ofUInt32, number_bytes, Nat.mod_eq_of_lt (by omega)]
  rw [hfront, ← Except.ok.inj hpart, ← hvalue]
  exact number_take_le _ _

theorem ApicState.write_init_count (apic : ApicState) (register : UInt64) (val : UInt32) :
    (apic.write register val).init_count = if register = 0x380 then val else apic.init_count := by
  by_cases hcount : register = 0x380
  · rw [hcount]
    rfl
  · rw [if_neg hcount, ApicState.write]
    split
    · rfl
    · split
      · rfl
      · split
        · rfl
        · rfl

/-- A write moves the initial count exactly when it is addressed. -/
theorem write_init_count (hwrite : handle_mmio_write self addr data = .ok after) :
    after.APIC.init_count = if IsInitialCount addr then toUInt32 (data.take 4) else self.APIC.init_count := by
  rcases handle_mmio_write_eq_ok hwrite with ⟨hapic, rfl⟩ | rfl
  · rw [if_neg fun h => hapic h.1]
  · unfold Devices.written
    split
    · rename_i hapic
      simp only [IsInitialCount, hapic, true_and, ApicState.write_init_count]
    · rename_i hapic
      have hother : ¬ IsInitialCount addr := fun h => hapic h.1
      rw [if_neg hother]
      split
      · rfl
      · rfl

/-- Below 64 bits the main counter is proportional to the elapsed time. -/
theorem main_counter_toNat {start : Instant} {value : UInt64} (hstart : self.START_TIME = some start)
    (hfits : (clock - start) * 1000000 < 2 ^ 64) (hvalue : self.main_counter profile clock loop_count = .ok value) :
    value.toNat = (clock - start) * 1000000 := by
  have hscale : (1000000 : UInt64).toNat = 1000000 := rfl
  have helapsed : (UInt64.ofNat (clock - start)).toNat = clock - start :=
    UInt64.toNat_ofNat_of_lt' (Nat.lt_of_le_of_lt (Nat.le_mul_of_pos_right _ (by decide)) hfits)
  simp only [Devices.main_counter, hstart] at hvalue
  rw [(Profile.checked_eq_ok_iff.mp hvalue).2, UInt64.toNat_mul, helapsed, hscale, Nat.mod_eq_of_lt hfits]

/-- The count that is read is at most the initial count exactly when the masked
    loop count is. -/
theorem current_count_le_iff {apic : ApicState} (hpositive : 0 < apic.init_count) :
    apic.read 0x390 loop_count ≤ apic.init_count ↔ loop_count.toNat % 2 ^ 16 ≤ apic.init_count.toNat := by
  have hread : apic.read 0x390 loop_count = apic.init_count - (loop_count &&& 0xFFFF).toUInt32 := by
    have hregister : ∀ register : UInt64, register = 0x390 → register ≠ 0x20 ∧ register ≠ 0x30 ∧ register ≠ 0x80 ∧
        register ≠ 0xF0 ∧ register ≠ 0x320 ∧ register ≠ 0x380 := by
      rintro _ rfl
      decide
    obtain ⟨h20, h30, h80, hF0, h320, h380⟩ := hregister 0x390 rfl
    simp only [ApicState.read, h20, h30, h80, hF0, h320, h380, if_false, if_true, hpositive]
  have hmask : (loop_count &&& 0xFFFF).toUInt32.toNat = loop_count.toNat % 2 ^ 16 := by
    rw [UInt64.toNat_toUInt32, BitField.toNat_and_low _ _ 16 (by decide)]
    omega
  have hcount := apic.init_count.toNat_lt
  have hless := Nat.mod_lt loop_count.toNat (show 0 < 2 ^ 16 by decide)
  rw [hread, UInt32.le_iff_toNat_le, UInt32.toNat_sub, hmask]
  have hpositive := UInt32.lt_iff_toNat_lt.mp hpositive
  have hzero : (0 : UInt32).toNat = 0 := rfl
  omega

end Handlers

namespace Timers

/-- What is known of the timers at every moment: the clock has run since the
    start, the initial count is the one written last, and no value of the main
    counter is ahead of the clock. -/
structure Tracked (start_time : Instant) (timers : Timers) : Prop where
  started : timers.devices.START_TIME = some start_time
  init_count : timers.devices.APIC.init_count = timers.written.getD 0
  behind : ∀ value ∈ timers.counters, value.toNat ≤ (timers.clock - start_time) * 1000000

variable {profile : Profile} {start_time clock : Instant} {self after : Timers} {addr loop_count : UInt64}
  {data reply : List UInt8} {access : Access}

/-- A read in range is ahead of all values of the main counter before it. -/
theorem seenCounters_ordered (htracked : self.Tracked start_time) (hbefore : self.WellBehaved)
    (hclock : self.clock ≤ clock) (hrange : self.InRange (.read addr data loop_count clock))
    (hreply : handle_mmio_read profile self.devices clock addr data loop_count = .ok reply) :
    (self.seenCounters addr reply).Pairwise (· ≤ ·) ∧
      ∀ value ∈ self.seenCounters addr reply, value.toNat ≤ (clock - start_time) * 1000000 := by
  have helapsed : (self.clock - start_time) * 1000000 ≤ (clock - start_time) * 1000000 :=
    Nat.mul_le_mul_right _ (Nat.sub_le_sub_right hclock start_time)
  have hbehind : ∀ value ∈ self.counters, value.toNat ≤ (clock - start_time) * 1000000 :=
    fun value hvalue => Nat.le_trans (htracked.behind value hvalue) helapsed
  unfold seenCounters
  split
  · rename_i haccess
    obtain ⟨height, hcounter⟩ := read_main_counter haccess.1 hreply haccess.2
    have hvalue := main_counter_toNat htracked.started (hrange.1 ⟨haccess.1, height⟩ _ htracked.started) hcounter
    constructor
    · refine List.pairwise_append.mpr ⟨hbefore.counters, List.pairwise_singleton _ _, ?_⟩
      intro value hmem last hlast
      rw [List.mem_singleton.mp hlast, UInt64.le_iff_toNat_le, hvalue]
      exact hbehind value hmem
    · exact List.forall_mem_append.mpr ⟨hbehind, List.forall_mem_singleton.mpr hvalue.le⟩
  · exact ⟨hbefore.counters, hbehind⟩

/-- A read in range does not exceed the initial count. -/
theorem seenCounts_le (htracked : self.Tracked start_time) (hbefore : self.WellBehaved)
    (hrange : self.InRange (.read addr data loop_count clock))
    (hreply : handle_mmio_read profile self.devices clock addr data loop_count = .ok reply) :
    ∀ seen ∈ self.seenCounts addr reply, 0 < seen.1 → seen.2 ≤ seen.1.toNat := by
  unfold seenCounts
  split
  · rename_i haccess
    refine List.forall_mem_append.mpr ⟨hbefore.counts, ?_⟩
    rintro seen hseen hpositive
    obtain ⟨initial, hinitial, rfl⟩ := List.mem_map.mp hseen
    have hwritten : self.written = some initial := Option.mem_toList.mp hinitial
    have hcount : self.devices.APIC.init_count = initial := by rw [htracked.init_count, hwritten, Option.getD_some]
    have hread := read_apic haccess.1 hreply
    rw [haccess.2] at hread
    have hle := (current_count_le_iff (by rwa [hcount])).mpr (hcount ▸ hrange.2 haccess initial hwritten hpositive)
    rw [hcount, UInt32.le_iff_toNat_le] at hle
    exact Nat.le_trans hread hle
  · exact hbefore.counts

/-- An access in range keeps the timers well behaved. -/
theorem step_wellBehaved (htracked : self.Tracked start_time) (hbefore : self.WellBehaved)
    (hrange : self.InRange access) (hstep : self.step profile access = some after) :
    after.Tracked start_time ∧ after.WellBehaved := by
  cases access with
  | read addr data loop_count clock =>
    simp only [step] at hstep
    split at hstep
    · rename_i hclock
      obtain ⟨reply, hanswer, rfl⟩ := Option.map_eq_some_iff.mp hstep
      have hreply := toOption_eq_some hanswer
      obtain ⟨hordered, hbehind⟩ := seenCounters_ordered htracked hbefore hclock hrange hreply
      exact ⟨⟨htracked.started, htracked.init_count, hbehind⟩,
        ⟨hordered, seenCounts_le htracked hbefore hrange hreply⟩⟩
    · cases hstep
  | write addr data =>
    obtain ⟨devices, hanswer, rfl⟩ := Option.map_eq_some_iff.mp hstep
    have hwrite := toOption_eq_some hanswer
    refine ⟨⟨?_, ?_, htracked.behind⟩, ⟨hbefore.counters, hbefore.counts⟩⟩
    · rw [← htracked.started]
      exact handle_mmio_write_start_time hwrite
    · simp only [write_init_count hwrite]
      split
      · rfl
      · exact htracked.init_count

/-- In every run whose accesses are in range, the values of the main counter
    never decrease and no current count exceeds its initial count. -/
theorem run_wellBehaved (profile : Profile) (start_time : Instant) (accesses : List Access) (last : Timers)
    (hrun : Run (Allowed (fun self access after => self.step profile access = some after) InRange)
      (start start_time) accesses last) : last.WellBehaved := by
  have hstart : (start start_time).Tracked start_time ∧ (start start_time).WellBehaved :=
    ⟨⟨rfl, rfl, fun _ hnone => absurd hnone List.not_mem_nil⟩, ⟨.nil, fun _ hnone => absurd hnone List.not_mem_nil⟩⟩
  refine (hrun.invariant (fun self => self.Tracked start_time ∧ self.WellBehaved) hstart ?_).2
  rintro self access after ⟨htracked, hbefore⟩ ⟨hrange, hstep⟩
  exact step_wellBehaved htracked hbefore hrange hstep

/-- One access that is checked to be in range first. -/
def checkedStep (self : Timers) (access : Access) : Option Timers :=
  if self.InRange access then self.step .dev access else none

private theorem run_of_checkedStep {accesses : List Access} {first last : Timers}
    (h : accesses.foldlM checkedStep first = some last) :
    Run (Allowed (fun self access after => self.step .dev access = some after) InRange) first accesses last := by
  refine (run_of_foldlM h).mono fun before access after hstep => ?_
  unfold checkedStep at hstep
  split at hstep
  · rename_i hrange
    exact ⟨hrange, hstep⟩
  · cases hstep

/-- An initial count of 0x20000, read back after five passes, and two reads of
    the main counter in the first microseconds. -/
def earlyAccesses : List Access :=
  [.write 0xfee00380 [0, 0, 2, 0], .read 0xfee00390 [0, 0, 0, 0] 5 500,
    .read 0xfed000f0 [0, 0, 0, 0, 0, 0, 0, 0] 6 1000, .read 0xfed000f0 [0, 0, 0, 0, 0, 0, 0, 0] 7 2000]

theorem run_wellBehaved_early : ∃ last,
    Run (Allowed (fun self access after => self.step .dev access = some after) InRange) (start 0) earlyAccesses last ∧
      last.WellBehaved ∧ last.counters = [1000000000, 2000000000] ∧ last.counts = [(0x20000, 0x1FFFB)] := by
  have hseen : (earlyAccesses.foldlM checkedStep (start 0)).map (fun last => (last.counters, last.counts)) =
      some ([1000000000, 2000000000], [(0x20000, 0x1FFFB)]) := by decide +kernel
  obtain ⟨last, hlast, hvalues⟩ := Option.map_eq_some_iff.mp hseen
  injection hvalues with hcounters hcounts
  have hrun := run_of_checkedStep hlast
  exact ⟨last, hrun, run_wellBehaved .dev 0 earlyAccesses last hrun, hcounters, hcounts⟩

/-- An initial count of one, read back after two passes, and two reads of the
    main counter around the time when its product leaves 64 bits. -/
def lateAccesses : List Access :=
  [.write 0xfee00380 [1, 0, 0, 0], .read 0xfee00390 [0, 0, 0, 0] 2 500,
    .read 0xfed000f0 [0, 0, 0, 0, 0, 0, 0, 0] 3 18446744073709,
    .read 0xfed000f0 [0, 0, 0, 0, 0, 0, 0, 0] 4 18446744073710]

/-- The main counter falls back and the current count wraps around. -/
theorem not_wellBehaved_late : ∃ last,
    Run (fun self access after => self.step .release access = some after) (start 0) lateAccesses last ∧
      (¬ last.counters.Pairwise (· ≤ ·)) ∧ ¬ ∀ seen ∈ last.counts, 0 < seen.1 → seen.2 ≤ seen.1.toNat := by
  have hseen : (lateAccesses.foldlM (step .release) (start 0)).map (fun last => (last.counters, last.counts)) =
      some ([18446744073709000000, 448384], [(1, 0xFFFFFFFF)]) := by decide +kernel
  obtain ⟨last, hlast, hvalues⟩ := Option.map_eq_some_iff.mp hseen
  injection hvalues with hcounters hcounts
  refine ⟨last, run_of_foldlM hlast, ?_, ?_⟩
  · rw [hcounters]
    decide
  · rw [hcounts]
    decide

end Timers

end vwfl.cpu
