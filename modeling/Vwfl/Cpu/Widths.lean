import Vwfl.Cpu.Registers

open Rust LittleEndian Transition

namespace vwfl.cpu

/-- One access of any width by the guest. -/
def DeviceStep (profile : Profile) (before : Devices) (access : Access) (after : Devices) : Prop :=
  before.access profile access = some after

/-- A read of eight bytes at an offset of the HPET gives the two reads of four
    bytes there, all of them at one time. -/
def WidthIndependent (profile : Profile) (self : Devices) (clock : Instant) (loop_count offset : UInt64) : Prop :=
  ∀ wide low high : List UInt8, wide.length = 8 → low.length = 4 → high.length = 4 →
    ∃ first second, handle_mmio_read profile self clock (0xFED00000 + offset) low loop_count = .ok first ∧
      handle_mmio_read profile self clock (0xFED00000 + offset + 4) high loop_count = .ok second ∧
      handle_mmio_read profile self clock (0xFED00000 + offset) wide loop_count = .ok (first ++ second)

/-- The product that makes the main counter, before it is cut to 64 bits. -/
def Devices.counterProduct (self : Devices) (clock : Instant) (loop_count : UInt64) : Nat :=
  match self.START_TIME with
  | some start => (clock - start) % 2 ^ 64 * 1000000
  | none => loop_count.toNat * 100000

/-- The product leaves the upper half of the main counter empty. -/
def Devices.CounterShort (profile : Profile) (self : Devices) (clock : Instant) (loop_count : UInt64) : Prop :=
  match profile with
  | .dev => self.counterProduct clock loop_count < 2 ^ 32
  | .release => self.counterProduct clock loop_count % 2 ^ 64 < 2 ^ 32

instance (profile : Profile) (self : Devices) (clock : Instant) (loop_count : UInt64) :
    Decidable (self.CounterShort profile clock loop_count) :=
  match profile with
  | .dev => inferInstanceAs (Decidable (_ < _))
  | .release => inferInstanceAs (Decidable (_ < _))

variable {profile : Profile} {self : Devices} {clock : Instant} {loop_count offset : UInt64}

theorem bytes_wide_eq_iff {value : Nat} (h : value < 2 ^ 64) :
    bytes 8 value = bytes 4 value ++ bytes 4 0 ↔ value < 2 ^ 32 := by
  rw [bytes_add 4 4, List.append_cancel_left_eq]
  constructor
  · intro hhigh
    have hnumber := congrArg number hhigh
    rw [number_bytes, number_bytes] at hnumber
    omega
  · intro hsmall
    rw [Nat.div_eq_of_lt (by omega)]

/-- Nothing is behind a register at the offset four above it, so the two widths
    agree exactly for values of the lower half. -/
theorem widthIndependent_iff_low (hlow : IsHpet (0xFED00000 + offset)) (hhigh : IsHpet (0xFED00000 + offset + 4))
    (hempty : self.read_hpet profile clock (0xFED00000 + offset + 4 &&& 0x3FF) loop_count = .ok 0) :
    WidthIndependent profile self clock loop_count offset ↔
      ∃ val, self.read_hpet profile clock (0xFED00000 + offset &&& 0x3FF) loop_count = .ok val ∧
        val.toNat < 2 ^ 32 := by
  have hupper : ∀ high : List UInt8, high.length = 4 →
      handle_mmio_read profile self clock (0xFED00000 + offset + 4) high loop_count = .ok (bytes 4 0) := by
    intro high hlength
    have hread := handle_mmio_read_hpet_whole hhigh (.inl hlength) hempty
    rwa [hlength] at hread
  constructor
  · intro hsame
    obtain ⟨first, second, hfirst, hsecond, hwide⟩ :=
      hsame (List.replicate 8 0) (List.replicate 4 0) (List.replicate 4 0) rfl rfl rfl
    cases hval : self.read_hpet profile clock (0xFED00000 + offset &&& 0x3FF) loop_count with
    | error fault =>
      rw [handle_mmio_read, if_neg (not_isApic_of_isHpet hlow), if_pos hlow, hval] at hfirst
      cases hfirst
    | ok val =>
      refine ⟨val, rfl, ?_⟩
      rw [handle_mmio_read_hpet_whole hlow (.inl rfl) hval] at hfirst
      rw [handle_mmio_read_hpet_whole hlow (.inr rfl) hval] at hwide
      rw [hupper _ rfl] at hsecond
      rw [← Except.ok.inj hfirst, ← Except.ok.inj hsecond] at hwide
      exact (bytes_wide_eq_iff val.toNat_lt).mp (Except.ok.inj hwide)
  · rintro ⟨val, hval, hsmall⟩ wide low high hwide hfour hhighFour
    refine ⟨bytes 4 val.toNat, bytes 4 0, ?_, hupper high hhighFour, ?_⟩
    · have hread := handle_mmio_read_hpet_whole hlow (.inl hfour) hval
      rwa [hfour] at hread
    · have hread := handle_mmio_read_hpet_whole hlow (.inr hwide) hval
      rwa [hwide, (bytes_wide_eq_iff val.toNat_lt).mpr hsmall] at hread

theorem main_counter_eq_ok_iff {val : UInt64} :
    self.main_counter profile clock loop_count = .ok val ↔
      (profile = .dev → self.counterProduct clock loop_count < 2 ^ 64) ∧
        val.toNat = self.counterProduct clock loop_count % 2 ^ 64 := by
  have hmul : ∀ {first second : UInt64}, profile.mul64 first second = .ok val ↔
      (profile = .dev → first.toNat * second.toNat < 2 ^ 64) ∧ val.toNat = first.toNat * second.toNat % 2 ^ 64 := by
    intro first second
    unfold Profile.mul64
    rw [Profile.checked_eq_ok_iff, decide_eq_false_iff_not, not_le, ← UInt64.toNat_inj, UInt64.toNat_mul]
  unfold Devices.main_counter Devices.counterProduct
  cases self.START_TIME with
  | none => exact hmul
  | some start =>
    have helapsed : (UInt64.ofNat (clock - start)).toNat = (clock - start) % 2 ^ 64 := UInt64.toNat_ofNat'
    rw [hmul, helapsed]
    rfl

theorem counterShort_iff : (∃ val, self.main_counter profile clock loop_count = .ok val ∧ val.toNat < 2 ^ 32) ↔
    self.CounterShort profile clock loop_count := by
  simp only [main_counter_eq_ok_iff]
  generalize hproduct : self.counterProduct clock loop_count = product
  have hword : (UInt64.ofNat product).toNat = product % 2 ^ 64 := UInt64.toNat_ofNat'
  unfold Devices.CounterShort
  rw [hproduct]
  cases profile with
  | dev =>
    constructor
    · rintro ⟨val, ⟨hfits, hval⟩, hsmall⟩
      have hfits := hfits rfl
      show product < 2 ^ 32
      omega
    · intro hsmall
      have hsmall : product < 2 ^ 32 := hsmall
      exact ⟨UInt64.ofNat product, ⟨fun _ => by omega, hword⟩, by omega⟩
  | release =>
    constructor
    · rintro ⟨val, ⟨_, hval⟩, hsmall⟩
      show product % 2 ^ 64 < 2 ^ 32
      omega
    · intro hsmall
      have hsmall : product % 2 ^ 64 < 2 ^ 32 := hsmall
      exact ⟨UInt64.ofNat product, ⟨fun h => (nomatch h), hword⟩, by omega⟩

/-- The configuration never leaves its lower half. -/
theorem config_lt {start_time : Option Instant} {accesses : List Access} {devices : Devices}
    (hrun : Run (DeviceStep profile) (Devices.start start_time) accesses devices) :
    devices.HPET.config.toNat < 2 ^ 32 := by
  have hstart : (Devices.start start_time).HPET.config = 0 := rfl
  refine hrun.invariant (fun devices => devices.HPET.config.toNat < 2 ^ 32) (by rw [hstart]; decide) ?_
  intro before access after hbefore hstep
  cases access with
  | read addr data loop_count clock =>
    obtain ⟨_, _, rfl⟩ := Option.map_eq_some_iff.mp hstep
    exact hbefore
  | write addr data =>
    rcases handle_mmio_write_eq_ok (toOption_eq_some hstep) with ⟨_, rfl⟩ | rfl
    · exact hbefore
    · by_cases haddr : addr = Register.config.address
      · subst haddr
        have hvalue := Register.value_written_self before .config (toUInt32 (data.take 4))
        change (Register.config.value _).toNat < 2 ^ 32
        rw [hvalue, UInt32.toNat_toUInt64]
        exact UInt32.toNat_lt _
      · change (Register.config.value _).toNat < 2 ^ 32
        rw [Register.value_written_ne haddr]
        exact hbefore

/-- In every state that the accesses of a guest reach, the identification
    register is never read alike in the two widths, the configuration always,
    and the main counter as long as its product leaves the upper half empty. -/
theorem widthIndependent_iff (profile : Profile) (start_time : Option Instant) (accesses : List Access)
    (devices : Devices) (hrun : Run (DeviceStep profile) (Devices.start start_time) accesses devices)
    (clock : Instant) (loop_count offset : UInt64) (hoffset : offset = 0x00 ∨ offset = 0x10 ∨ offset = 0xF0) :
    WidthIndependent profile devices clock loop_count offset ↔
      offset = 0x10 ∨ offset = 0xF0 ∧ devices.CounterShort profile clock loop_count := by
  rcases hoffset with rfl | rfl | rfl
  · refine iff_of_false ?_ (by rintro (h | ⟨h, _⟩) <;> exact absurd h (by decide))
    rw [widthIndependent_iff_low (by decide) (by decide) rfl]
    rintro ⟨val, hval, hsmall⟩
    cases hval
    exact absurd hsmall (by decide)
  · refine iff_of_true ?_ (.inl rfl)
    rw [widthIndependent_iff_low (by decide) (by decide) rfl]
    exact ⟨devices.HPET.config, rfl, config_lt hrun⟩
  · rw [widthIndependent_iff_low (by decide) (by decide) rfl]
    refine Iff.trans counterShort_iff ?_
    constructor
    · exact fun hshort => .inr ⟨rfl, hshort⟩
    · rintro (h | ⟨_, hshort⟩)
      · exact absurd h (by decide)
      · exact hshort

/-- The configuration that a guest wrote, and the main counter four microseconds
    after the start. -/
theorem widthIndependent_iff_written : ∃ devices,
    Run (DeviceStep .dev) (Devices.start (some 0)) [.write 0xfed00010 [3, 0, 0, 0]] devices ∧
      devices.HPET.config = 3 ∧ WidthIndependent .dev devices 4000 1 0x10 ∧
      WidthIndependent .dev devices 4000 1 0xF0 := by
  have hrun : Run (DeviceStep .dev) (Devices.start (some 0)) [.write 0xfed00010 [3, 0, 0, 0]]
      ((Devices.start (some 0)).written 0xfed00010 3) := .single rfl
  have hsame := widthIndependent_iff .dev (some 0) _ _ hrun 4000 1
  exact ⟨_, hrun, rfl, (hsame 0x10 (by decide)).mpr (.inl rfl), (hsame 0xF0 (by decide)).mpr (.inr ⟨rfl, by decide⟩)⟩

/-- The identification register has an upper half, and the read at its offset
    gives zero. -/
theorem not_widthIndependent_id :
    Run (DeviceStep .release) (Devices.start (some 0)) [] (Devices.start (some 0)) ∧
      ¬ WidthIndependent .release (Devices.start (some 0)) 0 1 0x00 := by
  refine ⟨.nil, fun hsame => ?_⟩
  obtain ⟨first, second, hfirst, hsecond, hwide⟩ := hsame (List.replicate 8 0) (List.replicate 4 0) (List.replicate 4 0)
    rfl rfl rfl
  have hlow : handle_mmio_read .release (Devices.start (some 0)) 0 (0xFED00000 + 0x00) (List.replicate 4 0) 1 =
      .ok [1, 0, 0, 0] := by decide +kernel
  have hhigh : handle_mmio_read .release (Devices.start (some 0)) 0 (0xFED00000 + 0x00 + 4) (List.replicate 4 0) 1 =
      .ok [0, 0, 0, 0] := by decide +kernel
  cases Except.ok.inj (hlow.symm.trans hfirst)
  cases Except.ok.inj (hhigh.symm.trans hsecond)
  exact absurd hwide (by decide +kernel)

end vwfl.cpu
