import Vwfl.Cpu.Timers

open Rust LittleEndian Transition

namespace vwfl.cpu

/-- The registers that the guest can write and read back. -/
inductive Register where
  | tpr
  | svr
  | lvt_timer
  | init_count
  | config
  deriving DecidableEq, Repr

namespace Register

def address : Register → UInt64
  | tpr => 0xfee00080
  | svr => 0xfee000f0
  | lvt_timer => 0xfee00320
  | init_count => 0xfee00380
  | config => 0xfed00010

def value (devices : Devices) : Register → UInt64
  | tpr => devices.APIC.tpr.toUInt64
  | svr => devices.APIC.svr.toUInt64
  | lvt_timer => devices.APIC.lvt_timer.toUInt64
  | init_count => devices.APIC.init_count.toUInt64
  | config => devices.HPET.config

/-- Value when nothing was written. -/
def reset : Register → Nat
  | tpr => 0
  | svr => 0x1FF
  | lvt_timer => 0x10000
  | init_count => 0
  | config => 0

/-- Width of a read that must give back the last write. -/
def ReadWidth (register : Register) (last : Option (List UInt8)) (width : Nat) : Prop :=
  match register, last with
  | config, some data => width = data.length
  | config, none => width = 4 ∨ width = 8
  | _, _ => width = 4

/-- What such a read must give. -/
def expected (register : Register) (last : Option (List UInt8)) (width : Nat) : List UInt8 :=
  match last with
  | some data => data.take width
  | none => bytes width register.reset

theorem readWidth_of_ne {register : Register} {last : Option (List UInt8)} {width : Nat} (hregister : register ≠ config)
    (h : register.ReadWidth last width) : width = 4 := by
  cases register with
  | config => exact absurd rfl hregister
  | tpr | svr | lvt_timer | init_count => exact h

end Register

section Handlers

variable {profile : Profile} {self after : Devices} {clock : Instant} {addr loop_count : UInt64} {data : List UInt8}

/-- Addresses of one page are told apart by their low bits. -/
private theorem eq_of_masked {first second mask : UInt64} (width : Nat) (hmask : mask.toNat = 2 ^ width - 1)
    (hpage : first.toNat / 2 ^ width = second.toNat / 2 ^ width) (h : first &&& mask = second &&& mask) :
    first = second := by
  have hlow := congrArg UInt64.toNat h
  rw [BitField.toNat_and_low _ _ width hmask, BitField.toNat_and_low _ _ width hmask] at hlow
  apply UInt64.toNat.inj
  rw [← Nat.div_add_mod first.toNat (2 ^ width), hpage, hlow, Nat.div_add_mod]

theorem eq_of_isApic {first second : UInt64} (hfirst : IsApic first) (hsecond : IsApic second)
    (h : first &&& 0xFFF = second &&& 0xFFF) : first = second := by
  have hpage : ∀ {addr}, IsApic addr → addr.toNat / 2 ^ 12 = 0xfee00 := by
    rintro addr ⟨hlow, hhigh⟩
    have hlow : 0xfee00000 ≤ addr.toNat := UInt64.le_iff_toNat_le.mp hlow
    have hhigh : addr.toNat ≤ 0xfee00fff := UInt64.le_iff_toNat_le.mp hhigh
    omega
  exact eq_of_masked 12 rfl ((hpage hfirst).trans (hpage hsecond).symm) h

theorem eq_of_isHpet {first second : UInt64} (hfirst : IsHpet first) (hsecond : IsHpet second)
    (h : first &&& 0x3FF = second &&& 0x3FF) : first = second := by
  have hpage : ∀ {addr}, IsHpet addr → addr.toNat / 2 ^ 10 = 0x3fb400 := by
    rintro addr ⟨hlow, hhigh⟩
    have hlow : 0xfed00000 ≤ addr.toNat := UInt64.le_iff_toNat_le.mp hlow
    have hhigh : addr.toNat ≤ 0xfed003ff := UInt64.le_iff_toNat_le.mp hhigh
    omega
  exact eq_of_masked 10 rfl ((hpage hfirst).trans (hpage hsecond).symm) h

namespace Register

theorem value_written_self (self : Devices) (register : Register) (val : UInt32) :
    register.value (self.written register.address val) = val.toUInt64 := by
  cases register <;> rfl

/-- The local APIC's writes at other offsets leave a register alone. -/
private theorem value_apic_write {register : Register} {offset : UInt64} {val : UInt32}
    (h : register ≠ config → offset ≠ register.address &&& 0xFFF) :
    register.value { self with APIC := self.APIC.write offset val } = register.value self := by
  unfold ApicState.write
  cases register with
  | tpr =>
    have hoffset : offset ≠ 0x80 := h (by decide)
    rw [if_neg hoffset]
    split_ifs <;> rfl
  | svr =>
    have hoffset : offset ≠ 0xF0 := h (by decide)
    split_ifs <;> rfl
  | lvt_timer =>
    have hoffset : offset ≠ 0x320 := h (by decide)
    split_ifs <;> rfl
  | init_count =>
    have hoffset : offset ≠ 0x380 := h (by decide)
    split_ifs <;> rfl
  | config => rfl

private theorem value_hpet_write {register : Register} {offset : UInt64} {val : UInt32}
    (h : register = config → offset ≠ 0x10) :
    register.value { self with HPET := self.HPET.write offset val } = register.value self := by
  unfold HpetState.write
  cases register with
  | config =>
    rw [if_neg (h rfl)]
    split_ifs <;> rfl
  | tpr | svr | lvt_timer | init_count => rfl

/-- A write at another address leaves a register alone. -/
theorem value_written_ne {register : Register} {val : UInt32} (h : addr ≠ register.address) :
    register.value (self.written addr val) = register.value self := by
  unfold Devices.written
  split
  · rename_i hapic
    refine value_apic_write fun hregister hoffset => h (eq_of_isApic hapic ?_ hoffset)
    cases register with
    | config => exact absurd rfl hregister
    | tpr | svr | lvt_timer | init_count => decide
  · split
    · rename_i hhpet
      refine value_hpet_write ?_
      rintro rfl hoffset
      exact h (eq_of_isHpet hhpet (by decide) hoffset)
    · rfl

/-- A register is read in four bytes, the HPET configuration also in eight. -/
theorem read_eq (self : Devices) (profile : Profile) (clock : Instant) (loop_count : UInt64) {register : Register}
    (hwidth : data.length = 4 ∨ register = config ∧ data.length = 8) :
    handle_mmio_read profile self clock register.address data loop_count =
      .ok (bytes data.length (register.value self).toNat) := by
  cases register with
  | config => exact handle_mmio_read_hpet_whole (by decide) (by simpa using hwidth) rfl
  | tpr | svr | lvt_timer | init_count =>
    have hlength : data.length = 4 := by simpa using hwidth
    rw [hlength]
    exact handle_mmio_read_apic_whole (by decide) hlength

end Register

end Handlers

/-- One access of the guest, if its handler returns. -/
def Devices.access (profile : Profile) (self : Devices) : Access → Option Devices
  | .read addr data loop_count clock =>
    (handle_mmio_read profile self clock addr data loop_count).toOption.map fun _ => self
  | .write addr data => (handle_mmio_write self addr data).toOption

/-- The statics with the given start time. -/
def Devices.start (start_time : Option Instant) : Devices := { Devices.initial with START_TIME := start_time }

def Access.data : Access → List UInt8
  | .read _ data _ _ => data
  | .write _ data => data

/-- The devices with the data that was last written to each register. -/
structure Recorded where
  devices : Devices
  last : Register → Option (List UInt8)

namespace Recorded

def start (start_time : Option Instant) : Recorded where
  devices := Devices.start start_time
  last := fun _ => none

/-- The record after an access. Only a write at a register's address counts as
    one to it. -/
def record (self : Recorded) (after : Devices) : Access → Recorded
  | .read _ _ _ _ => { self with devices := after }
  | .write addr data =>
    { devices := after, last := fun register => if addr = register.address then some data else self.last register }

/-- One access of four or eight bytes. -/
def Step (profile : Profile) (before : Recorded) (access : Access) (after : Recorded) : Prop :=
  (access.data.length = 4 ∨ access.data.length = 8) ∧
    (before.devices.access profile access).map (fun devices => before.record devices access) = some after

/-- Every read of a register gives the data written to it last. -/
def ReadsBack (profile : Profile) (self : Recorded) : Prop :=
  ∀ (register : Register) (data : List UInt8), register.ReadWidth (self.last register) data.length →
    ∀ (clock : Instant) (loop_count : UInt64),
      handle_mmio_read profile self.devices clock register.address data loop_count =
        .ok (register.expected (self.last register) data.length)

/-- A write to the HPET configuration has nothing in its upper half. -/
def Kept (_ : Recorded) : Access → Prop
  | .read _ _ _ _ => True
  | .write addr data => addr = Register.config.address → ∀ byte ∈ data.drop 4, byte = 0

/-- The registers hold the low four bytes of the last writes, which were four
    or eight bytes wide. -/
structure Tracked (recorded : Recorded) : Prop where
  widths : ∀ register, ∀ data ∈ recorded.last register, data.length = 4 ∨ data.length = 8
  values : ∀ register : Register, (register.value recorded.devices).toNat =
    match recorded.last register with
    | some data => number (data.take 4)
    | none => register.reset

variable {profile : Profile} {before after : Recorded} {access : Access}

theorem start_tracked (start_time : Option Instant) : (start start_time).Tracked where
  widths _ _ h := by cases h
  values register := by cases register <;> rfl

theorem step_tracked (h : before.Tracked) (hstep : Step profile before access after) : after.Tracked := by
  obtain ⟨hwidth, hstep⟩ := hstep
  obtain ⟨devices, haccess, rfl⟩ := Option.map_eq_some_iff.mp hstep
  cases access with
  | read addr data loop_count clock =>
    obtain ⟨_, _, rfl⟩ := Option.map_eq_some_iff.mp haccess
    exact h
  | write addr data =>
    have hfour : 4 ≤ data.length := by
      rcases hwidth with hwidth | hwidth
      · exact hwidth.ge
      · exact Nat.le_of_lt (by rw [show data.length = 8 from hwidth]; decide)
    rw [Devices.access, handle_mmio_write_of_le before.devices hfour] at haccess
    cases haccess
    constructor
    · intro register written hwritten
      simp only [record] at hwritten
      split at hwritten
      · cases hwritten
        exact hwidth
      · exact h.widths register written hwritten
    · intro register
      simp only [record]
      by_cases haddr : addr = register.address
      · subst haddr
        have hvalue := number_lt (data.take 4)
        rw [List.length_take, Nat.min_eq_left hfour] at hvalue
        rw [Register.value_written_self, if_pos rfl, UInt32.toNat_toUInt64, toUInt32, UInt32.toNat_ofNat']
        exact Nat.mod_eq_of_lt hvalue
      · rw [Register.value_written_ne haddr, if_neg haddr]
        exact h.values register

/-- Data is the encoding of its low four bytes exactly when the others are
    zero. -/
theorem bytes_number_take_iff {data : List UInt8} (hwidth : data.length = 4 ∨ data.length = 8) :
    bytes data.length (number (data.take 4)) = data ↔ ∀ byte ∈ data.drop 4, byte = 0 := by
  have hfront : (data.take 4).length = 4 := by
    rw [List.length_take]
    omega
  have hlow := bytes_number (data.take 4)
  have hsmall := number_lt (data.take 4)
  rw [hfront] at hlow hsmall
  rcases hwidth with hwidth | hwidth
  · rw [hwidth, hlow, List.take_of_length_le hwidth.le, List.drop_of_length_le hwidth.le]
    simp
  · have hzero : bytes 4 0 = List.replicate 4 0 := rfl
    rw [hwidth, bytes_add 4 4, hlow, Nat.div_eq_of_lt hsmall, hzero]
    constructor
    · intro h
      rw [← h, List.drop_left' hfront]
      exact fun byte hbyte => List.eq_of_mem_replicate hbyte
    · intro h
      have hrest : data.drop 4 = List.replicate 4 0 :=
        List.eq_replicate_iff.mpr ⟨by rw [List.length_drop, hwidth], h⟩
      rw [← hrest, List.take_append_drop]

/-- The registers read back what was written exactly when the last write to the
    HPET configuration fits its low half. -/
theorem Tracked.readsBack_iff_config (h : before.Tracked) :
    before.ReadsBack profile ↔ ∀ data ∈ before.last .config, ∀ byte ∈ data.drop 4, byte = 0 := by
  constructor
  · intro hreads data hdata
    have hdata : before.last .config = some data := hdata
    have hwidth := h.widths .config data hdata
    have hread := hreads .config data (by rw [hdata]; rfl) 0 0
    have hvalue := h.values .config
    rw [hdata] at hvalue
    rw [Register.read_eq before.devices profile 0 0 (by simpa using hwidth), hvalue, hdata] at hread
    rw [← bytes_number_take_iff hwidth]
    simpa [Register.expected] using hread
  · intro hkept register data hwidth clock loop_count
    have hvalue := h.values register
    by_cases hregister : register = .config
    · subst hregister
      cases hlast : before.last .config with
      | none =>
        rw [hlast] at hwidth hvalue
        rw [Register.read_eq before.devices profile clock loop_count (hwidth.imp_right fun height => ⟨rfl, height⟩),
          hvalue]
        rfl
      | some written =>
        have hwritten := h.widths .config written hlast
        rw [hlast] at hwidth hvalue
        have hlength : data.length = written.length := hwidth
        have hsame := (bytes_number_take_iff hwritten).mpr (hkept written hlast)
        rw [← hlength] at hwritten hsame
        rw [Register.read_eq before.devices profile clock loop_count (hwritten.imp_right fun height => ⟨rfl, height⟩),
          hvalue, hsame, Register.expected, hlength, List.take_length]
    · have hfour := Register.readWidth_of_ne hregister hwidth
      rw [Register.read_eq before.devices profile clock loop_count (.inl hfour), hvalue, hfour]
      cases hlast : before.last register with
      | none => rfl
      | some written =>
        have hwritten := h.widths register written hlast
        have hfront : (written.take 4).length = 4 := by
          rw [List.length_take]
          omega
        have hlow := bytes_number (written.take 4)
        rw [hfront] at hlow
        simp only [Register.expected, hlow]

/-- The runs in which every register always reads back what was written last
    are those that keep the upper half of the HPET configuration empty: a write
    to it drops these bytes. -/
theorem readsBack_iff (profile : Profile) (start_time : Option Instant) (accesses : List Access) (last : Recorded) :
    Run (Into (Step profile) (ReadsBack profile)) (start start_time) accesses last ↔
      Run (Allowed (Step profile) Kept) (start start_time) accesses last := by
  refine run_into_iff_allowed Tracked (start_tracked start_time) ?_ (fun _ _ _ => step_tracked) ?_
  · rw [(start_tracked start_time).readsBack_iff_config]
    intro data hdata
    cases hdata
  · intro before access after htracked hreads hstep
    rw [(step_tracked htracked hstep).readsBack_iff_config]
    rw [htracked.readsBack_iff_config] at hreads
    obtain ⟨devices, _, rfl⟩ := Option.map_eq_some_iff.mp hstep.2
    cases access with
    | read addr data loop_count clock => exact iff_of_true hreads trivial
    | write addr data =>
      simp only [record, Kept]
      by_cases haddr : addr = Register.config.address
      · simp only [haddr, if_true, true_implies, Option.mem_def, Option.some.injEq, forall_eq']
      · simp only [haddr, if_false, false_implies, iff_true]
        exact hreads

/-- A write of eight bytes to the HPET configuration with a bit in its upper
    half. -/
theorem not_readsBack_wide : ∃ last,
    Run (Step .release) (start (some 0)) [.write 0xfed00010 [1, 0, 0, 0, 1, 0, 0, 0]] last ∧
      ¬ last.ReadsBack .release := by
  have hstep : Step .release (start (some 0)) (.write 0xfed00010 [1, 0, 0, 0, 1, 0, 0, 0])
      ((start (some 0)).record ((start (some 0)).devices.written 0xfed00010 1)
        (.write 0xfed00010 [1, 0, 0, 0, 1, 0, 0, 0])) :=
    ⟨.inr rfl, rfl⟩
  refine ⟨_, .single hstep, fun hreads => ?_⟩
  have hread := hreads .config [0, 0, 0, 0, 0, 0, 0, 0] rfl 0 0
  exact absurd hread (by decide +kernel)

end Recorded

end vwfl.cpu
