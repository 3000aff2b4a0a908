import Vwfl.Gdb.Bounds

open Rust ByteStore
open vwfl.vm

namespace vwfl.gdb

/-- The bound check of the accessors turns a range away: the range ends behind
    the mapping, and its end is computed without a panic and without wrapping
    back into the mapping. -/
def TurnedAway (profile : Profile) (offset : UInt64) (length : Nat) : Prop :=
  MEM_SIZE.toNat < offset.toNat + length ∧
    match profile with
    | .dev => offset.toNat + length < 2 ^ 64
    | .release => ¬ WrapsIntoMapping offset length

private theorem turnedAway_iff (profile : Profile) (offset : UInt64) {length : Nat} (hlength : length < 2 ^ 63) :
    TurnedAway profile offset length ↔
      ∃ sum, profile.add64 offset (UInt64.ofNat length) = .ok sum ∧ sum > MEM_SIZE := by
  have hoffset := offset.toNat_lt
  have hword : (UInt64.ofNat length).toNat = length := by
    rw [UInt64.toNat_ofNat']
    omega
  have hsum : offset + UInt64.ofNat length > MEM_SIZE ↔
      MEM_SIZE.toNat < (offset.toNat + length) % 2 ^ 64 := by
    rw [gt_iff_lt, UInt64.lt_iff_toNat_lt, UInt64.toNat_add, hword]
  unfold TurnedAway Profile.add64
  simp only [Profile.checked_eq_ok_iff, hword, decide_eq_false_iff_not, not_le]
  cases profile with
  | dev =>
    simp only [true_implies]
    constructor
    · rintro ⟨hpast, hfits⟩
      refine ⟨_, ⟨hfits, rfl⟩, hsum.mpr ?_⟩
      rw [Nat.mod_eq_of_lt hfits]
      exact hpast
    · rintro ⟨_, ⟨hfits, rfl⟩, hpast⟩
      rw [hsum, Nat.mod_eq_of_lt hfits] at hpast
      exact ⟨hpast, hfits⟩
  | release =>
    simp only [reduceCtorEq, false_implies, true_and, exists_eq_left, hsum, MEM_SIZE_toNat, WrapsIntoMapping]
    omega

private theorem read_memory_err_iff (profile : Profile) (self : Vm) (offset : UInt64) {length : Nat}
    (hlength : length < 2 ^ 63) :
    (∃ message, Vm.read_memory profile self offset length = .error (.err message)) ↔
      TurnedAway profile offset length := by
  rw [turnedAway_iff profile offset hlength]
  unfold Vm.read_memory
  rcases profile.add64_cases offset (UInt64.ofNat length) with hsum | hsum
  · rw [hsum, ok_bind]
    simp only [Except.ok.injEq, exists_eq_left']
    split
    · rename_i hpast
      exact ⟨fun _ => hpast, fun _ => ⟨_, rfl⟩⟩
    · rename_i hpast
      unfold Vm.copy_from
      split <;> simp [hpast]
  · rw [hsum, error_bind]
    simp

private theorem write_memory_err_iff (profile : Profile) (self : Vm) (offset : UInt64) {data : List UInt8}
    (hlength : data.length < 2 ^ 63) :
    (∃ message, (Vm.write_memory profile offset data).run self = .error (.err message) self) ↔
      TurnedAway profile offset data.length := by
  rw [turnedAway_iff profile offset hlength]
  unfold Vm.write_memory
  rw [Stateful.bind_run]
  rcases profile.add64_cases offset (UInt64.ofNat data.length) with hsum | hsum
  · rw [hsum, Stateful.lift_ok_run]
    simp only [Except.ok.injEq, exists_eq_left']
    split
    · rename_i hpast
      exact ⟨fun _ => hpast, fun _ => ⟨_, rfl⟩⟩
    · rename_i hpast
      change (∃ message, Vm.copy_to offset data self = .error (.err message) self) ↔ _
      unfold Vm.copy_to
      split <;> simp [hpast]
  · rw [hsum, Stateful.lift_error_run]
    simp

/-- Neither request takes effect: the write returns an error with the machine
    as it was, and the read reports no bytes. -/
def VwflTarget.FailsCleanly (profile : Profile) (self : VwflTarget) (start_addr : UInt64)
    (data : List UInt8) : Prop :=
  (∃ message, (VwflTarget.write_addrs profile start_addr data).run self = .error (.err message) self) ∧
    ∃ bytes, self.read_addrs profile start_addr data = .ok (0, bytes)

private theorem write_addrs_err_iff {profile : Profile} {self : VwflTarget} {start_addr paddr : UInt64}
    {data : List UInt8} (hpaddr : self.virt_to_phys profile start_addr = .ok paddr) :
    (∃ message, (VwflTarget.write_addrs profile start_addr data).run self = .error (.err message) self) ↔
      ∃ message, (Vm.write_memory profile paddr data).run self.vm = .error (.err message) self.vm := by
  change (∃ message, VwflTarget.write_addrs profile start_addr data self = _) ↔ _
  unfold VwflTarget.write_addrs
  simp only [hpaddr]
  cases hwrite : (Vm.write_memory profile paddr data).run self.vm with
  | ok _ vm => simp
  | error fault vm =>
    rw [Vm.write_memory_error hwrite]
    simp

/-- A read that reports no bytes for a buffer that has some was refused. -/
private theorem read_addrs_zero_iff {profile : Profile} {self : VwflTarget} {start_addr paddr : UInt64}
    {data : List UInt8} (hdata : data ≠ []) (hpaddr : self.virt_to_phys profile start_addr = .ok paddr) :
    (∃ bytes, self.read_addrs profile start_addr data = .ok (0, bytes)) ↔
      ∃ message, Vm.read_memory profile self.vm paddr data.length = .error (.err message) := by
  have hlength := List.length_pos_iff.mpr hdata
  unfold VwflTarget.read_addrs
  rw [hpaddr, ok_bind]
  cases hread : Vm.read_memory profile self.vm paddr data.length with
  | ok bytes =>
    simp only [pure, Except.pure, Except.ok.injEq, Prod.mk.injEq, reduceCtorEq, exists_false, iff_false]
    omega
  | error fault =>
    cases fault with
    | err message => simp [pure, Except.pure]
    | panic message => simp [throw, throwThe, MonadExceptOf.throw]
    | ub => simp [throw, throwThe, MonadExceptOf.throw]
    | diverge => simp [throw, throwThe, MonadExceptOf.throw]

/-- A request for an unmapped address is served from the physical address of
    the same number, so it fails exactly when that range is turned away. -/
theorem failsCleanly_iff (profile : Profile) (vm : Vm) (cr3 start_addr : UInt64) (data : U8Slice)
    (hdata : data.bytes ≠ []) (hunmapped : translate vm.mem cr3 start_addr = none) :
    (⟨vm, some ⟨cr3⟩⟩ : VwflTarget).FailsCleanly profile start_addr data.bytes ↔
      TurnedAway profile start_addr data.length := by
  have hpaddr : (⟨vm, some ⟨cr3⟩⟩ : VwflTarget).virt_to_phys profile start_addr = .ok start_addr := by
    rw [VwflTarget.virt_to_phys_eq]
    simp [VwflTarget.translation, hunmapped]
  unfold VwflTarget.FailsCleanly
  rw [write_addrs_err_iff hpaddr, read_addrs_zero_iff hdata hpaddr,
    write_memory_err_iff profile vm start_addr data.length_lt,
    read_memory_err_iff profile vm start_addr data.length_lt]
  exact and_self_iff

/-- An unmapped address behind the mapping is refused. -/
theorem failsCleanly_iff_high :
    (⟨⟨fun _ => 0⟩, some ⟨0x8102000⟩⟩ : VwflTarget).FailsCleanly .dev 0xFFFFF80000000000 [0xCC] :=
  (failsCleanly_iff .dev ⟨fun _ => 0⟩ 0x8102000 0xFFFFF80000000000 ⟨[0xCC], by decide⟩ (by decide)
    (by decide +kernel)).mpr (by unfold TurnedAway; decide)

/-- An unmapped address of the kernel image's physical range is written. -/
theorem not_failsCleanly_low :
    ¬ (translate (fun _ => 0) 0x8102000 0x200000 = none →
      (⟨⟨fun _ => 0⟩, some ⟨0x8102000⟩⟩ : VwflTarget).FailsCleanly .dev 0x200000 [0xCC]) := by
  intro hclean
  obtain ⟨_, bytes, hread⟩ := hclean (by decide +kernel)
  have hone : (⟨⟨fun _ => 0⟩, some ⟨0x8102000⟩⟩ : VwflTarget).read_addrs .dev 0x200000 [0xCC] = .ok (1, [0]) := by
    rfl
  rw [hone] at hread
  simp at hread

end vwfl.gdb
