import Vwfl.Gdb.Walk
import Vwfl.Rust.Slice

open Rust ByteStore
open vwfl.vm

namespace vwfl.gdb

/-- The request runs past the end of the 64-bit address space and its wrapped
    end lies in the mapping again. -/
def WrapsIntoMapping (address : UInt64) (length : Nat) : Prop :=
  2 ^ 64 ≤ address.toNat + length ∧ address.toNat + length ≤ 2 ^ 64 + MEM_SIZE.toNat

/-- Both debugger requests touch only host offsets of the mapping: a copy that
    touches another one ends the run with `ub`. -/
def VwflTarget.AddrsInBounds (profile : Profile) (self : VwflTarget) (start_addr : UInt64)
    (data : List UInt8) : Prop :=
  self.read_addrs profile start_addr data ≠ .error .ub ∧
    ∀ after, (VwflTarget.write_addrs profile start_addr data).run self ≠ .error .ub after

/-- Both accessors return `Err` exactly for ranges that leave the mapping, and
    an `Err` leaves the memory alone. -/
def AccessorsExact (profile : Profile) (self : Vm) (offset : UInt64) (data : List UInt8) : Prop :=
  ((∃ message, Vm.read_memory profile self offset data.length = .error (.err message)) ↔
      MEM_SIZE.toNat < offset.toNat + data.length) ∧
    ((∃ message after, (Vm.write_memory profile offset data).run self = .error (.err message) after) ↔
      MEM_SIZE.toNat < offset.toNat + data.length) ∧
    ∀ message after, (Vm.write_memory profile offset data).run self = .error (.err message) after →
      after = self

theorem accessorsExact_iff (self : Vm) (offset : UInt64) (data : U8Slice) :
    AccessorsExact .release self offset data.bytes ↔ ¬ WrapsIntoMapping offset data.length := by
  have hlength : data.bytes.length < 2 ^ 64 := by
    have := data.length_lt
    omega
  unfold AccessorsExact WrapsIntoMapping U8Slice.length
  rw [Vm.read_memory_release self offset hlength, Vm.write_memory_release self offset hlength]
  by_cases hfit : offset.toNat + data.bytes.length ≤ MEM_SIZE.toNat
  · have hsmall : ¬ MEM_SIZE.toNat < offset.toNat + data.bytes.length := by omega
    have hnowrap : ¬ (2 ^ 64 ≤ offset.toNat + data.bytes.length ∧
        offset.toNat + data.bytes.length ≤ 2 ^ 64 + MEM_SIZE.toNat) := by
      rw [MEM_SIZE_toNat] at hfit ⊢
      omega
    simp only [if_pos hfit, reduceCtorEq, exists_false, hsmall, hnowrap, not_false_eq_true,
      false_implies, implies_true, and_self]
  · have hpast : MEM_SIZE.toNat < offset.toNat + data.bytes.length := by omega
    simp only [if_neg hfit, hpast]
    split
    · rename_i hwrap
      simp only [hwrap, Except.error.injEq, reduceCtorEq, exists_false, iff_true, false_and, not_true_eq_false,
        and_self]
    · rename_i hwrap
      simp only [Except.error.injEq, Fault.err.injEq, exists_eq', EStateM.Result.error.injEq, true_and,
        iff_true]
      refine ⟨fun _ => hwrap, fun _ => ⟨⟨_, self, rfl, rfl⟩, ?_⟩⟩
      rintro message after ⟨_, rfl⟩
      rfl

/-- The physical address a request is served from. -/
private def served (self : VwflTarget) (start_addr : UInt64) : UInt64 :=
  UInt64.ofNat ((self.translation start_addr).getD start_addr.toNat)

private theorem read_addrs_stray_iff (self : VwflTarget) (start_addr : UInt64) (data : U8Slice) :
    self.read_addrs .release start_addr data.bytes = .error .ub ↔
      WrapsIntoMapping (served self start_addr) data.length := by
  have hlength : data.bytes.length < 2 ^ 64 := by
    have := data.length_lt
    omega
  unfold VwflTarget.read_addrs
  rw [VwflTarget.virt_to_phys_eq, ok_bind, Vm.read_memory_release self.vm _ hlength]
  unfold WrapsIntoMapping U8Slice.length served
  split
  · rename_i bytes hread
    split at hread
    · rename_i hfit
      rw [MEM_SIZE_toNat] at hfit ⊢
      simp only [pure, Except.pure, reduceCtorEq, false_iff]
      omega
    · split at hread <;> cases hread
  · rename_i message hread
    split at hread
    · cases hread
    · split at hread
      · cases hread
      · rename_i hwrap
        simp only [pure, Except.pure, reduceCtorEq, false_iff]
        exact hwrap
  · rename_i fault hfault hread
    split at hread
    · cases hread
    · split at hread
      · rename_i hwrap
        cases hread
        simp only [hwrap, and_self, iff_true]
        rfl
      · cases hread
        exact absurd rfl (hfault _)

private theorem write_addrs_stray_iff (self : VwflTarget) (start_addr : UInt64) (data : U8Slice) :
    (∃ after, (VwflTarget.write_addrs .release start_addr data.bytes).run self = .error .ub after) ↔
      WrapsIntoMapping (served self start_addr) data.length := by
  have hlength : data.bytes.length < 2 ^ 64 := by
    have := data.length_lt
    omega
  change (∃ after, VwflTarget.write_addrs .release start_addr data.bytes self = .error .ub after) ↔ _
  unfold VwflTarget.write_addrs
  rw [VwflTarget.virt_to_phys_eq]
  simp only [Vm.write_memory_release self.vm _ hlength]
  unfold WrapsIntoMapping U8Slice.length served
  split
  · rename_i after hwrite
    split at hwrite
    · rename_i hfit
      rw [MEM_SIZE_toNat] at hfit ⊢
      simp only [reduceCtorEq, exists_false, false_iff]
      omega
    · split at hwrite <;> cases hwrite
  · rename_i fault after hwrite
    split at hwrite
    · cases hwrite
    · split at hwrite
      · rename_i hwrap
        cases hwrite
        simp only [hwrap, and_self, iff_true]
        exact ⟨_, rfl⟩
      · rename_i hwrap
        cases hwrite
        simp only [EStateM.Result.error.injEq, reduceCtorEq, false_and, exists_false, false_iff]
        exact hwrap

private theorem served_wraps_iff (self : VwflTarget) (start_addr : UInt64) (data : U8Slice) :
    WrapsIntoMapping (served self start_addr) data.length ↔
      self.translation start_addr = none ∧ WrapsIntoMapping start_addr data.length := by
  have hlength := data.length_lt
  unfold served
  cases htarget : self.translation start_addr with
  | none => simp
  | some target =>
    have hsmall := VwflTarget.translation_lt htarget
    have hword : (UInt64.ofNat target).toNat = target := by
      rw [UInt64.toNat_ofNat']
      omega
    simp only [Option.getD_some, WrapsIntoMapping, U8Slice.length, hword, reduceCtorEq, false_and, iff_false]
    omega

/-- Exactly the requests that miss the page tables and wrap back into the
    mapping make the hypervisor leave its own memory, and exactly the wrapping
    ranges break the contract of the accessors. A mapped request never strays:
    its translation is far below the wrap. -/
theorem addrsInBounds_iff (self : VwflTarget) (start_addr offset : UInt64) (data : U8Slice) :
    (self.AddrsInBounds .release start_addr data.bytes ↔
      ¬ (self.translation start_addr = none ∧ WrapsIntoMapping start_addr data.length)) ∧
    (AccessorsExact .release self.vm offset data.bytes ↔ ¬ WrapsIntoMapping offset data.length) := by
  refine ⟨?_, accessorsExact_iff self.vm offset data⟩
  rw [← served_wraps_iff]
  unfold VwflTarget.AddrsInBounds
  constructor
  · rintro ⟨hread, _⟩ hwrap
    exact hread ((read_addrs_stray_iff self start_addr data).mpr hwrap)
  · intro hwrap
    refine ⟨fun hread => hwrap ((read_addrs_stray_iff self start_addr data).mp hread), ?_⟩
    intro after hwrite
    exact hwrap ((write_addrs_stray_iff self start_addr data).mp ⟨after, hwrite⟩)

/-- With empty tables a one-byte request at the top of the address space is
    served from host offset `2 ^ 64 - 1`. -/
theorem not_addrsInBounds_top :
    ¬ (⟨⟨fun _ => 0⟩, some ⟨0x8102000⟩⟩ : VwflTarget).AddrsInBounds .release 0xFFFFFFFFFFFFFFFF [0] := by
  rintro ⟨hread, _⟩
  exact hread (by decide +kernel)

end vwfl.gdb
