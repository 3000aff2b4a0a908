import Vwfl.Vm.Memory

open Rust ByteStore

namespace vwfl.vm

private theorem length_word {length : Nat} (h : length < 2 ^ 64) : (UInt64.ofNat length).toNat = length := by
  rw [UInt64.toNat_ofNat']
  exact Nat.mod_eq_of_lt h

private theorem bound_check_of_le (profile : Profile) {offset : UInt64} {length : Nat}
    (h : offset.toNat + length ≤ MEM_SIZE.toNat) :
    profile.add64 offset (UInt64.ofNat length) = .ok (offset + UInt64.ofNat length) ∧
      ¬ offset + UInt64.ofNat length > MEM_SIZE := by
  rw [MEM_SIZE_toNat] at h
  have hlength := length_word (show length < 2 ^ 64 by omega)
  refine ⟨profile.add64_of_lt (by omega), ?_⟩
  rw [gt_iff_lt, UInt64.lt_iff_toNat_lt, BitField.toNat_add_of_lt (by omega), hlength, MEM_SIZE_toNat]
  omega

/-- An access that ends inside the mapping stores its data, under both
    profiles. -/
theorem Vm.write_memory_of_le (profile : Profile) {offset : UInt64} {data : List UInt8} (self : Vm)
    (h : offset.toNat + data.length ≤ MEM_SIZE.toNat) :
    (Vm.write_memory profile offset data).run self =
      .ok () { self with mem := store self.mem offset.toNat data } := by
  obtain ⟨hsum, hcheck⟩ := bound_check_of_le profile h
  unfold Vm.write_memory
  rw [Stateful.bind_run, hsum, Stateful.lift_ok_run]
  simp only [if_neg hcheck]
  change Vm.copy_to offset data self = _
  rw [Vm.copy_to, if_pos h]

theorem Vm.read_memory_of_le (profile : Profile) (self : Vm) {offset : UInt64} {length : Nat}
    (h : offset.toNat + length ≤ MEM_SIZE.toNat) :
    Vm.read_memory profile self offset length = .ok (load self.mem offset.toNat length) := by
  obtain ⟨hsum, hcheck⟩ := bound_check_of_le profile h
  unfold Vm.read_memory
  rw [hsum, ok_bind, if_neg hcheck, Vm.copy_from, if_pos h]

private theorem bound_check_of_gt (profile : Profile) {offset : UInt64} {length : Nat}
    (h : MEM_SIZE.toNat < offset.toNat + length) (hword : offset.toNat + length < 2 ^ 64) :
    profile.add64 offset (UInt64.ofNat length) = .ok (offset + UInt64.ofNat length) ∧
      offset + UInt64.ofNat length > MEM_SIZE := by
  have hlength := length_word (show length < 2 ^ 64 by omega)
  refine ⟨profile.add64_of_lt (by omega), ?_⟩
  rw [gt_iff_lt, UInt64.lt_iff_toNat_lt, BitField.toNat_add_of_lt (by omega), hlength]
  exact h

/-- An access that leaves the mapping without wrapping is an error, under both
    profiles. -/
theorem Vm.read_memory_of_gt (profile : Profile) (self : Vm) {offset : UInt64} {length : Nat}
    (h : MEM_SIZE.toNat < offset.toNat + length) (hword : offset.toNat + length < 2 ^ 64) :
    Vm.read_memory profile self offset length = .error (.err "Memory read out of bounds") := by
  obtain ⟨hsum, hcheck⟩ := bound_check_of_gt profile h hword
  unfold Vm.read_memory
  rw [hsum, ok_bind, if_pos hcheck]
  rfl

theorem Vm.write_memory_of_gt (profile : Profile) {offset : UInt64} {data : List UInt8} (self : Vm)
    (h : MEM_SIZE.toNat < offset.toNat + data.length) (hword : offset.toNat + data.length < 2 ^ 64) :
    (Vm.write_memory profile offset data).run self = .error (.err "Memory write out of bounds") self := by
  obtain ⟨hsum, hcheck⟩ := bound_check_of_gt profile h hword
  unfold Vm.write_memory
  rw [Stateful.bind_run, hsum, Stateful.lift_ok_run]
  simp only [if_pos hcheck]
  rfl

/-- Only accesses inside the mapping return, whatever the wrapped bound check
    let through. -/
theorem Vm.write_memory_eq_ok {profile : Profile} {offset : UInt64} {data : List UInt8} {self after : Vm}
    (h : (Vm.write_memory profile offset data).run self = .ok () after) :
    offset.toNat + data.length ≤ MEM_SIZE.toNat ∧
      after = { self with mem := store self.mem offset.toNat data } := by
  have hbound : offset.toNat + data.length ≤ MEM_SIZE.toNat := by
    by_contra hnot
    unfold Vm.write_memory at h
    obtain ⟨sum, middle, _, h⟩ := Stateful.bind_run_eq_ok_iff.mp h
    split at h
    · cases h
    · change Vm.copy_to offset data middle = _ at h
      rw [Vm.copy_to, if_neg hnot] at h
      cases h
  refine ⟨hbound, ?_⟩
  rw [Vm.write_memory_of_le profile self hbound] at h
  injection h with _ hstate
  exact hstate.symm

theorem Vm.read_memory_eq_ok {profile : Profile} {self : Vm} {offset : UInt64} {length : Nat}
    {data : List UInt8} (h : Vm.read_memory profile self offset length = .ok data) :
    offset.toNat + length ≤ MEM_SIZE.toNat ∧ data = load self.mem offset.toNat length := by
  have hbound : offset.toNat + length ≤ MEM_SIZE.toNat := by
    by_contra hnot
    unfold Vm.read_memory at h
    obtain ⟨sum, _, h⟩ := bind_eq_ok_iff.mp h
    split at h
    · cases h
    · rw [Vm.copy_from, if_neg hnot] at h
      cases h
  refine ⟨hbound, ?_⟩
  rw [Vm.read_memory_of_le profile self hbound] at h
  injection h with hdata
  exact hdata.symm

/-- A write that does not return leaves the memory as it was. -/
theorem Vm.write_memory_error {profile : Profile} {offset : UInt64} {data : List UInt8} {self after : Vm}
    {fault : Fault} (h : (Vm.write_memory profile offset data).run self = .error fault after) :
    after = self := by
  unfold Vm.write_memory at h
  rw [Stateful.bind_run] at h
  cases hsum : profile.add64 offset (UInt64.ofNat data.length) with
  | error e =>
    rw [hsum, Stateful.lift_error_run] at h
    injection h with _ hstate
    exact hstate.symm
  | ok sum =>
    rw [hsum, Stateful.lift_ok_run] at h
    by_cases hcheck : sum > MEM_SIZE
    · simp only [if_pos hcheck] at h
      injection h with _ hstate
      exact hstate.symm
    · simp only [if_neg hcheck] at h
      change Vm.copy_to offset data self = _ at h
      unfold Vm.copy_to at h
      split at h
      · cases h
      · injection h with _ hstate
        exact hstate.symm

/-- Ignoring the result of a write stores the data when it fits and does
    nothing otherwise, as long as the wrapped check cannot let it stray. -/
theorem Vm.write_memory_ok_of_le (profile : Profile) {offset : UInt64} {data : List UInt8} (self : Vm)
    (h : offset.toNat + data.length ≤ MEM_SIZE.toNat) :
    (Stateful.ok (Vm.write_memory profile offset data)).run self =
      .ok () { self with mem := store self.mem offset.toNat data } :=
  Stateful.ok_run_of_ok (Vm.write_memory_of_le profile self h)

private theorem bound_check_release {offset : UInt64} {length : Nat} (hlength : length < 2 ^ 64) :
    offset + UInt64.ofNat length > MEM_SIZE ↔
      MEM_SIZE.toNat < offset.toNat + length ∧
        ¬ (2 ^ 64 ≤ offset.toNat + length ∧ offset.toNat + length ≤ 2 ^ 64 + MEM_SIZE.toNat) := by
  have hoffset := offset.toNat_lt
  rw [gt_iff_lt, UInt64.lt_iff_toNat_lt, UInt64.toNat_add, length_word hlength, MEM_SIZE_toNat]
  omega

/-- With wrapping addition a request that runs past the end of the address
    space passes the bound check whenever its wrapped end lies in the mapping. -/
theorem Vm.read_memory_release (self : Vm) (offset : UInt64) {length : Nat} (hlength : length < 2 ^ 64) :
    Vm.read_memory .release self offset length =
      if offset.toNat + length ≤ MEM_SIZE.toNat then .ok (load self.mem offset.toNat length)
      else if 2 ^ 64 ≤ offset.toNat + length ∧ offset.toNat + length ≤ 2 ^ 64 + MEM_SIZE.toNat then .error .ub
      else .error (.err "Memory read out of bounds") := by
  split
  · rename_i h
    exact Vm.read_memory_of_le .release self h
  · rename_i h
    unfold Vm.read_memory
    rw [Profile.add64_release, ok_bind]
    by_cases hwrap : 2 ^ 64 ≤ offset.toNat + length ∧ offset.toNat + length ≤ 2 ^ 64 + MEM_SIZE.toNat
    · have hcheck : ¬ offset + UInt64.ofNat length > MEM_SIZE :=
        (bound_check_release hlength).not.mpr fun hpast => hpast.2 hwrap
      rw [if_pos hwrap, if_neg hcheck, Vm.copy_from, if_neg h]
    · rw [if_neg hwrap, if_pos ((bound_check_release hlength).mpr ⟨by omega, hwrap⟩)]
      rfl

theorem Vm.write_memory_release (self : Vm) (offset : UInt64) {data : List UInt8}
    (hlength : data.length < 2 ^ 64) :
    (Vm.write_memory .release offset data).run self =
      if offset.toNat + data.length ≤ MEM_SIZE.toNat then
        .ok () { self with mem := store self.mem offset.toNat data }
      else if 2 ^ 64 ≤ offset.toNat + data.length ∧
          offset.toNat + data.length ≤ 2 ^ 64 + MEM_SIZE.toNat then .error .ub self
      else .error (.err "Memory write out of bounds") self := by
  split
  · rename_i h
    exact Vm.write_memory_of_le .release self h
  · rename_i h
    unfold Vm.write_memory
    rw [Stateful.bind_run, Profile.add64_release, Stateful.lift_ok_run]
    by_cases hwrap : 2 ^ 64 ≤ offset.toNat + data.length ∧
        offset.toNat + data.length ≤ 2 ^ 64 + MEM_SIZE.toNat
    · have hcheck : ¬ offset + UInt64.ofNat data.length > MEM_SIZE :=
        (bound_check_release hlength).not.mpr fun hpast => hpast.2 hwrap
      simp only [if_pos hwrap, if_neg hcheck]
      change Vm.copy_to offset data self = _
      rw [Vm.copy_to, if_neg h]
    · simp only [if_neg hwrap, if_pos ((bound_check_release hlength).mpr ⟨by omega, hwrap⟩)]
      rfl

end vwfl.vm
