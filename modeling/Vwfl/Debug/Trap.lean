import Vwfl.ByteStore.Patch
import Vwfl.Debug.Translate
import Vwfl.X86.Machine

open Rust ByteStore LittleEndian
open vwfl.vm vwfl.main

namespace vwfl.debug

/-- The registers as `get_regs` reports them and `set_regs` takes them. -/
abbrev kvm_regs := X86.Registers

/-- The calls of the vCPU whose errors the handlers return. -/
inductive Ioctl where
  | get_regs
  | get_sregs
  | set_regs
  deriving Repr, DecidableEq

/-- The guest while the vCPU is out of it. `refuses` is the error text of a
    call that fails. -/
structure Guest where
  vm : Vm
  regs : kvm_regs
  refuses : Ioctl → Option String

abbrev GuestM (α : Type) := Stateful Guest α

def Guest.call (ioctl : Ioctl) : GuestM Unit := fun guest =>
  match guest.refuses ioctl with
  | some message => .error (.err message) guest
  | none => .ok () guest

def Guest.get_regs : GuestM kvm_regs := do
  Guest.call .get_regs
  return (← get).regs

def Guest.set_regs (regs : kvm_regs) : GuestM Unit := do
  Guest.call .set_regs
  modify fun guest => { guest with regs }

/-- The word at a host offset. `none` is the returned `Err(())`. -/
def safe_read_u64 (profile : Profile) (vm : Vm) (paddr : UInt64) : Result (Option UInt64) := do
  let sum ← profile.add64 paddr 8
  if sum > MEM_SIZE then return none
  else return some (toUInt64 (← vm.copy_from paddr 8))

def safe_read_bytes (profile : Profile) (vm : Vm) (paddr : UInt64) (size : Nat) : Result (Option (List UInt8)) := do
  let sum ← profile.add64 paddr (UInt64.ofNat size)
  if sum > MEM_SIZE then return none
  else return some (← vm.copy_from paddr size)

/-- The bytes that the dump prints; nothing outside the mapping. -/
def hex_dump_bytes (profile : Profile) (vm : Vm) (paddr : UInt64) (size : Nat) : Result (List UInt8) := do
  let sum ← profile.add64 paddr (UInt64.ofNat size)
  if sum > MEM_SIZE then return []
  else vm.copy_from paddr size

/-- The register dump reads the registers and the loader block, and changes
    nothing. -/
def dump_all_registers (profile : Profile) : GuestM Unit := do
  let _ ← Guest.get_regs
  Guest.call .get_sregs
  let _ ← hex_dump_bytes profile (← get).vm 0x4000000 0x100
  return ()

/-- The loop that passes the padding. -/
def skipPadding (profile : Profile) (vm : Vm) : Nat → UInt64 → Result UInt64
  | 0, _ => .error .diverge
  | fuel + 1, final_rip =>
    match virt_to_phys final_rip with
    | none => .ok final_rip
    | some p => do
      match ← safe_read_bytes profile vm p 1 with
      | some (0xCC :: _) => skipPadding profile vm fuel (← profile.add64 final_rip 1)
      | _ => return final_rip

/-- More rounds than any run of translated addresses allows. -/
def paddingFuel : Nat := 0x200000001

def has_error_code (vector : UInt8) : Bool := vector ∈ [8, 10, 11, 12, 13, 14, 17, 30]

/-- The diagnostic trap: breakpoints and debug services go back to the guest,
    every other vector is dumped. -/
def handle_diagnostic_trap (profile : Profile) (vector : UInt8) : GuestM Unit := do
  let save_area_phys := SYSTEM_BASE + 0x60000
  let regs ← Guest.get_regs
  match virt_to_phys regs.rsp with
  | none => dump_all_registers profile
  | some rsp_phys =>
    let vm := (← get).vm
    if has_error_code vector then
      let _ ← safe_read_u64 profile vm rsp_phys
    let offset : UInt64 := if has_error_code vector then 8 else 0
    let frame ← profile.add64 rsp_phys offset
    let pushed_rip := (← safe_read_u64 profile vm frame).getD 0
    let old_rflags := (← safe_read_u64 profile vm (← profile.add64 frame 16)).getD 0
    let old_rsp := (← safe_read_u64 profile vm (← profile.add64 frame 24)).getD 0
    let orig_rax := (← safe_read_u64 profile vm save_area_phys).getD 0
    let orig_rcx := (← safe_read_u64 profile vm (save_area_phys + 8)).getD 0
    let orig_rdx := (← safe_read_u64 profile vm (save_area_phys + 16)).getD 0
    if vector = 3 ∨ vector = 0x2d then
      -- A debug service reports success in rax.
      let rax := if vector = 0x2d then 0 else orig_rax
      let rip ← skipPadding profile vm paddingFuel pushed_rip
      Guest.set_regs { regs with
        rax, rcx := orig_rcx, rdx := orig_rdx, rip, rsp := old_rsp, rflags := old_rflags &&& ~~~ 0x100 }
    else dump_all_registers profile

/-- An address without padding: nothing is mapped there for the handler, or
    another byte than the breakpoint. -/
def Stops (mem : Nat → UInt8) (address : UInt64) : Prop :=
  ∀ paddr, virt_to_phys address = some paddr → mem paddr.toNat ≠ 0xCC

/-- The first address from `start` on that has no padding. -/
structure FirstStop (mem : Nat → UInt8) (start address : UInt64) : Prop where
  at_or_after : start.toNat ≤ address.toNat
  stops : Stops mem address
  first : ∀ between : UInt64, start.toNat ≤ between.toNat → between.toNat < address.toNat → ¬ Stops mem between

/-- Translated addresses lie in the mapping and below the end of the address
    space. -/
theorem virt_to_phys_lt {vaddr paddr : UInt64} (h : virt_to_phys vaddr = some paddr) :
    paddr.toNat < MEM_SIZE.toNat ∧ vaddr.toNat + 0x200000000 < 2 ^ 64 := by
  have hsize := MEM_SIZE_toNat
  rcases virt_to_phys_cases h with ⟨offset, hoffset, hvaddr, hpaddr⟩ | ⟨offset, hoffset, hvaddr, hpaddr⟩ |
    ⟨offset, hoffset, hvaddr, hpaddr⟩ | ⟨offset, hoffset, hvaddr, hpaddr⟩ | ⟨hlow, _, rfl⟩
  all_goals omega

/-- Every run of translated addresses ends. -/
theorem exists_untranslated (start : UInt64) :
    ∃ count < paddingFuel, start.toNat + count < 2 ^ 64 ∧ virt_to_phys (start + UInt64.ofNat count) = none := by
  have hsize := MEM_SIZE_toNat
  have hbelow := start.toNat_lt
  -- The first address behind the range of `start` belongs to no range.
  have hend : ∀ count last : Nat, start.toNat + count = last → last < 2 ^ 64 →
      (last = 0xFFFFF80000000000 + 2 ^ 30 ∨ last = 0x200000000 ∨ last = 0xFFFFFE8000000000 + 2 ^ 30 ∨
        last = 0xFFFFF78000000000 + 0x200000) → virt_to_phys (start + UInt64.ofNat count) = none := by
    intro count last hlast hword hbehind
    have haddress : (start + UInt64.ofNat count).toNat = last := by
      rw [UInt64.toNat_add, UInt64.toNat_ofNat']
      omega
    cases htranslated : virt_to_phys (start + UInt64.ofNat count) with
    | none => rfl
    | some paddr =>
      exfalso
      rcases virt_to_phys_cases htranslated with ⟨offset, hoffset, hvaddr, _⟩ | ⟨offset, hoffset, hvaddr, _⟩ |
        ⟨offset, hoffset, hvaddr, _⟩ | ⟨offset, hoffset, hvaddr, _⟩ | ⟨hlow, _, _⟩
      all_goals omega
  cases htranslated : virt_to_phys start with
  | none => exact ⟨0, by decide, by omega, by simpa using htranslated⟩
  | some paddr =>
    unfold paddingFuel
    rcases virt_to_phys_cases htranslated with ⟨offset, hoffset, hvaddr, _⟩ | ⟨offset, hoffset, hvaddr, _⟩ |
      ⟨offset, hoffset, hvaddr, _⟩ | ⟨offset, hoffset, hvaddr, _⟩ | ⟨hlow, _, _⟩
    · exact ⟨2 ^ 30 - offset, by omega, by omega, hend _ _ rfl (by omega) (by omega)⟩
    · exact ⟨0x200000000 - start.toNat, by omega, by omega, hend _ _ rfl (by omega) (by omega)⟩
    · exact ⟨2 ^ 30 - offset, by omega, by omega, hend _ _ rfl (by omega) (by omega)⟩
    · exact ⟨0x200000 - offset, by omega, by omega, hend _ _ rfl (by omega) (by omega)⟩
    · exact ⟨0x200000000 - start.toNat, by omega, by omega, hend _ _ rfl (by omega) (by omega)⟩

theorem safe_read_u64_of_le (profile : Profile) (vm : Vm) {paddr : UInt64} (h : paddr.toNat + 8 ≤ MEM_SIZE.toNat) :
    safe_read_u64 profile vm paddr = .ok (some (word vm.mem paddr.toNat)) := by
  have hsize := MEM_SIZE_toNat
  have height : (8 : UInt64).toNat = 8 := rfl
  have hcheck : ¬ paddr + 8 > MEM_SIZE := by
    rw [gt_iff_lt, UInt64.lt_iff_toNat_lt, BitField.toNat_add_of_lt (by omega)]
    omega
  unfold safe_read_u64
  rw [profile.add64_of_lt (by omega), ok_bind, if_neg hcheck, Vm.copy_from, if_pos h]
  rfl

theorem safe_read_bytes_of_translated (profile : Profile) (vm : Vm) {vaddr paddr : UInt64}
    (h : virt_to_phys vaddr = some paddr) : safe_read_bytes profile vm paddr 1 = .ok (some [vm.mem paddr.toNat]) := by
  have hsize := MEM_SIZE_toNat
  have hone : (UInt64.ofNat 1).toNat = 1 := rfl
  have hinside := (virt_to_phys_lt h).1
  have hcheck : ¬ paddr + UInt64.ofNat 1 > MEM_SIZE := by
    rw [gt_iff_lt, UInt64.lt_iff_toNat_lt, BitField.toNat_add_of_lt (by omega)]
    omega
  unfold safe_read_bytes
  rw [profile.add64_of_lt (by omega), ok_bind, if_neg hcheck, Vm.copy_from, if_pos (by omega)]
  rfl

/-- The loop ends where there is no padding. -/
theorem skipPadding_of_stops (profile : Profile) (vm : Vm) (fuel : Nat) {final_rip : UInt64}
    (h : Stops vm.mem final_rip) : skipPadding profile vm (fuel + 1) final_rip = .ok final_rip := by
  rw [skipPadding]
  cases htranslated : virt_to_phys final_rip with
  | none => rfl
  | some paddr =>
    simp only [safe_read_bytes_of_translated profile vm htranslated, ok_bind]
    split
    · rename_i heq
      injection heq with hbytes
      injection hbytes with hbyte
      exact absurd hbyte (h paddr htranslated)
    · rfl

/-- The loop goes on behind a breakpoint byte. -/
theorem skipPadding_of_not_stops (profile : Profile) (vm : Vm) (fuel : Nat) {final_rip : UInt64}
    (h : ¬ Stops vm.mem final_rip) :
    skipPadding profile vm (fuel + 1) final_rip = skipPadding profile vm fuel (final_rip + 1) := by
  unfold Stops at h
  push Not at h
  obtain ⟨paddr, htranslated, hbyte⟩ := h
  have hone : (1 : UInt64).toNat = 1 := rfl
  have hspace := (virt_to_phys_lt htranslated).2
  rw [skipPadding, htranslated]
  simp only [safe_read_bytes_of_translated profile vm htranslated, ok_bind, hbyte]
  rw [profile.add64_of_lt (by omega), ok_bind]

private theorem skipPadding_eq_add (profile : Profile) (vm : Vm) {count fuel : Nat} {start : UInt64}
    (hfuel : count < fuel) (hpadding : ∀ index < count, ¬ Stops vm.mem (start + UInt64.ofNat index))
    (hstops : Stops vm.mem (start + UInt64.ofNat count)) :
    skipPadding profile vm fuel start = .ok (start + UInt64.ofNat count) := by
  induction count generalizing fuel start with
  | zero =>
    obtain ⟨fuel, rfl⟩ := Nat.exists_eq_succ_of_ne_zero (Nat.ne_of_gt hfuel)
    have hstart : start + UInt64.ofNat 0 = start := by simp
    rw [hstart] at hstops ⊢
    exact skipPadding_of_stops profile vm fuel hstops
  | succ count ih =>
    obtain ⟨fuel, rfl⟩ := Nat.exists_eq_succ_of_ne_zero (Nat.ne_zero_of_lt hfuel)
    have hshift : ∀ index, start + UInt64.ofNat (index + 1) = start + 1 + UInt64.ofNat index := by
      intro index
      have hone : UInt64.ofNat 1 = 1 := rfl
      rw [UInt64.ofNat_add, hone]
      grind
    have hfirst : ¬ Stops vm.mem start := by simpa using hpadding 0 (Nat.succ_pos count)
    rw [skipPadding_of_not_stops profile vm fuel hfirst, hshift count]
    apply ih (Nat.lt_of_succ_lt_succ hfuel)
    · intro index hindex
      rw [← hshift index]
      exact hpadding (index + 1) (by omega)
    · rwa [← hshift count]

/-- The loop ends, at the first address without padding. -/
theorem exists_skipPadding (vm : Vm) (start : UInt64) :
    ∃ address, FirstStop vm.mem start address ∧
      ∀ profile fuel, paddingFuel ≤ fuel → skipPadding profile vm fuel start = .ok address := by
  classical
  obtain ⟨last, hlast, hspace, huntranslated⟩ := exists_untranslated start
  have hends : ∃ count, Stops vm.mem (start + UInt64.ofNat count) := by
    refine ⟨last, ?_⟩
    intro paddr htranslated
    rw [huntranslated] at htranslated
    cases htranslated
  have hcount : Nat.find hends ≤ last := by
    apply Nat.find_min' hends
    intro paddr htranslated
    rw [huntranslated] at htranslated
    cases htranslated
  have hpadding : ∀ index < Nat.find hends, ¬ Stops vm.mem (start + UInt64.ofNat index) :=
    fun index hindex => Nat.find_min hends hindex
  have haddress : ∀ index ≤ Nat.find hends, (start + UInt64.ofNat index).toNat = start.toNat + index := by
    intro index hindex
    rw [UInt64.toNat_add, UInt64.toNat_ofNat']
    omega
  refine ⟨start + UInt64.ofNat (Nat.find hends), ⟨?_, Nat.find_spec hends, ?_⟩, ?_⟩
  · rw [haddress _ le_rfl]
    omega
  · intro between hlow hhigh
    rw [haddress _ le_rfl] at hhigh
    have hbetween : between = start + UInt64.ofNat (between.toNat - start.toNat) := by
      apply UInt64.toNat.inj
      rw [haddress _ (by omega)]
      omega
    rw [hbetween]
    exact hpadding _ (by omega)
  · intro profile fuel hfuel
    exact skipPadding_eq_add profile vm (by omega) hpadding (Nat.find_spec hends)

/-- The loop ends at the first address without padding. It faults in neither
    profile, so no increment overflows, and every byte on its way is in guest
    memory. -/
theorem skipPadding_exact (vm : Vm) (start : UInt64) :
    ∃ address, FirstStop vm.mem start address ∧
      (∀ profile fuel, paddingFuel ≤ fuel → skipPadding profile vm fuel start = .ok address) ∧
      ∀ rip : UInt64, start.toNat ≤ rip.toNat → rip.toNat ≤ address.toNat →
        ∀ paddr, virt_to_phys rip = some paddr → paddr.toNat + 1 ≤ MEM_SIZE.toNat ∧ rip.toNat + 1 < 2 ^ 64 := by
  obtain ⟨address, hfirst, hskip⟩ := exists_skipPadding vm start
  refine ⟨address, hfirst, hskip, ?_⟩
  intro rip _ _ paddr htranslated
  obtain ⟨hinside, hspace⟩ := virt_to_phys_lt htranslated
  exact ⟨hinside, by omega⟩

theorem Guest.call_run {guest : Guest} {ioctl : Ioctl} (h : guest.refuses ioctl = none) :
    (Guest.call ioctl).run guest = .ok () guest := by
  change Guest.call ioctl guest = _
  rw [Guest.call, h]

theorem Guest.get_regs_run {guest : Guest} (h : guest.refuses .get_regs = none) :
    Guest.get_regs.run guest = .ok guest.regs guest := by
  unfold Guest.get_regs
  rw [Stateful.bind_run, Guest.call_run h]
  rfl

theorem Guest.set_regs_run {guest : Guest} (regs : kvm_regs) (h : guest.refuses .set_regs = none) :
    (Guest.set_regs regs).run guest = .ok () { guest with regs } := by
  unfold Guest.set_regs
  rw [Stateful.bind_run, Guest.call_run h]
  rfl

/-- A breakpoint or a debug service goes back to the guest with the words of
    the save area and of the frame. -/
theorem handle_diagnostic_trap_resumes (profile : Profile) {vector : UInt8} (hvector : vector = 3 ∨ vector = 0x2d)
    {guest : Guest} (hget : guest.refuses .get_regs = none) (hset : guest.refuses .set_regs = none)
    {rsp_phys : UInt64} (hrsp : virt_to_phys guest.regs.rsp = some rsp_phys)
    (hframe : rsp_phys.toNat + 32 ≤ MEM_SIZE.toNat) :
    ∃ rip, FirstStop guest.vm.mem (word guest.vm.mem rsp_phys.toNat) rip ∧
      (handle_diagnostic_trap profile vector).run guest = .ok () { guest with regs := { guest.regs with
        rax := if vector = 0x2d then 0 else word guest.vm.mem 0x8060000
        rcx := word guest.vm.mem 0x8060008
        rdx := word guest.vm.mem 0x8060010
        rip
        rsp := word guest.vm.mem (rsp_phys.toNat + 24)
        rflags := word guest.vm.mem (rsp_phys.toNat + 16) &&& ~~~ 0x100 } } := by
  have hsize := MEM_SIZE_toNat
  obtain ⟨rip, hfirst, hends⟩ := exists_skipPadding guest.vm (word guest.vm.mem rsp_phys.toNat)
  have hskip := hends profile paddingFuel le_rfl
  refine ⟨rip, hfirst, ?_⟩
  have hcode : has_error_code vector = false := by
    rcases hvector with rfl | rfl <;> decide
  have hread : ∀ (length : UInt64) (offset : Nat), length.toNat = offset → offset ≤ 24 →
      profile.add64 rsp_phys length = .ok (rsp_phys + length) ∧
        safe_read_u64 profile guest.vm (rsp_phys + length) =
          .ok (some (word guest.vm.mem (rsp_phys.toNat + offset))) := by
    intro length offset hlength hoffset
    have hsum : (rsp_phys + length).toNat = rsp_phys.toNat + offset := by
      rw [BitField.toNat_add_of_lt (by omega), hlength]
    refine ⟨profile.add64_of_lt (by omega), ?_⟩
    rw [safe_read_u64_of_le profile guest.vm (by omega), hsum]
  obtain ⟨hsum0, hpushed⟩ := hread 0 0 rfl (by omega)
  obtain ⟨hsum16, hrflags⟩ := hread 16 16 rfl (by omega)
  obtain ⟨hsum24, hold⟩ := hread 24 24 rfl le_rfl
  have hzero : rsp_phys + 0 = rsp_phys := by simp
  rw [hzero, Nat.add_zero] at hpushed
  rw [hzero] at hsum0
  have hrax : safe_read_u64 profile guest.vm (SYSTEM_BASE + 0x60000) = .ok (some (word guest.vm.mem 0x8060000)) :=
    safe_read_u64_of_le profile guest.vm (by decide)
  have hrcx : safe_read_u64 profile guest.vm (SYSTEM_BASE + 0x60000 + 8) = .ok (some (word guest.vm.mem 0x8060008)) :=
    safe_read_u64_of_le profile guest.vm (by decide)
  have hrdx : safe_read_u64 profile guest.vm (SYSTEM_BASE + 0x60000 + 16) = .ok (some (word guest.vm.mem 0x8060010)) :=
    safe_read_u64_of_le profile guest.vm (by decide)
  have hstate : (get : GuestM Guest).run guest = .ok guest guest := rfl
  unfold handle_diagnostic_trap
  simp only [Stateful.bind_run, Guest.get_regs_run hget, hrsp, hstate, hcode, Bool.false_eq_true, if_false, hsum0,
    hpushed, hsum16, hrflags, hsum24, hold, hrax, hrcx, hrdx, if_pos hvector, Option.getD_some, hskip,
    Stateful.lift_ok_run]
  exact Guest.set_regs_run _ hset

end vwfl.debug
