import Vwfl.Gdb.Walk
import Vwfl.Rust.Slice

open Rust ByteStore
open vwfl.vm

namespace vwfl.gdb

/-- Every byte of a request is mapped, byte `k` to `targets k` in guest memory. -/
def VwflTarget.Maps (self : VwflTarget) (start_addr : UInt64) (length : Nat) (targets : Nat → Nat) : Prop :=
  ∀ k < length, self.translation (start_addr + UInt64.ofNat k) = some (targets k) ∧
    targets k < MEM_SIZE.toNat

/-- A read returns the byte behind each address of the request, and a write
    stores each byte of its data behind the address it is sent to and changes
    nothing else. Only an empty write may be refused. -/
def VwflTarget.FollowsMapping (profile : Profile) (self : VwflTarget) (start_addr : UInt64)
    (length : Nat) (targets : Nat → Nat) : Prop :=
  (∀ data : U8Slice, data.length = length →
    ∃ bytes, self.read_addrs profile start_addr data.bytes = .ok (length, bytes) ∧
      bytes.length = length ∧ ∀ k < length, bytes[k]? = some (self.vm.mem (targets k))) ∧
  (∀ data : U8Slice, data.length = length →
    ∃ after, ((VwflTarget.write_addrs profile start_addr data.bytes).run self = .ok () after ∨
        length = 0 ∧ ∃ fault, (VwflTarget.write_addrs profile start_addr data.bytes).run self = .error fault after) ∧
      after.sregs = self.sregs ∧
      (∀ k < length, data.bytes[k]? = some (after.vm.mem (targets k))) ∧
      ∀ address, (∀ k < length, address ≠ targets k) → after.vm.mem address = self.vm.mem address)

variable {profile : Profile} {self : VwflTarget} {start_addr : UInt64} {length : Nat} {targets : Nat → Nat}

/-- A mapped request is served from the translation of its first byte. -/
private theorem virt_to_phys_first (profile : Profile) (hmaps : self.Maps start_addr length targets)
    (hpositive : 0 < length) :
    self.virt_to_phys profile start_addr = .ok (UInt64.ofNat (targets 0)) ∧
      (UInt64.ofNat (targets 0)).toNat = targets 0 := by
  obtain ⟨hfirst, hrange⟩ := hmaps 0 hpositive
  rw [MEM_SIZE_toNat] at hrange
  have hstart : start_addr + UInt64.ofNat 0 = start_addr := by simp
  rw [hstart] at hfirst
  refine ⟨by rw [VwflTarget.virt_to_phys_eq, hfirst]; rfl, ?_⟩
  rw [UInt64.toNat_ofNat']
  omega

theorem write_addrs_eq_ok {data : List UInt8} {after : VwflTarget} {paddr : UInt64}
    (hpaddr : self.virt_to_phys profile start_addr = .ok paddr)
    (hwrite : (VwflTarget.write_addrs profile start_addr data).run self = .ok () after) :
    paddr.toNat + data.length ≤ MEM_SIZE.toNat ∧
      after = { self with vm := { self.vm with mem := store self.vm.mem paddr.toNat data } } := by
  change VwflTarget.write_addrs profile start_addr data self = _ at hwrite
  unfold VwflTarget.write_addrs at hwrite
  simp only [hpaddr] at hwrite
  cases hmemory : (Vm.write_memory profile paddr data).run self.vm with
  | error fault vm =>
    rw [hmemory] at hwrite
    cases hwrite
  | ok _ vm =>
    rw [hmemory] at hwrite
    obtain ⟨hbound, rfl⟩ := Vm.write_memory_eq_ok hmemory
    cases hwrite
    exact ⟨hbound, rfl⟩

theorem write_addrs_of_le {data : List UInt8} {paddr : UInt64}
    (hpaddr : self.virt_to_phys profile start_addr = .ok paddr)
    (hbound : paddr.toNat + data.length ≤ MEM_SIZE.toNat) :
    (VwflTarget.write_addrs profile start_addr data).run self =
      .ok () { self with vm := { self.vm with mem := store self.vm.mem paddr.toNat data } } := by
  change VwflTarget.write_addrs profile start_addr data self = _
  unfold VwflTarget.write_addrs
  simp only [hpaddr, Vm.write_memory_of_le profile self.vm hbound]

/-- A request whose frames are contiguous is served byte by byte. -/
theorem followsMapping_of_contiguous (hmaps : self.Maps start_addr length targets) (hpositive : 0 < length)
    (hcontiguous : ∀ k < length, targets k = targets 0 + k) :
    self.FollowsMapping profile start_addr length targets := by
  obtain ⟨hpaddr, hword⟩ := virt_to_phys_first profile hmaps hpositive
  have hbound : targets 0 + length ≤ MEM_SIZE.toNat := by
    have hlast := (hmaps (length - 1) (by omega)).2
    rw [hcontiguous (length - 1) (by omega)] at hlast
    omega
  refine ⟨?_, ?_⟩
  · intro data hdata
    refine ⟨load self.vm.mem (targets 0) length, ?_, length_load _ _ _, ?_⟩
    · unfold VwflTarget.read_addrs
      rw [hpaddr, ok_bind, show data.bytes.length = length from hdata,
        Vm.read_memory_of_le profile self.vm (by rw [hword]; exact hbound), hword]
      rfl
    · intro k hk
      rw [getElem?_load _ _ hk, hcontiguous k hk]
  · intro data hdata
    have hlength : data.bytes.length = length := hdata
    refine ⟨_, Or.inl (write_addrs_of_le hpaddr (by rw [hword, hlength]; exact hbound)), rfl, ?_, ?_⟩
    · intro k hk
      simp only [hword]
      rw [hcontiguous k hk, store_inside _ _ _ (by omega), List.getElem?_eq_getElem (by omega)]
    · intro address haddress
      simp only [hword]
      apply store_outside
      rintro ⟨hlow, hhigh⟩
      apply haddress (address - targets 0) (by omega)
      rw [hcontiguous _ (by omega)]
      omega

/-- The converse needs only the write half. Data that differs at one position
    from the byte already behind it is stored there by no contiguous copy that
    starts elsewhere. -/
theorem contiguous_of_followsMapping (hmaps : self.Maps start_addr length targets) (hlength : length < 2 ^ 63)
    (hfollows : self.FollowsMapping profile start_addr length targets) :
    ∀ k < length, targets k = targets 0 + k := by
  intro k hk
  by_contra hjump
  obtain ⟨hpaddr, hword⟩ := virt_to_phys_first profile hmaps (by omega)
  let old := self.vm.mem (targets k)
  let bytes := (List.range length).map fun position => if position = k then old + 1 else old
  have hbytes : bytes.length = length := by simp [bytes]
  have hnew : old + 1 ≠ old := by
    intro heq
    have hnat := congrArg UInt8.toNat heq
    rw [UInt8.toNat_add] at hnat
    have hone : (1 : UInt8).toNat = 1 := rfl
    have hlt := old.toNat_lt
    omega
  obtain ⟨after, hwrite, _, hstored, _⟩ := hfollows.2 ⟨bytes, by omega⟩ hbytes
  rcases hwrite with hwrite | ⟨hzero, _⟩
  · obtain ⟨hbound, rfl⟩ := write_addrs_eq_ok hpaddr hwrite
    have hbyte := hstored k hk
    simp only [hword] at hbyte
    have hwanted : bytes[k]? = some (old + 1) := by simp [bytes, hk]
    rw [hwanted, Option.some.injEq] at hbyte
    by_cases hinside : Within (targets 0) bytes.length (targets k)
    · obtain ⟨hlow, hhigh⟩ := hinside
      have hposition : targets k = targets 0 + (targets k - targets 0) := by omega
      rw [hposition, store_inside _ _ _ (by omega)] at hbyte
      have hother : bytes[targets k - targets 0]? = some old := by
        have hne : targets k - targets 0 ≠ k := by omega
        simp [bytes, show targets k - targets 0 < length by omega, hne]
      rw [List.getElem?_eq_getElem (by omega), Option.some.injEq] at hother
      exact hnew (hbyte.trans hother)
    · rw [store_outside _ _ _ hinside] at hbyte
      exact hnew hbyte
  · omega

private theorem followsMapping_empty (profile : Profile) (self : VwflTarget) (start_addr : UInt64)
    (targets : Nat → Nat) : self.FollowsMapping profile start_addr 0 targets := by
  have hempty (data : U8Slice) (hdata : data.length = 0) : data.bytes = [] := List.length_eq_zero_iff.mp hdata
  have hpaddr := VwflTarget.virt_to_phys_eq profile self start_addr
  generalize UInt64.ofNat ((self.translation start_addr).getD start_addr.toNat) = paddr at hpaddr
  have hword := paddr.toNat_lt
  refine ⟨?_, ?_⟩
  · intro data hdata
    refine ⟨[], ?_, rfl, fun k hk => absurd hk (by omega)⟩
    unfold VwflTarget.read_addrs
    rw [hpaddr, ok_bind, hempty data hdata]
    by_cases hbound : paddr.toNat + ([] : List UInt8).length ≤ MEM_SIZE.toNat
    · rw [Vm.read_memory_of_le profile self.vm hbound]
      rfl
    · rw [Vm.read_memory_of_gt profile self.vm (by omega) (by simpa using hword)]
      rfl
  · intro data hdata
    rw [hempty data hdata]
    by_cases hbound : paddr.toNat + ([] : List UInt8).length ≤ MEM_SIZE.toNat
    · refine ⟨_, Or.inl (write_addrs_of_le hpaddr hbound), rfl, fun k hk => absurd hk (by omega), ?_⟩
      simp
    · refine ⟨self, Or.inr ⟨rfl, .err "Memory write out of bounds", ?_⟩, rfl,
        fun k hk => absurd hk (by omega), fun _ _ => rfl⟩
      have hrefused : (Vm.write_memory profile paddr []).run self.vm =
          .error (.err "Memory write out of bounds") self.vm :=
        Vm.write_memory_of_gt profile self.vm (by omega) (by simpa using hword)
      change VwflTarget.write_addrs profile start_addr [] self = _
      unfold VwflTarget.write_addrs
      simp only [hpaddr, hrefused]

/-- Debugger accesses follow a complete mapping of their request exactly when
    the frames behind it are contiguous: only the first byte is translated. -/
theorem followsMapping_iff (profile : Profile) (self : VwflTarget) (start_addr : UInt64) (data : U8Slice)
    (targets : Nat → Nat) (hmaps : self.Maps start_addr data.length targets) :
    self.FollowsMapping profile start_addr data.length targets ↔
      ∀ k < data.length, targets k = targets 0 + k := by
  constructor
  · exact contiguous_of_followsMapping hmaps data.length_lt
  · intro hcontiguous
    by_cases hpositive : 0 < data.length
    · exact followsMapping_of_contiguous hmaps hpositive hcontiguous
    · rw [show data.length = 0 by omega]
      exact followsMapping_empty profile self start_addr targets

/-- Two neighbouring large pages in frames that are not neighbours. -/
def swappedPages : VwflTarget where
  vm := ⟨storeAll (fun _ => 0) [(0x1000, LittleEndian.ofUInt64 0x2003), (0x2000, LittleEndian.ofUInt64 0x3003),
    (0x3000, LittleEndian.ofUInt64 0x400083), (0x3008, LittleEndian.ofUInt64 0x200083)]⟩
  sregs := some ⟨0x1000⟩

theorem followsMapping_inside_page :
    swappedPages.Maps 0x5000 2 (fun k => 0x405000 + k) ∧
      swappedPages.FollowsMapping .release 0x5000 2 (fun k => 0x405000 + k) := by
  have hmaps : swappedPages.Maps 0x5000 2 (fun k => 0x405000 + k) := by
    intro k hk
    interval_cases k <;> decide +kernel
  exact ⟨hmaps, (followsMapping_iff .release swappedPages 0x5000 ⟨[0, 0], by decide⟩ _ hmaps).mpr (by simp)⟩

/-- A two-byte request across the page boundary is served from two bytes of
    the first frame's neighbour. -/
theorem not_followsMapping_across_pages :
    swappedPages.Maps 0x1FFFFF 2 (fun k => if k = 0 then 0x5FFFFF else 0x200000) ∧
      ¬ swappedPages.FollowsMapping .release 0x1FFFFF 2 (fun k => if k = 0 then 0x5FFFFF else 0x200000) := by
  have hmaps : swappedPages.Maps 0x1FFFFF 2 (fun k => if k = 0 then 0x5FFFFF else 0x200000) := by
    intro k hk
    interval_cases k <;> decide +kernel
  refine ⟨hmaps, fun hfollows => ?_⟩
  have hsecond := contiguous_of_followsMapping hmaps (by decide) hfollows 1 (by decide)
  simp at hsecond

end vwfl.gdb
