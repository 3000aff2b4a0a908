import Vwfl.Vm.Access

open Rust ByteStore

namespace vwfl.vm

/-- The fields of a KVM memory slot that decide its address map. -/
structure kvm_userspace_memory_region where
  slot : UInt32
  guest_phys_addr : UInt64
  memory_size : UInt64
  userspace_addr : UInt64
  flags : UInt32

/-- The slots registered by `Vm::new` for a mapping at `mem_ptr`. -/
def Vm.new_memory_regions (mem_ptr : UInt64) : List kvm_userspace_memory_region :=
  [{ slot := 0, guest_phys_addr := 0, memory_size := MMIO_HOLE_START,
     userspace_addr := mem_ptr, flags := 0 },
   { slot := 1, guest_phys_addr := 0x100000000, memory_size := MEM_SIZE - MMIO_HOLE_START,
     userspace_addr := mem_ptr + MMIO_HOLE_START, flags := 0 }]

/-- KVM backs the whole guest range by the slot. -/
def kvm_userspace_memory_region.Backs (region : kvm_userspace_memory_region)
    (guest : UInt64) (length : Nat) : Prop :=
  region.guest_phys_addr ≤ guest ∧
    guest.toNat + length ≤ region.guest_phys_addr.toNat + region.memory_size.toNat

/-- Host offset from `mem_ptr` of the byte KVM maps a backed guest address to. -/
def kvm_userspace_memory_region.host_offset (region : kvm_userspace_memory_region)
    (mem_ptr guest : UInt64) : UInt64 :=
  region.userspace_addr - mem_ptr + (guest - region.guest_phys_addr)

def InHole (guest : UInt64) : Prop :=
  MMIO_HOLE_START ≤ guest ∧ guest < MMIO_HOLE_START + MMIO_HOLE_SIZE

/-- The flat accessors agree with the slots at a guest physical address: every
    access that starts there and stays in its slot touches exactly the host
    bytes behind that slot, and every access that starts in the hole is an
    error. The memory is arbitrary, so the bytes identify the offsets. -/
def SlotsAgree (profile : Profile) (mem_ptr guest : UInt64) : Prop :=
  ∀ self : Vm,
    (∀ region ∈ Vm.new_memory_regions mem_ptr, ∀ length, 1 ≤ length → region.Backs guest length →
      Vm.read_memory profile self guest length =
          .ok (load self.mem (region.host_offset mem_ptr guest).toNat length) ∧
        ∀ data : List UInt8, data.length = length →
          (Vm.write_memory profile guest data).run self =
            .ok () { self with mem := store self.mem (region.host_offset mem_ptr guest).toNat data }) ∧
    (InHole guest → ∀ length, 1 ≤ length →
      (∃ message, Vm.read_memory profile self guest length = .error (.err message)) ∧
        ∀ data : List UInt8, data.length = length →
          ∃ message, (Vm.write_memory profile guest data).run self = .error (.err message) self)

private theorem low_host_offset (mem_ptr guest : UInt64) :
    mem_ptr - mem_ptr + (guest - 0) = guest := by
  simp

private theorem high_host_offset {mem_ptr guest : UInt64} (h : 0x100000000 ≤ guest.toNat) :
    (mem_ptr + MMIO_HOLE_START - mem_ptr + (guest - 0x100000000)).toNat = guest.toNat - 0x40000000 := by
  have hguest := guest.toNat_lt
  have hhole : MMIO_HOLE_START.toNat = 0xC0000000 := rfl
  have hbase : (0x100000000 : UInt64).toNat = 0x100000000 := rfl
  have hshift : (guest - 0x100000000).toNat = guest.toNat - 0x100000000 := by
    rw [BitField.toNat_sub_of_le (by omega), hbase]
  rw [UInt64.add_comm mem_ptr, UInt64.add_sub_cancel, BitField.toNat_add_of_lt (by omega), hshift, hhole]
  omega

/-- Memory whose byte at one offset differs from every other byte. -/
private def marked (offset : Nat) : Vm := ⟨fun address => if address = offset then 1 else 0⟩

/-- The accessors follow the registered slots exactly below the hole and, where
    nothing is registered, above the high slot. From the start of the hole to
    the end of the high slot they treat the guest address as a host offset. -/
theorem slotsAgree_iff (profile : Profile) (mem_ptr guest : UInt64) :
    SlotsAgree profile mem_ptr guest ↔ guest < MMIO_HOLE_START ∨ 0x240000000 ≤ guest := by
  have hstart : MMIO_HOLE_START.toNat = 0xC0000000 := rfl
  have hstop : (MMIO_HOLE_START + MMIO_HOLE_SIZE).toNat = 0x100000000 := rfl
  have hsize : (MEM_SIZE - MMIO_HOLE_START).toNat = 0x140000000 := rfl
  have hhigh : (0x100000000 : UInt64).toNat = 0x100000000 := rfl
  have hend : (0x240000000 : UInt64).toNat = 0x240000000 := rfl
  rw [UInt64.lt_iff_toNat_lt, UInt64.le_iff_toNat_le, hstart, hend]
  constructor
  · intro hagree
    by_contra hnot
    by_cases hhole : guest.toNat < 0x100000000
    · -- The hole is backed by the host bytes of the high slot, so the read succeeds.
      obtain ⟨⟨message, hread⟩, _⟩ := (hagree (marked 0)).2
        ⟨by rw [UInt64.le_iff_toNat_le]; omega, by rw [UInt64.lt_iff_toNat_lt]; omega⟩ 1 le_rfl
      rw [Vm.read_memory_of_le profile _ (by rw [MEM_SIZE_toNat]; omega)] at hread
      cases hread
    · -- In the high slot the byte one GiB further up answers instead.
      have hlower : (0x100000000 : UInt64) ≤ guest := by rw [UInt64.le_iff_toNat_le]; omega
      have hregion := (hagree (marked guest.toNat)).1
        { slot := 1, guest_phys_addr := 0x100000000, memory_size := MEM_SIZE - MMIO_HOLE_START,
          userspace_addr := mem_ptr + MMIO_HOLE_START, flags := 0 } (by simp [Vm.new_memory_regions])
        1 le_rfl ⟨hlower, by simp only [hsize, hhigh]; omega⟩
      obtain ⟨hbound, hdata⟩ := Vm.read_memory_eq_ok hregion.1
      unfold kvm_userspace_memory_region.host_offset at hdata
      rw [high_host_offset (by omega)] at hdata
      simp [load, marked] at hdata
      omega
  · intro hrange self
    refine ⟨?_, ?_⟩
    · intro region hregion length hlength hbacks
      obtain ⟨hlower, hupper⟩ := hbacks
      rw [UInt64.le_iff_toNat_le] at hlower
      simp only [Vm.new_memory_regions, List.mem_cons, List.not_mem_nil, or_false] at hregion
      rcases hregion with rfl | rfl
      · have hzero : (0 : UInt64).toNat = 0 := rfl
        simp only [hstart, hzero] at hupper
        have hfit : guest.toNat + length ≤ MEM_SIZE.toNat := by rw [MEM_SIZE_toNat]; omega
        simp only [kvm_userspace_memory_region.host_offset, low_host_offset]
        refine ⟨Vm.read_memory_of_le profile self hfit, ?_⟩
        intro data hdata
        exact Vm.write_memory_of_le profile self (by rw [hdata]; exact hfit)
      · simp only [hsize, hhigh] at hlower hupper
        omega
    · intro hhole
      obtain ⟨hlower, hupper⟩ := hhole
      rw [UInt64.le_iff_toNat_le] at hlower
      rw [UInt64.lt_iff_toNat_lt] at hupper
      omega

/-- At the first address of the hole the read returns host byte 3 GiB. -/
theorem not_slotsAgree_hole_start : ¬ SlotsAgree .release 0x7F0000000000 0xC0000000 := by
  intro hagree
  obtain ⟨⟨message, hread⟩, _⟩ := (hagree (marked 0)).2 (by unfold InHole; decide) 1 le_rfl
  rw [Vm.read_memory_of_le .release _ (by decide)] at hread
  cases hread

end vwfl.vm
