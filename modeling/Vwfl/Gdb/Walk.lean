import Vwfl.Gdb.Target
import Vwfl.Paging.Walk

open Rust ByteStore Paging
open vwfl.vm

namespace vwfl.gdb

/-- Table entries as the page walk sees them: eight bytes inside guest memory. -/
def entryAt (mem : Nat → UInt8) (address : Nat) : Option Nat :=
  if address + 8 ≤ MEM_SIZE.toNat then some (LittleEndian.number (load mem address 8)) else none

/-- The four-level translation that a table base register selects. -/
def translate (mem : Nat → UInt8) (cr3 vaddr : UInt64) : Option Nat :=
  walk (entryAt mem) 3 (frame cr3.toNat) vaddr.toNat

private theorem toNat_frame (entry : UInt64) : (entry &&& 0x000FFFFFFFFFF000).toNat = frame entry.toNat :=
  BitField.toNat_and_field entry _ 12 40 rfl

private theorem toNat_index (vaddr amount : UInt64) {level : Nat} (hlevel : level ≤ 3)
    (hamount : amount.toNat = shift level) : ((vaddr >>> amount) &&& 0x1FF).toNat = index level vaddr.toNat := by
  have hsmall : amount.toNat < 64 := by rw [hamount]; unfold shift; omega
  rw [BitField.toNat_and_low _ _ 9 rfl, BitField.toNat_shiftRight vaddr amount hsmall, hamount]
  rfl

private theorem toNat_slot {base index : UInt64} {table slot : Nat} (hbase : base.toNat = frame table)
    (hindex : index.toNat = slot) (hslot : slot < 512) :
    (base + index * 8).toNat = frame table + slot * 8 := by
  have hframe := frame_lt table
  have height : (8 : UInt64).toNat = 8 := rfl
  have hscaled : (index * 8).toNat = slot * 8 := by
    rw [UInt64.toNat_mul, hindex, height]
    omega
  rw [BitField.toNat_add_of_lt (by omega), hbase, hscaled]

/-- Location of the entry that selects the next table for an address, as the
    source computes it. -/
theorem toNat_entry_location (table vaddr amount : UInt64) (level : Nat) (hlevel : level ≤ 3)
    (hamount : amount.toNat = shift level) :
    ((table &&& 0x000FFFFFFFFFF000) + ((vaddr >>> amount) &&& 0x1FF) * 8).toNat =
      frame table.toNat + index level vaddr.toNat * 8 :=
  toNat_slot (toNat_frame table) (toNat_index vaddr amount hlevel hamount) (index_lt _ _)

private theorem present_iff (entry : UInt64) : entry &&& 1 = 0 ↔ ¬ Present entry.toNat := by
  rw [← UInt64.toNat_inj, BitField.toNat_and_low entry 1 1 rfl, Present]
  have hzero : (0 : UInt64).toNat = 0 := rfl
  omega

private theorem large_iff {level : Nat} (entry : UInt64) (hlevel : level = 1 ∨ level = 2) :
    entry &&& 0x80 ≠ 0 ↔ Large level entry.toNat := by
  rw [Ne, ← UInt64.toNat_inj, BitField.toNat_and_field entry 0x80 7 1 rfl, Large]
  have hzero : (0 : UInt64).toNat = 0 := rfl
  constructor
  · intro h
    exact ⟨hlevel, by omega⟩
  · intro h
    omega

private theorem toNat_leaf (entry vaddr mask low : UInt64) {level : Nat}
    (hmask : mask.toNat = (2 ^ (52 - shift level) - 1) * 2 ^ shift level)
    (hlow : low.toNat = 2 ^ shift level - 1) :
    ((entry &&& mask) ||| (vaddr &&& low)).toNat = leaf level entry.toNat vaddr.toNat := by
  have hhigh := BitField.toNat_and_field entry mask (shift level) (52 - shift level) hmask
  have hoffset := BitField.toNat_and_low vaddr low (shift level) hlow
  have hsmall : (vaddr &&& low).toNat < 2 ^ shift level := by
    rw [hoffset]
    exact Nat.mod_lt _ (by positivity)
  rw [BitField.toNat_or_remainder hhigh hsmall, hhigh, hoffset]
  rfl

/-- Entry reads never fault and see exactly the entries of the abstract walk. -/
theorem read_entry_eq (profile : Profile) (vm : Vm) (address : UInt64) (hsmall : address.toNat < 2 ^ 52) :
    ∃ entry : Option UInt64, read_entry profile vm address = .ok entry ∧
      entryAt vm.mem address.toNat = entry.map UInt64.toNat := by
  by_cases hbound : address.toNat + 8 ≤ MEM_SIZE.toNat
  · refine ⟨some (LittleEndian.toUInt64 (load vm.mem address.toNat 8)), ?_, ?_⟩
    · rw [read_entry, Vm.read_memory_of_le profile vm hbound]
    · have hnumber := LittleEndian.number_lt (load vm.mem address.toNat 8)
      rw [length_load, show 256 ^ 8 = 2 ^ 64 by rfl] at hnumber
      rw [entryAt, if_pos hbound, Option.map_some, LittleEndian.toUInt64, UInt64.toNat_ofNat',
        Nat.mod_eq_of_lt hnumber]
  · refine ⟨none, ?_, by rw [entryAt, if_neg hbound]; rfl⟩
    rw [read_entry, Vm.read_memory_of_gt profile vm (by omega) (by omega)]

private theorem read_slot_eq (profile : Profile) (vm : Vm) (table vaddr amount : UInt64) (level : Nat)
    (hlevel : level ≤ 3) (hamount : amount.toNat = shift level) :
    ∃ entry : Option UInt64,
      read_entry profile vm ((table &&& 0x000FFFFFFFFFF000) + ((vaddr >>> amount) &&& 0x1FF) * 8) = .ok entry ∧
      entryAt vm.mem (frame table.toNat + index level vaddr.toNat * 8) = entry.map UInt64.toNat := by
  have hslot := toNat_entry_location table vaddr amount level hlevel hamount
  have hframe := frame_lt table.toNat
  have hindex := index_lt level vaddr.toNat
  have hentry := read_entry_eq profile vm
    ((table &&& 0x000FFFFFFFFFF000) + ((vaddr >>> amount) &&& 0x1FF) * 8) (by omega)
  rwa [hslot] at hentry

private theorem unmapped_eq (vaddr : UInt64) :
    (.ok vaddr : Result UInt64) = .ok (UInt64.ofNat ((none : Option Nat).getD vaddr.toNat)) := by
  simp

private theorem mapped_eq {value vaddr : UInt64} {target : Nat} (h : value.toNat = target) :
    (.ok value : Result UInt64) = .ok (UInt64.ofNat ((some target).getD vaddr.toNat)) := by
  simp [← h]

private theorem virt_to_phys_of_sregs (profile : Profile) (self : VwflTarget) {sregs : kvm_sregs}
    (hsregs : self.sregs = some sregs) (vaddr : UInt64) :
    self.virt_to_phys profile vaddr =
      .ok (UInt64.ofNat ((translate self.vm.mem sregs.cr3 vaddr).getD vaddr.toNat)) := by
  unfold VwflTarget.virt_to_phys translate
  simp only [hsregs]
  obtain ⟨pml4e, hpml4, hentry3⟩ := read_slot_eq profile self.vm sregs.cr3 vaddr 39 3 le_rfl rfl
  simp only [hpml4, ok_bind]
  cases pml4e with
  | none =>
    rw [walk_unreadable hentry3]
    exact unmapped_eq vaddr
  | some pml4e =>
    by_cases habsent3 : pml4e &&& 1 = 0
    · simp only [habsent3, if_true]
      rw [walk_absent hentry3 ((present_iff pml4e).mp habsent3)]
      exact unmapped_eq vaddr
    · simp only [habsent3, if_false]
      rw [walk_table hentry3 (not_not.mp ((present_iff pml4e).not.mp habsent3)) (by unfold Large; omega)]
      obtain ⟨pdpte, hpdpt, hentry2⟩ := read_slot_eq profile self.vm pml4e vaddr 30 2 (by omega) rfl
      simp only [hpdpt, ok_bind]
      cases pdpte with
      | none =>
        rw [walk_unreadable hentry2]
        exact unmapped_eq vaddr
      | some pdpte =>
        by_cases habsent2 : pdpte &&& 1 = 0
        · simp only [habsent2, if_true]
          rw [walk_absent hentry2 ((present_iff pdpte).mp habsent2)]
          exact unmapped_eq vaddr
        · simp only [habsent2, if_false]
          have hpresent2 := not_not.mp ((present_iff pdpte).not.mp habsent2)
          by_cases hlarge2 : pdpte &&& 0x80 ≠ 0
          · simp only [hlarge2, ne_eq, not_false_eq_true, if_true]
            rw [walk_large hentry2 hpresent2 ((large_iff pdpte (by omega)).mp hlarge2)]
            exact mapped_eq (toNat_leaf pdpte vaddr _ _ rfl rfl)
          · simp only [hlarge2, if_false]
            rw [walk_table hentry2 hpresent2 ((large_iff pdpte (by omega)).not.mp hlarge2)]
            obtain ⟨pde, hpd, hentry1⟩ := read_slot_eq profile self.vm pdpte vaddr 21 1 (by omega) rfl
            simp only [hpd, ok_bind]
            cases pde with
            | none =>
              rw [walk_unreadable hentry1]
              exact unmapped_eq vaddr
            | some pde =>
              by_cases habsent1 : pde &&& 1 = 0
              · simp only [habsent1, if_true]
                rw [walk_absent hentry1 ((present_iff pde).mp habsent1)]
                exact unmapped_eq vaddr
              · simp only [habsent1, if_false]
                have hpresent1 := not_not.mp ((present_iff pde).not.mp habsent1)
                by_cases hlarge1 : pde &&& 0x80 ≠ 0
                · simp only [hlarge1, ne_eq, not_false_eq_true, if_true]
                  rw [walk_large hentry1 hpresent1 ((large_iff pde (by omega)).mp hlarge1)]
                  exact mapped_eq (toNat_leaf pde vaddr _ _ rfl rfl)
                · simp only [hlarge1, if_false]
                  rw [walk_table hentry1 hpresent1 ((large_iff pde (by omega)).not.mp hlarge1)]
                  obtain ⟨pte, hpt, hentry0⟩ := read_slot_eq profile self.vm pde vaddr 12 0 (by omega) rfl
                  simp only [hpt, ok_bind]
                  cases pte with
                  | none =>
                    rw [walk_unreadable hentry0]
                    exact unmapped_eq vaddr
                  | some pte =>
                    by_cases habsent0 : pte &&& 1 = 0
                    · simp only [habsent0, if_true]
                      rw [walk_absent hentry0 ((present_iff pte).mp habsent0)]
                      exact unmapped_eq vaddr
                    · simp only [habsent0, if_false]
                      rw [walk_page hentry0 (not_not.mp ((present_iff pte).not.mp habsent0))]
                      exact mapped_eq (toNat_leaf pte vaddr _ _ rfl rfl)

/-- The mapping of a virtual address, absent also when the registers cannot be
    read. -/
def VwflTarget.translation (self : VwflTarget) (vaddr : UInt64) : Option Nat :=
  self.sregs.bind fun sregs => translate self.vm.mem sregs.cr3 vaddr

/-- Without a fault, the debugger's translation is the four-level walk where it
    finds a mapping, and the untranslated address everywhere else. -/
theorem VwflTarget.virt_to_phys_eq (profile : Profile) (self : VwflTarget) (vaddr : UInt64) :
    self.virt_to_phys profile vaddr =
      .ok (UInt64.ofNat ((self.translation vaddr).getD vaddr.toNat)) := by
  cases hsregs : self.sregs with
  | none =>
    unfold VwflTarget.virt_to_phys VwflTarget.translation
    simp only [hsregs]
    exact unmapped_eq vaddr
  | some sregs =>
    rw [virt_to_phys_of_sregs profile self hsregs, VwflTarget.translation, hsregs]
    rfl

/-- Translations that the walk finds lie below the 52-bit physical limit. -/
theorem VwflTarget.translation_lt {self : VwflTarget} {vaddr : UInt64} {target : Nat}
    (h : self.translation vaddr = some target) : target < 2 ^ 52 := by
  obtain ⟨sregs, _, hwalk⟩ := Option.bind_eq_some_iff.mp h
  exact walk_lt le_rfl hwalk

end vwfl.gdb
