import Vwfl.Pe.Blocks
import Vwfl.Vm.Frame

open Rust LittleEndian ByteStore
open vwfl.vm

namespace vwfl.pe

/-- Relative addresses of the words that the entry loop fixes up, for any
    data. -/
def entryFixups (page_rva : UInt32) (data : List UInt8) (offset : Nat) : Nat → Nat → List Nat
  | 0, _ => []
  | count + 1, i =>
    match readU16 data (offset + 8 + i * 2) with
    | .ok entry => entryTargets page_rva entry ++ entryFixups page_rva data offset count (i + 1)
    | .error _ => []

/-- Relative addresses of the words that the block loop fixes up. -/
def blockFixups (profile : Profile) (data : List UInt8) : Nat → Nat → List Nat
  | 0, _ => []
  | fuel + 1, offset =>
    match readU32 data offset, readU32 data (offset + 4) with
    | .ok page_rva, .ok block_size =>
      if block_size = 0 then []
      else
        match profile.sub32 block_size 8 with
        | .ok entry_bytes =>
          entryFixups page_rva data offset (entry_bytes / 2).toNat 0 ++
            blockFixups profile data fuel (offset + block_size.toNat)
        | .error _ => []
    | _, _ => []

/-- Relative addresses of the words that the relocation section names. -/
def PeFile.fixups (profile : Profile) (self : PeFile) : List Nat :=
  match self.sections.find? (·.name == ".reloc") with
  | some reloc_section => blockFixups profile reloc_section.raw_data (reloc_section.raw_data.length + 1) 0
  | none => []

section Frame

variable {region : Nat → Prop} {p_base : UInt64} (hbase : p_base.toNat ≤ MEM_SIZE.toNat) (profile : Profile)
  (delta : UInt64)

/-- The words at the given relative addresses lie in the region, as far as they
    lie in guest memory. -/
def FixupsIn (region : Nat → Prop) (p_base : UInt64) (targets : List Nat) : Prop :=
  ∀ target ∈ targets, p_base.toNat + target + 8 ≤ MEM_SIZE.toNat →
    ∀ address, Within (p_base.toNat + target) 8 address → region address

include hbase

theorem applyEntry_changesOnly {page_rva : UInt32} {entry : UInt16}
    (hregion : FixupsIn region p_base (entryTargets page_rva entry)) :
    ChangesOnly region (applyEntry profile p_base delta page_rva entry) := by
  by_cases htype : entry >>> 12 = 10
  · simp only [applyEntry, if_pos htype]
    have hsize := MEM_SIZE_toNat
    have hpage := page_rva.toNat_lt
    have hoffset := (entry &&& 0x0FFF).toNat_lt
    have hpageWide : page_rva.toUInt64.toNat = page_rva.toNat := UInt32.toNat_toUInt64 page_rva
    have hoffsetWide : (entry &&& 0x0FFF).toUInt64.toNat = (entry &&& 0x0FFF).toNat := UInt16.toNat_toUInt64 _
    have hrva : (page_rva.toUInt64 + (entry &&& 0x0FFF).toUInt64).toNat =
        page_rva.toNat + (entry &&& 0x0FFF).toNat := by
      rw [BitField.toNat_add_of_lt (by omega), hpageWide, hoffsetWide]
    refine Stateful.Moves.lift_bind fun target_paddr hpaddr => Stateful.Moves.lift_bind fun target_end _ => ?_
    have htarget : target_paddr.toNat = p_base.toNat + (page_rva.toNat + (entry &&& 0x0FFF).toNat) := by
      rw [Profile.eq_of_add64 hpaddr, BitField.toNat_add_of_lt (by omega), hrva]
    split
    · refine Stateful.Moves.get.bind fun self => Stateful.Moves.lift_bind fun current_ptr _ => ?_
      refine ChangesOnly.copy_to ?_
      rw [length_ofUInt64, htarget]
      exact hregion _ (by simp [entryTargets, htype])
    · exact Stateful.Moves.pure ()
  · simp only [applyEntry, if_neg htype]
    exact Stateful.Moves.pure ()

theorem entryLoop_changesOnly {page_rva : UInt32} {data : List UInt8} {offset count i : Nat}
    (hregion : FixupsIn region p_base (entryFixups page_rva data offset count i)) :
    ChangesOnly region (entryLoop profile p_base delta page_rva data offset count i) := by
  induction count generalizing i with
  | zero => exact Stateful.Moves.pure ()
  | succ count ih =>
    simp only [entryLoop]
    split
    · exact Stateful.Moves.pure ()
    · refine Stateful.Moves.lift_bind fun entry hentry => ?_
      simp only [entryFixups, hentry] at hregion
      refine (applyEntry_changesOnly hbase profile delta ?_).bind fun _ => ih ?_
      · exact fun target htarget => hregion target (List.mem_append_left _ htarget)
      · exact fun target htarget => hregion target (List.mem_append_right _ htarget)

theorem blockLoop_changesOnly {data : List UInt8} {fuel offset : Nat}
    (hregion : FixupsIn region p_base (blockFixups profile data fuel offset)) :
    ChangesOnly region (blockLoop profile p_base delta data fuel offset) := by
  induction fuel generalizing offset with
  | zero => exact Stateful.Moves.throw _
  | succ fuel ih =>
    simp only [blockLoop]
    split
    · refine Stateful.Moves.lift_bind fun page_rva hpage => Stateful.Moves.lift_bind fun block_size hblock => ?_
      split
      · exact Stateful.Moves.pure ()
      · rename_i hpositive
        refine Stateful.Moves.lift_bind fun entry_bytes hbytes => ?_
        simp only [blockFixups, hpage, hblock, if_neg hpositive, hbytes] at hregion
        refine (entryLoop_changesOnly hbase profile delta ?_).bind fun _ => ih ?_
        · exact fun target htarget => hregion target (List.mem_append_left _ htarget)
        · exact fun target htarget => hregion target (List.mem_append_right _ htarget)
    · exact Stateful.Moves.pure ()

/-- Relocation changes only words that the relocation section names, and nothing
    at the preferred address. -/
theorem PeFile.apply_relocation_changesOnly {self : PeFile} {v_new : UInt64}
    (hregion : v_new ≠ self.image_base → FixupsIn region p_base (self.fixups profile)) :
    ChangesOnly region (self.apply_relocation profile p_base v_new) := by
  unfold PeFile.apply_relocation
  by_cases hdelta : v_new - self.image_base = 0
  · simp only [if_pos hdelta]
    exact Stateful.Moves.pure ()
  · simp only [if_neg hdelta]
    refine Stateful.Moves.lift_bind fun reloc_section hreloc => ?_
    have hfixups := hregion fun hsame => hdelta (by rw [hsame, UInt64.sub_self])
    cases hfound : self.sections.find? (·.name == ".reloc") with
    | none =>
      rw [hfound] at hreloc
      cases hreloc
    | some found =>
      rw [hfound] at hreloc
      obtain rfl : found = reloc_section := by injection hreloc
      rw [PeFile.fixups, hfound] at hfixups
      exact blockLoop_changesOnly hbase profile _ hfixups

end Frame

end vwfl.pe
