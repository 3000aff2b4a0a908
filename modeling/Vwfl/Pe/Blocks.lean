import Vwfl.Pe.Relocation
import Vwfl.ByteStore.Patch

open Rust LittleEndian ByteStore
open vwfl.vm

namespace vwfl.pe

/-- A relocation block: a page and its entries, each either padding or a DIR64
    fixup. -/
structure RelocBlock where
  page_rva : UInt32
  entries : List UInt16
  types : ∀ entry ∈ entries, entry >>> 12 = 0 ∨ entry >>> 12 = 10
  size_lt : 8 + 2 * entries.length < 2 ^ 32

namespace RelocBlock

def block_size (self : RelocBlock) : UInt32 := UInt32.ofNat (8 + 2 * self.entries.length)

/-- The block as it stands in the file. -/
def encode (self : RelocBlock) : List UInt8 :=
  ofUInt32 self.page_rva ++ (ofUInt32 self.block_size ++ self.entries.flatMap ofUInt16)

end RelocBlock

/-- Relative address of the word that an entry fixes up, if any. -/
def entryTargets (page_rva : UInt32) (entry : UInt16) : List Nat :=
  if entry >>> 12 = 10 then [page_rva.toNat + (entry &&& 0x0FFF).toNat] else []

def RelocBlock.targets (self : RelocBlock) : List Nat := self.entries.flatMap (entryTargets self.page_rva)

/-- Blocks followed by zero padding. -/
def relocData (blocks : List RelocBlock) (padding : Nat) : List UInt8 :=
  blocks.flatMap RelocBlock.encode ++ List.replicate padding 0

def relocTargets (blocks : List RelocBlock) : List Nat := blocks.flatMap RelocBlock.targets

private theorem length_flatMap_ofUInt16 (entries : List UInt16) :
    (entries.flatMap ofUInt16).length = 2 * entries.length := by
  induction entries with
  | nil => rfl
  | cons entry entries ih =>
    rw [List.flatMap_cons, List.length_append, length_ofUInt16, ih, List.length_cons]
    omega

theorem RelocBlock.length_encode (self : RelocBlock) : self.encode.length = 8 + 2 * self.entries.length := by
  simp only [encode, List.length_append, length_ofUInt32, length_flatMap_ofUInt16]
  omega

theorem RelocBlock.block_size_toNat (self : RelocBlock) : self.block_size.toNat = 8 + 2 * self.entries.length := by
  rw [block_size, UInt32.toNat_ofNat']
  exact Nat.mod_eq_of_lt self.size_lt

/-- Memory after the given words have been relocated. -/
def relocated (p_base delta : UInt64) (mem : Nat → UInt8) (targets : List Nat) : Nat → UInt8 :=
  patchAll (· + delta) mem (targets.map (p_base.toNat + ·))

theorem relocated_append (p_base delta : UInt64) (mem : Nat → UInt8) (first second : List Nat) :
    relocated p_base delta mem (first ++ second) =
      relocated p_base delta (relocated p_base delta mem first) second := by
  rw [relocated, List.map_append, patchAll_append]
  rfl

private theorem target_toNat {p_base : UInt64} {page_rva : UInt32} {entry : UInt16} {target : Nat}
    (htarget : target = page_rva.toNat + (entry &&& 0x0FFF).toNat)
    (hfits : p_base.toNat + target + 8 ≤ MEM_SIZE.toNat) :
    (page_rva.toUInt64 + (entry &&& 0x0FFF).toUInt64).toNat = target ∧
      (p_base + (page_rva.toUInt64 + (entry &&& 0x0FFF).toUInt64)).toNat = p_base.toNat + target := by
  rw [MEM_SIZE_toNat] at hfits
  have hrva : (page_rva.toUInt64 + (entry &&& 0x0FFF).toUInt64).toNat = target := by
    have hpage : page_rva.toUInt64.toNat = page_rva.toNat := UInt32.toNat_toUInt64 page_rva
    have hoffset : (entry &&& 0x0FFF).toUInt64.toNat = (entry &&& 0x0FFF).toNat := UInt16.toNat_toUInt64 _
    rw [BitField.toNat_add_of_lt (by omega), hpage, hoffset, htarget]
  exact ⟨hrva, by rw [BitField.toNat_add_of_lt (by omega), hrva]⟩

variable (profile : Profile) (p_base delta : UInt64)

/-- An entry relocates the words it names, provided that they lie in guest
    memory. -/
theorem applyEntry_run {page_rva : UInt32} {entry : UInt16} (self : Vm)
    (hfits : ∀ target ∈ entryTargets page_rva entry, p_base.toNat + target + 8 ≤ MEM_SIZE.toNat) :
    (applyEntry profile p_base delta page_rva entry).run self =
      .ok () { self with mem := relocated p_base delta self.mem (entryTargets page_rva entry) } := by
  by_cases htype : entry >>> 12 = 10
  · have htargets : entryTargets page_rva entry = [page_rva.toNat + (entry &&& 0x0FFF).toNat] := if_pos htype
    rw [htargets] at hfits ⊢
    have hfit := hfits _ List.mem_cons_self
    obtain ⟨hrva, hpaddr⟩ := target_toNat rfl hfit
    rw [MEM_SIZE_toNat] at hfit
    have height : (8 : UInt64).toNat = 8 := rfl
    have hend : (p_base + (page_rva.toUInt64 + (entry &&& 0x0FFF).toUInt64) + 8).toNat =
        p_base.toNat + (page_rva.toNat + (entry &&& 0x0FFF).toNat) + 8 := by
      rw [BitField.toNat_add_of_lt (by omega), hpaddr, height]
    have hcheck : p_base + (page_rva.toUInt64 + (entry &&& 0x0FFF).toUInt64) + 8 ≤ MEM_SIZE := by
      rw [UInt64.le_iff_toNat_le, hend, MEM_SIZE_toNat]
      exact hfit
    unfold applyEntry
    simp only [if_pos htype]
    rw [profile.add64_of_lt (by omega), Stateful.bind_run, Stateful.lift_ok_run]
    simp only []
    rw [profile.add64_of_lt (by omega), Stateful.bind_run, Stateful.lift_ok_run]
    simp only [if_pos hcheck]
    rw [Stateful.bind_run]
    change (((self.copy_from _ 8 : Result (List UInt8)) : VmM (List UInt8)) >>= _).run self = _
    rw [Vm.copy_from, hpaddr, if_pos (by rw [MEM_SIZE_toNat]; exact hfit), Stateful.bind_run, Stateful.lift_ok_run]
    change Vm.copy_to _ _ self = _
    rw [Vm.copy_to, hpaddr, if_pos (by rw [MEM_SIZE_toNat, length_ofUInt64]; exact hfit)]
    rfl
  · have htargets : entryTargets page_rva entry = [] := if_neg htype
    rw [htargets]
    unfold applyEntry
    simp only [if_neg htype]
    rfl

end vwfl.pe
