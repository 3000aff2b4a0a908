import Vwfl.Pe.Header
import Vwfl.Vm.Memory

open Rust LittleEndian
open vwfl.vm

namespace vwfl.pe

/-- One entry of a relocation block. Entries of other types than DIR64 are
    ignored, and so are words that do not lie in guest memory. -/
def applyEntry (profile : Profile) (p_base delta : UInt64) (page_rva : UInt32) (entry : UInt16) : VmM Unit := do
  let reloc_type := entry >>> 12
  let reloc_offset := entry &&& 0x0FFF
  if reloc_type = 10 then do
    let target_rva := page_rva.toUInt64 + reloc_offset.toUInt64
    let target_paddr ← profile.add64 p_base target_rva
    let target_end ← profile.add64 target_paddr 8
    if target_end ≤ MEM_SIZE then do
      let self ← get
      let current_ptr ← self.copy_from target_paddr 8
      Vm.copy_to target_paddr (ofUInt64 (toUInt64 current_ptr + delta))
    else return ()
  else return ()

/-- The loop over the entries of the block at `offset`, with the number of
    entries still to visit. It stops early at the end of the data. -/
def entryLoop (profile : Profile) (p_base delta : UInt64) (page_rva : UInt32) (data : List UInt8) (offset : Nat) :
    Nat → Nat → VmM Unit
  | 0, _ => return ()
  | count + 1, i => do
    let entry_pos := offset + 8 + i * 2
    if entry_pos + 2 > data.length then return ()
    else do
      let entry ← readU16 data entry_pos
      applyEntry profile p_base delta page_rva entry
      entryLoop profile p_base delta page_rva data offset count (i + 1)

/-- The loop over the blocks. Each round advances by a positive block size, so
    that the length of the data is enough fuel. -/
def blockLoop (profile : Profile) (p_base delta : UInt64) (data : List UInt8) : Nat → Nat → VmM Unit
  | 0, _ => throw .diverge
  | fuel + 1, offset =>
    if offset + 8 ≤ data.length then do
      let page_rva ← readU32 data offset
      let block_size ← readU32 data (offset + 4)
      if block_size = 0 then return ()
      else do
        let entry_bytes ← profile.sub32 block_size 8
        let entry_count := entry_bytes / 2
        entryLoop profile p_base delta page_rva data offset entry_count.toNat 0
        blockLoop profile p_base delta data fuel (offset + block_size.toNat)
    else return ()

def PeFile.apply_relocation (profile : Profile) (self : PeFile) (p_base v_new : UInt64) : VmM Unit := do
  let delta := v_new - self.image_base
  if delta = 0 then return ()
  else do
    let reloc_section ← ok_or (self.sections.find? (·.name == ".reloc")) "Relocation failed: No .reloc section"
    blockLoop profile p_base delta reloc_section.raw_data (reloc_section.raw_data.length + 1) 0

end vwfl.pe
