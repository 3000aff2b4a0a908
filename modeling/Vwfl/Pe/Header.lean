import Vwfl.Pe.File

open Rust LittleEndian

namespace vwfl.pe

/-- `u32::from_le_bytes(data[offset..offset+4].try_into().unwrap())`. File
    offsets are bounded by the length of a vector, so their sums are exact. -/
def readU32 (data : List UInt8) (offset : Nat) : Result UInt32 := do
  let bytes ← slice data offset (offset + 4)
  return toUInt32 bytes

def readU16 (data : List UInt8) (offset : Nat) : Result UInt16 := do
  let bytes ← slice data offset (offset + 2)
  return toUInt16 bytes

def readU64 (data : List UInt8) (offset : Nat) : Result UInt64 := do
  let bytes ← slice data offset (offset + 8)
  return toUInt64 bytes

def PeFile.get_data_directory (self : PeFile) (index : Nat) : Result (UInt32 × UInt32) := do
  let dos_header_e_lfanew ← readU32 self.raw_bytes 0x3C
  let opt_header_offset := dos_header_e_lfanew.toNat + 24
  let data_dir_offset := opt_header_offset + 112 + index * 8
  if data_dir_offset + 8 > self.raw_bytes.length then
    throw (.err "Data Directory out of bounds")
  else do
    let rva ← readU32 self.raw_bytes data_dir_offset
    let size ← readU32 self.raw_bytes (data_dir_offset + 4)
    return (rva, size)

/-- The loop over the section headers from `sect_ptr`, with the number of
    headers still to visit. -/
def findSection (profile : Profile) (raw_bytes : List UInt8) (rva : UInt32) :
    Nat → Nat → Result (Option Nat)
  | 0, _ => .ok (if rva < 4096 then some rva.toNat else none)
  | count + 1, sect_ptr => do
    let v_addr ← readU32 raw_bytes (sect_ptr + 12)
    let v_size ← readU32 raw_bytes (sect_ptr + 8)
    let r_ptr ← readU32 raw_bytes (sect_ptr + 20)
    let r_size ← readU32 raw_bytes (sect_ptr + 16)
    let effective_v_size := if v_size > 0 then v_size else r_size
    if rva ≥ v_addr then do
      let v_end ← profile.add32 v_addr effective_v_size
      if rva < v_end then do
        let delta ← profile.sub32 rva v_addr
        let offset ← profile.add32 r_ptr delta
        return some offset.toNat
      else findSection profile raw_bytes rva count (sect_ptr + 40)
    else findSection profile raw_bytes rva count (sect_ptr + 40)

def PeFile.find_file_offset (profile : Profile) (self : PeFile) (rva : UInt32) : Result (Option Nat) := do
  let e_lfanew ← readU32 self.raw_bytes 0x3C
  let num_sections ← readU16 self.raw_bytes (e_lfanew.toNat + 6)
  let opt_size ← readU16 self.raw_bytes (e_lfanew.toNat + 20)
  findSection profile self.raw_bytes rva num_sections.toNat (e_lfanew.toNat + 24 + opt_size.toNat)

/-- The loop of `rva_to_offset` over the sections not yet visited. -/
def PeFile.offsetIn (profile : Profile) (self : PeFile) (rva : UInt32) : List Section → Result (Option Nat)
  | [] => .ok none
  | found :: rest => do
    let section_rva ← profile.sub64 found.virtual_address self.image_base
    let start := section_rva.toUInt32
    let stop ← profile.add32 start found.virtual_size.toUInt32
    if rva ≥ start ∧ rva < stop then self.find_file_offset profile rva
    else self.offsetIn profile rva rest

def PeFile.rva_to_offset (profile : Profile) (self : PeFile) (rva : UInt32) : Result (Option Nat) :=
  self.offsetIn profile rva self.sections

/-- The text up to the first zero byte, or up to the end of the file. -/
def PeFile.read_cstring (self : PeFile) (offset : Nat) : Result String := do
  let stop := offset + ((self.raw_bytes.drop offset).takeWhile (· != 0)).length
  let text ← slice self.raw_bytes offset stop
  return from_utf8_lossy text

/-- `self.rva_to_offset(rva).ok_or(message)?`. -/
def PeFile.offsetOr (profile : Profile) (self : PeFile) (rva : UInt32) (message : String) : Result Nat := do
  let offset ← self.rva_to_offset profile rva
  ok_or offset message

end vwfl.pe
