import Vwfl.Pe.Header

open Rust LittleEndian

namespace vwfl.pe

/-- A row of the section table. -/
structure SectionHeader where
  name : List UInt8
  virtual_size : UInt32
  virtual_address : UInt32
  size_of_raw_data : UInt32
  pointer_to_raw_data : UInt32

def SectionHeader.encode (self : SectionHeader) : List UInt8 :=
  self.name ++ List.replicate (8 - self.name.length) 0 ++ ofUInt32 self.virtual_size ++
    ofUInt32 self.virtual_address ++ ofUInt32 self.size_of_raw_data ++ ofUInt32 self.pointer_to_raw_data ++
    List.replicate 16 0

/-- A PE32+ image without padding: the DOS header, the NT headers with an export
    and an import directory, the section table and the bytes that follow it. -/
def peImage (image_base : UInt64) (entry : UInt32) (exports imports : UInt32 × UInt32)
    (table : List SectionHeader) (body : List UInt8) : List UInt8 :=
  [0x4D, 0x5A] ++ List.replicate 58 0 ++ ofUInt32 0x40 ++
    [0x50, 0x45, 0, 0] ++ ofUInt16 0x8664 ++ ofUInt16 (UInt16.ofNat table.length) ++ List.replicate 12 0 ++
    ofUInt16 240 ++ ofUInt16 0x22 ++
    ofUInt16 0x20B ++ List.replicate 14 0 ++ ofUInt32 entry ++ List.replicate 4 0 ++ ofUInt64 image_base ++
    List.replicate 76 0 ++ ofUInt32 16 ++
    ofUInt32 exports.1 ++ ofUInt32 exports.2 ++ ofUInt32 imports.1 ++ ofUInt32 imports.2 ++
    List.replicate 112 0 ++ table.flatMap SectionHeader.encode ++ body

/-- A PE32 image without padding, with the same parts. -/
def pe32Image (image_base entry : UInt32) (exports imports : UInt32 × UInt32) (table : List SectionHeader)
    (body : List UInt8) : List UInt8 :=
  [0x4D, 0x5A] ++ List.replicate 58 0 ++ ofUInt32 0x40 ++
    [0x50, 0x45, 0, 0] ++ ofUInt16 0x14C ++ ofUInt16 (UInt16.ofNat table.length) ++ List.replicate 12 0 ++
    ofUInt16 224 ++ ofUInt16 0x102 ++
    ofUInt16 0x10B ++ List.replicate 14 0 ++ ofUInt32 entry ++ List.replicate 8 0 ++ ofUInt32 image_base ++
    List.replicate 60 0 ++ ofUInt32 16 ++
    ofUInt32 exports.1 ++ ofUInt32 exports.2 ++ ofUInt32 imports.1 ++ ofUInt32 imports.2 ++
    List.replicate 112 0 ++ table.flatMap SectionHeader.encode ++ body

/-- The sections of the object crate, from the section table at `sect_ptr`. -/
def crateSections (bytes : List UInt8) (image_base : UInt64) : Nat → Nat → Result (List ObjectSection)
  | 0, _ => .ok []
  | count + 1, sect_ptr => do
    let name ← slice bytes sect_ptr (sect_ptr + 8)
    let virtual_size ← readU32 bytes (sect_ptr + 8)
    let virtual_address ← readU32 bytes (sect_ptr + 12)
    let size_of_raw_data ← readU32 bytes (sect_ptr + 16)
    let pointer_to_raw_data ← readU32 bytes (sect_ptr + 20)
    let start := pointer_to_raw_data.toNat
    let stop := start + min virtual_size.toNat size_of_raw_data.toNat
    let rest ← crateSections bytes image_base count (sect_ptr + 40)
    return {
      name := some (from_utf8_lossy (name.takeWhile (· != 0)))
      address := image_base + virtual_address.toUInt64
      size := virtual_size.toUInt64
      data := (slice bytes start stop).toOption } :: rest

/-- The object crate on PE32+ images without a debug directory and with short,
    plain section names. -/
def crateFile (bytes : List UInt8) : Result ObjectFile := do
  let signature ← slice bytes 0 2
  let e_lfanew ← readU32 bytes 0x3C
  let nt_header := e_lfanew.toNat
  let nt_signature ← readU32 bytes nt_header
  let num_sections ← readU16 bytes (nt_header + 6)
  let opt_size ← readU16 bytes (nt_header + 20)
  let magic ← readU16 bytes (nt_header + 24)
  let entry ← readU32 bytes (nt_header + 24 + 16)
  let image_base ← readU64 bytes (nt_header + 24 + 24)
  let sections ← crateSections bytes image_base num_sections.toNat (nt_header + 24 + opt_size.toNat)
  if signature = [0x4D, 0x5A] ∧ nt_signature = 0x4550 ∧ magic = 0x20B then
    return { format := .Pe64 image_base, pdb_info := none, entry := image_base + entry.toUInt64, sections }
  else throw (.err "Unsupported file format")

def peCrate : ObjectCrate := fun bytes => (crateFile bytes).toOption

/-- The object crate on such PE32 images. -/
def crateFile32 (bytes : List UInt8) : Result ObjectFile := do
  let signature ← slice bytes 0 2
  let e_lfanew ← readU32 bytes 0x3C
  let nt_header := e_lfanew.toNat
  let nt_signature ← readU32 bytes nt_header
  let num_sections ← readU16 bytes (nt_header + 6)
  let opt_size ← readU16 bytes (nt_header + 20)
  let magic ← readU16 bytes (nt_header + 24)
  let entry ← readU32 bytes (nt_header + 24 + 16)
  let image_base ← readU32 bytes (nt_header + 24 + 28)
  let sections ← crateSections bytes image_base.toUInt64 num_sections.toNat (nt_header + 24 + opt_size.toNat)
  if signature = [0x4D, 0x5A] ∧ nt_signature = 0x4550 ∧ magic = 0x10B then
    return { format := .Pe32 image_base, pdb_info := none, entry := image_base.toUInt64 + entry.toUInt64, sections }
  else throw (.err "Unsupported file format")

def pe32Crate : ObjectCrate := fun bytes => (crateFile32 bytes).toOption

end vwfl.pe
