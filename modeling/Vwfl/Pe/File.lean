import Vwfl.Rust.Arith
import Vwfl.Rust.Slice
import Vwfl.Rust.Str
import Vwfl.Rust.Utf8
import Vwfl.ByteStore.LittleEndian

open Rust

namespace vwfl.pe

structure Section where
  name : String
  virtual_address : UInt64
  virtual_size : UInt64
  raw_data : List UInt8
  deriving Repr, DecidableEq

structure ExportEntry where
  name : String
  rva : UInt32
  ordinal : UInt16
  forwarder : Option String
  deriving Repr, DecidableEq

structure ImportFunction where
  name : String
  iat_rva : UInt32
  deriving Repr, DecidableEq

structure ImportEntry where
  dll_name : String
  functions : List ImportFunction
  deriving Repr, DecidableEq

structure PeFile where
  entry_point : UInt64
  image_base : UInt64
  sections : List Section
  header_data : List UInt8
  pdb_name : String
  pdb_guid_age : String
  raw_bytes : List UInt8
  deriving Repr, DecidableEq

/-- A CodeView record of the object crate. -/
structure CodeView where
  guid : Fin 16 → UInt8
  path : List UInt8
  age : UInt32

/-- A section of the object crate. The name and the data are absent when their
    accessor returns an error. -/
structure ObjectSection where
  name : Option String
  address : UInt64
  size : UInt64
  data : Option (List UInt8)

/-- File formats of the object crate, with the image base of the optional
    header for the two that the parser accepts. -/
inductive ObjectFormat where
  | Pe32 (image_base : UInt32)
  | Pe64 (image_base : UInt64)
  | Other

/-- What the parser reads of a file of the object crate. The PDB record is
    absent when `pdb_info` returns an error or no record. -/
structure ObjectFile where
  format : ObjectFormat
  pdb_info : Option CodeView
  entry : UInt64
  sections : List ObjectSection

/-- `object::File::parse`, absent on an error. -/
abbrev ObjectCrate := List UInt8 → Option ObjectFile

/-- The formatting `{:0width$X}` of an unsigned integer. -/
def upperHex (width value : Nat) : String :=
  let digits := (Nat.toDigits 16 value).map Char.toUpper
  String.ofList (List.replicate (width - digits.length) '0' ++ digits)

def pdbGuidAge (info : CodeView) : String :=
  upperHex 8 (info.guid 0).toNat ++ upperHex 4 (info.guid 1).toNat ++ upperHex 4 (info.guid 2).toNat ++
    upperHex 2 (info.guid 3).toNat ++ upperHex 2 (info.guid 4).toNat ++ upperHex 2 (info.guid 5).toNat ++
    upperHex 2 (info.guid 6).toNat ++ upperHex 2 (info.guid 7).toNat ++ upperHex 2 (info.guid 8).toNat ++
    upperHex 2 (info.guid 9).toNat ++ upperHex 2 (info.guid 10).toNat ++ upperHex 1 info.age.toNat

/-- Sections with a readable name and a positive size, in file order. -/
def extract_sections : List ObjectSection → Result (List Section)
  | [] => .ok []
  | found :: rest =>
    match found.name with
    | none => extract_sections rest
    | some name =>
      if found.size > 0 then
        match found.data with
        | none => .error (.err "Failed to read section data")
        | some raw_data => do
          let sections ← extract_sections rest
          return { name, virtual_address := found.address, virtual_size := found.size, raw_data } :: sections
      else extract_sections rest

def PeFile.from_bytes (object : ObjectCrate) (bytes : List UInt8) : Result PeFile := do
  let file ← ok_or (object bytes) "Failed to parse PE file"
  let (pdb_name, pdb_guid_age) := match file.pdb_info with
    | some info => (from_utf8_lossy info.path, pdbGuidAge info)
    | none => ("Unknown", "Unknown")
  let (image_base, sections) ← match file.format with
    | .Pe32 image_base => do
      let sections ← extract_sections file.sections
      pure (image_base.toUInt64, sections)
    | .Pe64 image_base => do
      let sections ← extract_sections file.sections
      pure (image_base, sections)
    | .Other => throw (.err "Not a valid PE file")
  return { entry_point := file.entry, image_base, sections, header_data := [], pdb_name, pdb_guid_age,
           raw_bytes := bytes }

/-- Both branches of the source keep the first page of the file. -/
def parse (object : ObjectCrate) (bytes : List UInt8) : Result PeFile := do
  let pe ← PeFile.from_bytes object bytes
  let header_size := if !pe.sections.isEmpty then min 4096 bytes.length else min bytes.length 4096
  let header_data ← slice bytes 0 header_size
  return { pe with header_data }

end vwfl.pe
