import Vwfl.Pe.Header

open Rust LittleEndian

namespace vwfl.pe

/-- Names by function index, the latest insertion first. -/
abbrev NameMap := List (UInt16 × String)

/-- One iteration of the loop over the name table. -/
def PeFile.insertName (profile : Profile) (self : PeFile) (name_offset ordinal_offset : Nat) (name_map : NameMap)
    (i : Nat) : Result NameMap := do
  let name_ptr_rva ← readU32 self.raw_bytes (name_offset + i * 4)
  let name_str_offset ← self.offsetOr profile name_ptr_rva "Invalid Name String RVA"
  let name ← self.read_cstring name_str_offset
  let ordinal ← readU16 self.raw_bytes (ordinal_offset + i * 2)
  return (ordinal, name) :: name_map

/-- The forwarder string of a function whose address lies in the export
    directory. -/
def PeFile.forwarderOf (profile : Profile) (self : PeFile) (dir_rva dir_size func_rva : UInt32) :
    Result (Option String) :=
  if func_rva ≥ dir_rva then do
    let dir_end ← profile.add32 dir_rva dir_size
    if func_rva < dir_end then do
      let fwd_offset ← self.rva_to_offset profile func_rva
      match fwd_offset with
      | some offset => do
        let text ← self.read_cstring offset
        return some text
      | none => return none
    else return none
  else return none

/-- One iteration of the loop over the address table. -/
def PeFile.exportAt (profile : Profile) (self : PeFile) (dir_rva dir_size base : UInt32) (addr_offset : Nat)
    (name_map : NameMap) (i : Nat) : Result (Option ExportEntry) := do
  let func_rva ← readU32 self.raw_bytes (addr_offset + i * 4)
  if func_rva = 0 then return none
  else do
    let ordinal32 ← profile.add32 (UInt32.ofNat i) base
    let ordinal := ordinal32.toUInt16
    let name := (name_map.lookup (UInt16.ofNat i)).getD ("#" ++ toString ordinal.toNat)
    let forwarder ← self.forwarderOf profile dir_rva dir_size func_rva
    return some { name, rva := func_rva, ordinal, forwarder }

def PeFile.get_exports (profile : Profile) (self : PeFile) : Result (List ExportEntry) := do
  let (dir_rva, dir_size) ← self.get_data_directory 0
  if dir_rva = 0 then return []
  else do
    let dir_offset ← self.offsetOr profile dir_rva "Invalid Export RVA"
    let base ← readU32 self.raw_bytes (dir_offset + 16)
    let num_funcs ← readU32 self.raw_bytes (dir_offset + 20)
    let num_names ← readU32 self.raw_bytes (dir_offset + 24)
    let addr_table_rva ← readU32 self.raw_bytes (dir_offset + 28)
    let name_table_rva ← readU32 self.raw_bytes (dir_offset + 32)
    let ordinal_table_rva ← readU32 self.raw_bytes (dir_offset + 36)
    let addr_offset ← self.offsetOr profile addr_table_rva "Invalid Address Table RVA"
    let name_offset ← self.offsetOr profile name_table_rva "Invalid Name Table RVA"
    let ordinal_offset ← self.offsetOr profile ordinal_table_rva "Invalid Ordinal Table RVA"
    let name_map ← (List.range num_names.toNat).foldlM (self.insertName profile name_offset ordinal_offset) []
    let exports ← (List.range num_funcs.toNat).mapM
      (self.exportAt profile dir_rva dir_size base addr_offset name_map)
    return exports.filterMap id

end vwfl.pe
