import Vwfl.Pe.Header

open Rust LittleEndian

namespace vwfl.pe

/-- The name of an imported function: its ordinal when the top bit of the thunk
    is set, and the text behind the hint otherwise. -/
def PeFile.thunkName (profile : Profile) (self : PeFile) (thunk_data : UInt64) : Result String :=
  if thunk_data &&& ((1 : UInt64) <<< 63) ≠ 0 then .ok ("#" ++ toString (thunk_data &&& 0xFFFF).toNat)
  else do
    let name_rva := (thunk_data &&& 0x7FFFFFFF).toUInt32
    let name_offset ← self.offsetOr profile name_rva "Invalid Hint/Name RVA"
    self.read_cstring (name_offset + 2)

/-- Thunk addresses advance by eight modulo 2^32 and decide alone how the loop
    goes on, so that a loop still running after this many rounds never ends. -/
def THUNK_ROUNDS : Nat := 2 ^ 29

/-- The loop over the lookup table of one descriptor. -/
def PeFile.thunkLoop (profile : Profile) (self : PeFile) : Nat → UInt32 → UInt32 → Result (List ImportFunction)
  | 0, _, _ => .error .diverge
  | fuel + 1, thunk_rva, iat_rva_curr => do
    let thunk_offset ← self.offsetOr profile thunk_rva "Invalid Thunk RVA"
    let thunk_data ← readU64 self.raw_bytes thunk_offset
    if thunk_data = 0 then return []
    else do
      let name ← self.thunkName profile thunk_data
      let next_thunk ← profile.add32 thunk_rva 8
      let next_iat ← profile.add32 iat_rva_curr 8
      let functions ← self.thunkLoop profile fuel next_thunk next_iat
      return { name, iat_rva := iat_rva_curr } :: functions

/-- The loop over the import descriptors. Each round reads twenty further bytes
    of the file, whose length is therefore enough fuel. -/
def PeFile.descriptorLoop (profile : Profile) (self : PeFile) : Nat → Nat → Result (List ImportEntry)
  | 0, _ => .error .diverge
  | fuel + 1, dir_offset => do
    let original_first_thunk ← readU32 self.raw_bytes dir_offset
    let _time_date ← readU32 self.raw_bytes (dir_offset + 4)
    let _forwarder_chain ← readU32 self.raw_bytes (dir_offset + 8)
    let name_rva ← readU32 self.raw_bytes (dir_offset + 12)
    let first_thunk ← readU32 self.raw_bytes (dir_offset + 16)
    if original_first_thunk = 0 ∧ name_rva = 0 then return []
    else do
      let dll_name_offset ← self.offsetOr profile name_rva "Invalid Import Name RVA"
      let dll_name ← self.read_cstring dll_name_offset
      let thunk_rva := if original_first_thunk ≠ 0 then original_first_thunk else first_thunk
      let functions ← self.thunkLoop profile THUNK_ROUNDS thunk_rva first_thunk
      let imports ← self.descriptorLoop profile fuel (dir_offset + 20)
      return { dll_name, functions } :: imports

def PeFile.get_imports (profile : Profile) (self : PeFile) : Result (List ImportEntry) := do
  let (dir_rva, _dir_size) ← self.get_data_directory 1
  if dir_rva = 0 then return []
  else do
    let dir_offset ← self.offsetOr profile dir_rva "Invalid Import RVA"
    self.descriptorLoop profile (self.raw_bytes.length + 1) dir_offset

end vwfl.pe
