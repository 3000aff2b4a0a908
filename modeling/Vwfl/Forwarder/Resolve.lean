import Vwfl.Loader.Directory
import Vwfl.Pe.Exports

open Rust
open vwfl.pe vwfl.loader

namespace vwfl.forwarder

/-- The module list that imports are resolved against, with the profile and the
    case mapping that the lookup depends on. -/
structure ForwarderResolver where
  profile : Profile
  cases : CaseMap
  modules : List LoadedModule

def moduleStem (cases : CaseMap) (name : String) : Option String := (file_stem name).map cases.to_uppercase

/-- The first module with the given stem. A module without a stem panics when it
    is reached. -/
def findModule (cases : CaseMap) (target_stem : String) : List LoadedModule → Result (Option LoadedModule)
  | [] => .ok none
  | candidate :: rest =>
    match moduleStem cases candidate.name with
    | none => .error (.panic "called `Option::unwrap()` on a `None` value")
    | some m_stem => if m_stem == target_stem then .ok (some candidate) else findModule cases target_stem rest

/-- The first export with the given ordinal or name. -/
def findExport (exports : List ExportEntry) (func_name : String) : Option ExportEntry :=
  if starts_with func_name '#' then
    match parse_u16 (skip_first func_name) with
    | some ord => exports.find? (·.ordinal == ord)
    | none => none
  else exports.find? (·.name == func_name)

namespace ForwarderResolver

/-- The recursion at depth `11 - remaining`, which gives up at depth 11. -/
def resolve_recursive (self : ForwarderResolver) : Nat → String → String → Result (Option UInt64)
  | 0, _, _ => .ok none
  | remaining + 1, dll_name, func_name =>
    match moduleStem self.cases dll_name with
    | none => .ok none
    | some target_stem => do
      let found ← findModule self.cases target_stem self.modules
      match found with
      | none => return none
      | some loaded => do
        let exports ← attempt (loaded.pe.get_exports self.profile)
        match exports.bind (findExport · func_name) with
        | none => return none
        | some exp =>
          match exp.forwarder with
          | some fwd_str =>
            match split_once fwd_str '.' with
            | some (fwd_dll, fwd_func) => self.resolve_recursive remaining fwd_dll fwd_func
            | none => return none
          | none => do
            let address ← self.profile.add64 loaded.v_base exp.rva.toUInt64
            return some address

def resolve (self : ForwarderResolver) (dll_name func_name : String) : Result (Option UInt64) :=
  self.resolve_recursive 11 dll_name func_name

end ForwarderResolver

end vwfl.forwarder
