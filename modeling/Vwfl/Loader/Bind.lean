import Vwfl.Forwarder.Resolve
import Vwfl.Pe.Imports

open Rust LittleEndian
open vwfl.vm vwfl.pe vwfl.forwarder

namespace vwfl.loader

/-- Patches the slot of one imported function, when it resolves. -/
def bindFunction (resolver : ForwarderResolver) (loaded : LoadedModule) (dll_name : String) (func : ImportFunction) :
    VmM Unit := do
  let resolved ← resolver.resolve dll_name func.name
  match resolved with
  | some addr => do
    let iat_paddr ← resolver.profile.add64 loaded.p_base func.iat_rva.toUInt64
    Vm.write_memory resolver.profile iat_paddr (ofUInt64 addr)
  | none => return ()

def bindModule (resolver : ForwarderResolver) (loaded : LoadedModule) : VmM Unit := do
  let imports ← loaded.pe.get_imports resolver.profile
  forM imports fun imp => forM imp.functions (bindFunction resolver loaded imp.dll_name)

def KernelLoader.bind_all (profile : Profile) (cases : CaseMap) (self : KernelLoader) : VmM Unit :=
  let resolver : ForwarderResolver := { profile, cases, modules := self.modules }
  forM self.modules (bindModule resolver)

end vwfl.loader
