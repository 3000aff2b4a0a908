import Vwfl.Pe.Relocation

open Rust
open vwfl.vm vwfl.pe

namespace vwfl.loader

/-- The copy of one section to its place in guest memory. -/
def loadSection (profile : Profile) (pe_file : PeFile) (load_pbase : UInt64) (found : Section) : VmM Unit := do
  let rva := found.virtual_address - pe_file.image_base
  let phys_dest ← profile.add64 load_pbase rva
  Vm.write_memory profile phys_dest found.raw_data

def loadHeader (profile : Profile) (pe_file : PeFile) (load_pbase : UInt64) : VmM Unit :=
  if !pe_file.header_data.isEmpty then Vm.write_memory profile load_pbase pe_file.header_data
  else return ()

def load_sections (profile : Profile) (pe_file : PeFile) (load_pbase load_vbase : UInt64) : VmM UInt64 := do
  loadHeader profile pe_file load_pbase
  forM pe_file.sections (loadSection profile pe_file load_pbase)
  Stateful.ok (pe_file.apply_relocation profile load_pbase load_vbase)
  let entry_rva := pe_file.entry_point - pe_file.image_base
  profile.add64 load_vbase entry_rva

end vwfl.loader
