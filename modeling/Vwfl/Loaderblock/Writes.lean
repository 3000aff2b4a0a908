import Vwfl.Loaderblock.Setup
import Vwfl.Vm.Effects

open Rust ByteStore LittleEndian
open vwfl.vm

namespace vwfl.loaderblock

/-- Stores of `Kpcr::setup`: both regions, then two fields of the second. -/
def Kpcr.writes (vaddr : UInt64) (paddr : Nat) (gdt_v idt_v tss_v stack_v : UInt64) : List (Nat × List UInt8) := [
  (paddr, KPCR gdt_v tss_v vaddr (vaddr + 0x180) vaddr idt_v 1 1 0x00000024),
  (paddr + 0x180, KPRCB 0x1F80 stack_v 3600 19041 10 3600000000 0x80050033 0x8102000 0x6f8),
  (paddr + 0x248, ofUInt64 1), (paddr + 0x254, ofUInt32 0)]

def LoaderParameterBlock.writes (lpb_v : UInt64) (lpb_p : Nat) (prcb_v stack_v : UInt64) (stack_size : UInt32)
    (registry_v : UInt64) (registry_size : UInt32) (nls_v : UInt64) : List (Nat × List UInt8) := [
  (lpb_p + 0xC000, [0]),
  (lpb_p, LOADER_PARAMETER_BLOCK 10 0x160 stack_v prcb_v (prcb_v - 0x180 + 0x6000) (prcb_v - 0x180 + 0x5000)
    stack_size registry_size registry_v (lpb_v + 0xC000) nls_v (lpb_v + 0x8000))]

def LoaderParameterExtension.writes (ext_v : UInt64) (ext_p : Nat) : List (Nat × List UInt8) := [
  (ext_p, (LOADER_PARAMETER_EXTENSION 0xE38 0x4000 (ext_v + 0xA18) (ext_v + 0xA18) 10 0).take 0xE38)]

/-- Stores of `add_module`: the node and its name. -/
def LdrDataTableEntry.writes (entry_v : UInt64) (entry_p : Nat) (img_base entry_point : UInt64) (size : UInt32)
    (name : String) : List (Nat × List UInt8) :=
  let len := UInt16.ofNat (nameBytes name).length
  [(entry_p, LDR_DATA_TABLE_ENTRY img_base entry_point size len (len + 2) (entry_v + 0x150) 0x40004 1),
    (entry_p + 0x150, nameBytes name)]

section Misses

variable {start length : Nat}

theorem Kpcr.writes_misses {vaddr gdt_v idt_v tss_v stack_v : UInt64} {paddr : Nat}
    (h : Disjoint start length paddr 0x880) : Misses start length (writes vaddr paddr gdt_v idt_v tss_v stack_v) := by
  intro write hwrite
  simp only [writes, List.mem_cons, List.not_mem_nil, or_false] at hwrite
  rcases hwrite with rfl | rfl | rfl | rfl
  all_goals
    refine h.inner (by simp only; omega) ?_
    simp only [length_KPCR, length_KPRCB, length_ofUInt64, length_ofUInt32]
    omega

theorem LoaderParameterBlock.writes_misses {lpb_v prcb_v stack_v registry_v nls_v : UInt64} {lpb_p : Nat}
    {stack_size registry_size : UInt32} (hblock : Disjoint start length lpb_p 0x160)
    (hoptions : Disjoint start length (lpb_p + 0xC000) 1) :
    Misses start length (writes lpb_v lpb_p prcb_v stack_v stack_size registry_v registry_size nls_v) := by
  refine misses_cons.mpr ⟨hoptions, misses_cons.mpr ⟨?_, misses_nil start length⟩⟩
  rw [length_LOADER_PARAMETER_BLOCK]
  exact hblock

theorem LoaderParameterExtension.writes_misses {ext_v : UInt64} {ext_p : Nat}
    (h : Disjoint start length ext_p 0xE38) : Misses start length (writes ext_v ext_p) := by
  refine misses_cons.mpr ⟨?_, misses_nil start length⟩
  rw [List.length_take, length_LOADER_PARAMETER_EXTENSION]
  exact h

end Misses

variable (profile : Profile)

theorem Kpcr.setup_performs {vaddr paddr gdt_v idt_v tss_v stack_v : UInt64} (hvaddr : vaddr.toNat + 0x180 < 2 ^ 64)
    (hpaddr : paddr.toNat + 0x880 ≤ MEM_SIZE.toNat) :
    Performs (Kpcr.setup profile vaddr paddr gdt_v idt_v tss_v stack_v)
      (Kpcr.writes vaddr paddr.toNat gdt_v idt_v tss_v stack_v) := by
  have hbound := hpaddr
  rw [MEM_SIZE_toNat] at hbound
  refine Performs.add_then profile 0x180 rfl hvaddr fun _ => ?_
  refine Performs.write_then profile rfl rfl (by rw [length_KPCR]; omega) ?_
  refine Performs.add_then profile 0x180 rfl (by omega) fun hprcb => ?_
  refine Performs.write_then profile hprcb rfl (by rw [length_KPRCB]; omega) ?_
  refine Performs.add_then profile 0xc8 rfl (by omega) fun hgroup => ?_
  refine Performs.write_ok_then profile (by omega) rfl (by rw [length_ofUInt64]; omega) ?_
  refine Performs.add_then profile 0xd4 rfl (by omega) fun hapic => ?_
  have haddress : (paddr + 0x180 + 0xd4).toNat = paddr.toNat + 0x254 := by omega
  rw [← haddress]
  exact Performs.write_memory_ok profile (by rw [length_ofUInt32]; omega)

theorem LoaderParameterBlock.setup_performs {lpb_v lpb_p prcb_v stack_v registry_v nls_v : UInt64}
    {stack_size registry_size : UInt32} (hlpb_v : lpb_v.toNat + 0xC000 < 2 ^ 64)
    (hprcb : 0x180 ≤ prcb_v.toNat ∧ prcb_v.toNat + 0x6000 < 2 ^ 64) (hlpb_p : lpb_p.toNat + 0xC001 ≤ MEM_SIZE.toNat) :
    Performs
      (LoaderParameterBlock.setup profile lpb_v lpb_p prcb_v stack_v stack_size registry_v registry_size nls_v)
      (LoaderParameterBlock.writes lpb_v lpb_p.toNat prcb_v stack_v stack_size registry_v registry_size nls_v) := by
  have hbound := hlpb_p
  rw [MEM_SIZE_toNat] at hbound
  obtain ⟨hlow, hhigh⟩ := hprcb
  have hkpcr : (prcb_v - 0x180).toNat = prcb_v.toNat - 0x180 := BitField.toNat_sub_of_le hlow
  refine Performs.lift_bind (profile.sub64_of_le hlow) ?_
  refine Performs.add_then profile 0x6000 rfl (by omega) fun _ => ?_
  refine Performs.add_then profile 0x5000 rfl (by omega) fun _ => ?_
  refine Performs.add_then profile 0x8000 rfl (by omega) fun _ => ?_
  refine Performs.add_then profile 0xC000 rfl (by omega) fun hoptions => ?_
  refine Performs.write_ok_then profile hoptions rfl (by rw [List.length_singleton]; omega) ?_
  refine Performs.add_then profile 0xC000 rfl (by omega) fun _ => ?_
  exact Performs.write_memory profile (by rw [length_LOADER_PARAMETER_BLOCK]; omega)

theorem LoaderParameterExtension.setup_performs {ext_p ext_v : UInt64} (hext_v : ext_v.toNat + 0xA18 < 2 ^ 64)
    (hext_p : ext_p.toNat + 0xE38 ≤ MEM_SIZE.toNat) :
    Performs (LoaderParameterExtension.setup profile ext_p ext_v)
      (LoaderParameterExtension.writes ext_v ext_p.toNat) := by
  refine Performs.add_then profile 0xA18 rfl hext_v fun _ => ?_
  exact Performs.write_memory profile (by rw [List.length_take, length_LOADER_PARAMETER_EXTENSION]; omega)

theorem LoaderParameterExtension.set_acpi_performs {ext_p rsdp_v : UInt64}
    (hext_p : ext_p.toNat + 0x84 ≤ MEM_SIZE.toNat) :
    Performs (LoaderParameterExtension.set_acpi profile ext_p rsdp_v)
      [(ext_p.toNat + 0x78, ofUInt64 rsdp_v), (ext_p.toNat + 0x80, ofUInt32 36)] := by
  have hbound := hext_p
  rw [MEM_SIZE_toNat] at hbound
  refine Performs.add_then profile 0x78 rfl (by omega) fun htable => ?_
  refine Performs.write_then profile htable rfl (by rw [length_ofUInt64]; omega) ?_
  refine Performs.add_then profile 0x80 rfl (by omega) fun hsize => ?_
  rw [← hsize]
  exact Performs.write_memory profile (by rw [length_ofUInt32]; omega)

theorem LoaderParameterExtension.set_apiset_performs {ext_p apiset_v : UInt64} {size : UInt32}
    (hext_p : ext_p.toNat + 0xA8C ≤ MEM_SIZE.toNat) :
    Performs (LoaderParameterExtension.set_apiset profile ext_p apiset_v size)
      [(ext_p.toNat + 0xA80, ofUInt64 apiset_v), (ext_p.toNat + 0xA88, ofUInt32 size)] := by
  have hbound := hext_p
  rw [MEM_SIZE_toNat] at hbound
  refine Performs.add_then profile 0xA80 rfl (by omega) fun hschema => ?_
  refine Performs.write_then profile hschema rfl (by rw [length_ofUInt64]; omega) ?_
  refine Performs.add_then profile 0xA88 rfl (by omega) fun hsize => ?_
  rw [← hsize]
  exact Performs.write_memory profile (by rw [length_ofUInt32]; omega)

namespace LdrDataTableEntry

variable {entry_v entry_p img_base entry_point : UInt64} {size : UInt32} {name : String}

/-- Once its two sums are computed, adding a module writes the node and the
    name. -/
theorem add_module_performs (hbuffer : profile.add64 entry_v 0x150 = .ok (entry_v + 0x150))
    (hmaximum : profile.add16 (UInt16.ofNat (nameBytes name).length) 2 =
      .ok (UInt16.ofNat (nameBytes name).length + 2))
    (hentry_p : entry_p.toNat + 0x150 + (nameBytes name).length ≤ MEM_SIZE.toNat) :
    Performs (add_module profile entry_v entry_p img_base entry_point size name)
      (writes entry_v entry_p.toNat img_base entry_point size name) := by
  have hbound := hentry_p
  rw [MEM_SIZE_toNat] at hbound
  refine Performs.lift_bind hbuffer (Performs.lift_bind hmaximum ?_)
  refine Performs.write_then profile rfl rfl (by rw [length_LDR_DATA_TABLE_ENTRY]; omega) ?_
  refine Performs.add_then profile 0x150 rfl (by omega) fun hname => ?_
  rw [← hname]
  exact Performs.write_memory profile (by omega)

/-- Adding a module panics on a sum or writes the node and the name. -/
theorem add_module_leaves (hentry_p : entry_p.toNat + 0x150 + (nameBytes name).length ≤ MEM_SIZE.toNat) :
    Leaves (Stateful.ok (add_module profile entry_v entry_p img_base entry_point size name))
      (writes entry_v entry_p.toNat img_base entry_point size name) := by
  intro before after value hrun
  have hbuffer : profile.add64 entry_v 0x150 = .ok (entry_v + 0x150) ∨
      profile.add64 entry_v 0x150 = .error (.panic "attempt to add with overflow") := profile.checked_cases _ _ _
  have hmaximum : profile.add16 (UInt16.ofNat (nameBytes name).length) 2 =
        .ok (UInt16.ofNat (nameBytes name).length + 2) ∨
      profile.add16 (UInt16.ofNat (nameBytes name).length) 2 = .error (.panic "attempt to add with overflow") :=
    profile.checked_cases _ _ _
  by_cases hsums : profile.add64 entry_v 0x150 = .ok (entry_v + 0x150) ∧
      profile.add16 (UInt16.ofNat (nameBytes name).length) 2 = .ok (UInt16.ofNat (nameBytes name).length + 2)
  · exact (add_module_performs profile hsums.1 hsums.2 hentry_p).ok.leaves before after value hrun
  · have hpanic : (add_module profile entry_v entry_p img_base entry_point size name).run before =
        .error (.panic "attempt to add with overflow") before := by
      unfold add_module
      rcases hbuffer with hok | hpanic
      · have hlength := hmaximum.resolve_left fun hlength => hsums ⟨hok, hlength⟩
        rw [Stateful.bind_run, hok, Stateful.lift_ok_run]
        simp only [Stateful.bind_run, hlength, Stateful.lift_error_run]
      · rw [Stateful.bind_run, hpanic, Stateful.lift_error_run]
    rcases Stateful.ok_run_eq_ok_iff.mp hrun with ⟨_, hresult⟩ | ⟨_, hresult⟩
    · rw [hpanic] at hresult
      cases hresult
    · rw [hpanic] at hresult
      cases hresult

end LdrDataTableEntry

end vwfl.loaderblock
