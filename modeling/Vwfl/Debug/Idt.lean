import Vwfl.Main.Layout
import Vwfl.Rust.Slice
import Vwfl.Vm.Effects

open Rust ByteStore LittleEndian
open vwfl.vm vwfl.main

namespace vwfl.debug

def idt_pbase : UInt64 := SYSTEM_BASE + 0x20000

def stub_base_p : UInt64 := SYSTEM_BASE + 0x10000

def stub_base_v : UInt64 := 0xFFFFF80000000000 + stub_base_p

def save_area_v : UInt64 := 0xFFFFF80000000000 + (SYSTEM_BASE + 0x60000)

/-- The handler of a vector: it saves rax, rcx and rdx, reports the vector on a
    port and halts. -/
def stub (i : Nat) : List UInt8 :=
  [0x48, 0xA3] ++ ofUInt64 save_area_v ++ [0x48, 0x89, 0xC8, 0x48, 0xA3] ++ ofUInt64 (save_area_v + 8) ++
    [0x48, 0x89, 0xD0, 0x48, 0xA3] ++ ofUInt64 (save_area_v + 16) ++ [0xB0, UInt8.ofNat i, 0xE6, 0xF9, 0xF4]

/-- The interrupt gate to the handler of a vector. -/
def idtEntry (i : Nat) : List UInt8 :=
  let h := stub_base_v + UInt64.ofNat i * 64
  let entry := splice (List.replicate 16 0) 0 (ofUInt16 h.toUInt16)
  let entry := splice entry 2 (ofUInt16 0x10)
  let entry := splice entry 5 [0x8E]
  let entry := splice entry 6 (ofUInt16 (h >>> 16).toUInt16)
  splice entry 8 (ofUInt32 (h >>> 32).toUInt32)

def setup_diagnostic_idt (profile : Profile) : VmM Unit :=
  forM (List.range 256) fun i => do
    Vm.write_memory profile (stub_base_p + UInt64.ofNat i * 64) (stub i)
    Vm.write_memory profile (idt_pbase + UInt64.ofNat i * 16) (idtEntry i)

/-- Stores of the handlers and the gates, in the order of the vectors. -/
def idtWrites : List (Nat × List UInt8) :=
  (List.range 256).flatMap fun i => [(0x8010000 + i * 64, stub i), (0x8020000 + i * 16, idtEntry i)]

theorem length_stub (i : Nat) : (stub i).length = 41 := by
  simp only [stub, List.length_append, length_ofUInt64, List.length_cons, List.length_nil]

theorem length_idtEntry (i : Nat) : (idtEntry i).length = 16 := by
  simp only [idtEntry, length_splice, length_ofUInt16, length_ofUInt32, List.length_cons, List.length_nil,
    List.length_replicate]
  norm_num

/-- The handlers and the gates lie behind everything below the first handler. -/
theorem idtWrites_misses {offset length : Nat} (h : offset + length ≤ 0x8010000) : Misses offset length idtWrites := by
  refine misses_flatMap ?_
  intro i _
  refine misses_cons.mpr ⟨?_, misses_cons.mpr ⟨?_, misses_nil offset length⟩⟩
  · exact disjoint_of_le (.inl (by simp only; omega))
  · exact disjoint_of_le (.inl (by simp only; omega))

theorem setup_diagnostic_idt_performs (profile : Profile) : Performs (setup_diagnostic_idt profile) idtWrites := by
  refine Performs.forM ?_
  intro i hi
  have hbound := List.mem_range.mp hi
  have hsize := MEM_SIZE_toNat
  have hstub : (stub_base_p + UInt64.ofNat i * 64).toNat = 0x8010000 + i * 64 :=
    BitField.toNat_add_index rfl rfl (by omega)
  have hgate : (idt_pbase + UInt64.ofNat i * 16).toNat = 0x8020000 + i * 16 :=
    BitField.toNat_add_index rfl rfl (by omega)
  refine Performs.write_then profile hstub rfl (by rw [length_stub]; omega) ?_
  rw [← hgate]
  exact Performs.write_memory profile (by rw [hgate, length_idtEntry]; omega)

end vwfl.debug
