import Vwfl.Debug.Idt
import Vwfl.Debug.Trap
import Vwfl.X86.Interrupt

open Rust ByteStore LittleEndian X86
open vwfl.vm vwfl.gdb vwfl.main

namespace vwfl.debug

/-- The high half maps the first gibibyte of the guest memory. -/
def KernelMapped (mmu : UInt64 → Option Nat) : Prop :=
  ∀ (vaddr : UInt64) (offset : Nat), vaddr.toNat = K_VIRT_ANY.toNat + offset → offset < 2 ^ 30 →
    mmu vaddr = some offset

/-- The tables of `setup_kernel_paging` map it so. -/
theorem kernelMapped_of_holds {mem : Nat → UInt8} {hal_index : Nat} (h : HoldsTables mem hal_index) :
    KernelMapped (translate mem SYSTEM_CR3) :=
  fun _ _ hvaddr hoffset => h.translate_kernel hvaddr hoffset

theorem KernelMapped.linear {mmu : UInt64 → Option Nat} (h : KernelMapped mmu) {vaddr : UInt64} {offset length : Nat}
    (hvaddr : vaddr.toNat = K_VIRT_ANY.toNat + offset) (hend : offset + length ≤ 2 ^ 30) :
    Linear mmu vaddr offset length := by
  intro index hindex
  have hbase : K_VIRT_ANY.toNat = 0xFFFFF80000000000 := rfl
  apply h _ _ _ (by omega)
  rw [UInt64.toNat_add, UInt64.toNat_ofNat']
  omega

/-- Host offset of the handler of a vector. -/
def handlerOffset (vector : UInt8) : Nat := 0x8010000 + vector.toNat * 64

def gateOffset (vector : UInt8) : Nat := 0x8020000 + vector.toNat * 16

private theorem idtWrites_pairwise :
    idtWrites.Pairwise fun first second => Disjoint first.1 first.2.length second.1 second.2.length := by
  unfold idtWrites
  rw [List.pairwise_flatMap]
  constructor
  · intro i hi
    have hbound := List.mem_range.mp hi
    simp only [List.pairwise_cons, List.mem_singleton, forall_eq, List.not_mem_nil, false_imp_iff, implies_true,
      List.Pairwise.nil, and_true]
    refine disjoint_of_le (.inl ?_)
    rw [length_stub]
    omega
  · apply List.pairwise_lt_range.imp_of_mem
    intro i j hi hj hlt first hfirst second hsecond
    have hfirstBound := List.mem_range.mp hi
    have hsecondBound := List.mem_range.mp hj
    simp only [List.mem_cons, List.not_mem_nil, or_false] at hfirst hsecond
    rcases hfirst with rfl | rfl <;> rcases hsecond with rfl | rfl
    all_goals
      refine disjoint_of_le ?_
      simp only [length_stub, length_idtEntry]
      omega

/-- The handlers and the gates are in memory behind the setup. -/
theorem setup_diagnostic_idt_loads {profile : Profile} {before after : Vm}
    (h : (setup_diagnostic_idt profile).run before = .ok () after) (vector : UInt8) :
    load after.mem (handlerOffset vector) 41 = stub vector.toNat ∧
      load after.mem (gateOffset vector) 16 = idtEntry vector.toNat := by
  have hafter := setup_diagnostic_idt_performs profile before
  rw [h] at hafter
  injection hafter with _ hafter
  have hrange : vector.toNat ∈ List.range 256 := List.mem_range.mpr vector.toNat_lt
  have hstub : (handlerOffset vector, stub vector.toNat) ∈ idtWrites :=
    List.mem_flatMap.mpr ⟨vector.toNat, hrange, List.mem_cons_self⟩
  have hgate : (gateOffset vector, idtEntry vector.toNat) ∈ idtWrites :=
    List.mem_flatMap.mpr ⟨vector.toNat, hrange, List.mem_cons_of_mem _ List.mem_cons_self⟩
  have hmem : after.mem = storeAll before.mem idtWrites := by rw [hafter]
  have hloads := fun write => @load_storeAll_of_mem _ before.mem idtWrites idtWrites_pairwise write
  rw [hmem, ← length_stub vector.toNat, ← length_idtEntry vector.toNat]
  exact ⟨hloads (handlerOffset vector, stub vector.toNat) hstub,
    hloads (gateOffset vector, idtEntry vector.toNat) hgate⟩

private theorem idtEntry_eq (i : Nat) {h : UInt64} (hh : stub_base_v + UInt64.ofNat i * 64 = h) :
    idtEntry i = ofUInt16 h.toUInt16 ++ ([0x10, 0, 0, 0x8E] : List UInt8) ++ ofUInt16 (h >>> 16).toUInt16 ++
      ofUInt32 (h >>> 32).toUInt32 ++ List.replicate 4 0 := by
  unfold idtEntry
  rw [hh]
  rfl

/-- The fields of a gate: the handler's address, the code segment, and an
    interrupt gate of ring 0 on the current stack. -/
theorem decode_idtEntry (i : Nat) :
    Gate.decode (idtEntry i) = {
      offset := stub_base_v + UInt64.ofNat i * 64, selector := 0x10, ist := 0, kind := 0xE, dpl := 0,
      present := true } := by
  generalize hh : stub_base_v + UInt64.ofNat i * 64 = h
  have hlow : number (ofUInt16 h.toUInt16) = h.toNat % 2 ^ 16 := by
    rw [ofUInt16, number_bytes, UInt64.toNat_toUInt16]
    omega
  have hmiddle : number (ofUInt16 (h >>> 16).toUInt16) = h.toNat / 2 ^ 16 % 2 ^ 16 := by
    rw [ofUInt16, number_bytes, UInt64.toNat_toUInt16, BitField.toNat_shiftRight h 16 (by decide)]
    change h.toNat / 2 ^ 16 % 2 ^ 16 % 256 ^ 2 = _
    omega
  have hhigh : number (ofUInt32 (h >>> 32).toUInt32) = h.toNat / 2 ^ 32 % 2 ^ 32 := by
    rw [ofUInt32, number_bytes, UInt64.toNat_toUInt32, BitField.toNat_shiftRight h 32 (by decide)]
    change h.toNat / 2 ^ 32 % 2 ^ 32 % 256 ^ 4 = _
    omega
  have hoffset : UInt64.ofNat (h.toNat % 2 ^ 16 + h.toNat / 2 ^ 16 % 2 ^ 16 * 2 ^ 16 +
      h.toNat / 2 ^ 32 % 2 ^ 32 * 2 ^ 32) = h := by
    have hword := h.toNat_lt
    apply UInt64.toNat.inj
    rw [UInt64.toNat_ofNat']
    omega
  have hentry := idtEntry_eq i hh
  have hfirst : (idtEntry i).take 2 = ofUInt16 h.toUInt16 := by rw [hentry]; rfl
  have hselector : ((idtEntry i).drop 2).take 2 = ([0x10, 0] : List UInt8) := by rw [hentry]; rfl
  have hist : (idtEntry i)[4]? = some 0 := by rw [hentry]; rfl
  have hkind : (idtEntry i)[5]? = some 0x8E := by rw [hentry]; rfl
  have hsecond : ((idtEntry i).drop 6).take 2 = ofUInt16 (h >>> 16).toUInt16 := by rw [hentry]; rfl
  have hthird : ((idtEntry i).drop 8).take 4 = ofUInt32 (h >>> 32).toUInt32 := by rw [hentry]; rfl
  unfold Gate.decode
  rw [hfirst, hselector, hist, hkind, hsecond, hthird, hlow, hmiddle, hhigh, hoffset]
  rfl

/-- The three stores of a handler. -/
def saveWrites (regs : kvm_regs) : List (Nat × List UInt8) :=
  [(0x8060000, ofUInt64 regs.rax), (0x8060008, ofUInt64 regs.rcx), (0x8060010, ofUInt64 regs.rdx)]

/-- The stores of a handler miss the handlers. -/
private theorem load_handler_saved {mem : Nat → UInt8} {vector : UInt8} {slot : Nat} (hslot : 0x8060000 ≤ slot)
    (value : UInt64) :
    load (store mem slot (ofUInt64 value)) (handlerOffset vector) 41 = load mem (handlerOffset vector) 41 := by
  have hvector := vector.toNat_lt
  refine load_store_of_disjoint mem _ (disjoint_of_le (.inl ?_))
  unfold handlerOffset
  omega

private theorem toUInt8_low (high : UInt64) (value : UInt8) :
    (UInt64.ofNat (high.toNat / 256 * 256 + value.toNat)).toUInt8 = value := by
  have hvalue := value.toNat_lt
  have hhigh := high.toNat_lt
  apply UInt8.toNat.inj
  rw [UInt64.toNat_toUInt8, UInt64.toNat_ofNat']
  omega

/-- An address of a handler. -/
private def InHandler (vector : UInt8) (start : Nat) (rip : UInt64) : Prop :=
  rip.toNat = K_VIRT_ANY.toNat + (handlerOffset vector + start)

private theorem InHandler.add {vector : UInt8} {start : Nat} {rip : UInt64} (h : InHandler vector start rip)
    (length : UInt64) (hend : start + length.toNat ≤ 64) : InHandler vector (start + length.toNat) (rip + length) := by
  have hvector := vector.toNat_lt
  have hbase : K_VIRT_ANY.toNat = 0xFFFFF80000000000 := rfl
  unfold InHandler handlerOffset at h ⊢
  rw [BitField.toNat_add_of_lt (by omega)]
  omega

section Run

variable {mmu : UInt64 → Option Nat} (hmapped : KernelMapped mmu)

include hmapped

/-- The code stream inside a handler that is in memory. -/
private theorem codeAt_stub {mem : Nat → UInt8} {vector : UInt8}
    (hstub : load mem (handlerOffset vector) 41 = stub vector.toNat) {rip : UInt64} {start : Nat} {bytes : List UInt8}
    (hrip : InHandler vector start rip) (hbytes : ((stub vector.toNat).drop start).take bytes.length = bytes)
    (hend : start + bytes.length ≤ 41) : CodeAt mmu mem rip bytes := by
  have hvector := vector.toNat_lt
  refine CodeAt.of_linear (hmapped.linear hrip ?_) le_rfl ?_
  · unfold handlerOffset
    omega
  · rw [← take_drop_load mem (handlerOffset vector) hend, hstub, hbytes]

/-- A handler saves the three registers, writes its vector to the port, and
    then halts. -/
theorem stub_runs {machine : Machine} {vector : UInt8}
    (hstub : load machine.mem (handlerOffset vector) 41 = stub vector.toNat)
    (hrip : machine.regs.rip.toNat = K_VIRT_ANY.toNat + handlerOffset vector) :
    ∃ exit : Machine, runToEvent mmu 7 machine = some (.out 0xF9 vector, exit) ∧
      runToEvent mmu 1 exit = some (.halt, exit.advance 1) ∧
      exit.mem = storeAll machine.mem (saveWrites machine.regs) ∧
      exit.regs = { machine.regs with rax := exit.regs.rax, rip := exit.regs.rip } := by
  have hstart : InHandler vector 0 machine.regs.rip := hrip
  have hslot : ∀ (slot : UInt64) (offset : Nat), slot.toNat = K_VIRT_ANY.toNat + offset → offset < 0x9000000 →
      Linear mmu slot offset 8 := fun slot offset hvaddr hoffset => hmapped.linear hvaddr (by omega)
  -- The machine before each instruction, by its place in the handler.
  let m10 : Machine := { machine.advance 10 with mem := store machine.mem 0x8060000 (ofUInt64 machine.regs.rax) }
  let m13 : Machine := { m10.advance 3 with regs := { (m10.advance 3).regs with rax := machine.regs.rcx } }
  let m23 : Machine := { m13.advance 10 with mem := store m10.mem 0x8060008 (ofUInt64 machine.regs.rcx) }
  let m26 : Machine := { m23.advance 3 with regs := { (m23.advance 3).regs with rax := machine.regs.rdx } }
  let m36 : Machine := { m26.advance 10 with mem := store m23.mem 0x8060010 (ofUInt64 machine.regs.rdx) }
  let m38 : Machine := { m36.advance 2 with regs := { (m36.advance 2).regs with
    rax := UInt64.ofNat (machine.regs.rdx.toNat / 256 * 256 + vector.toNat) } }
  have hrip10 : InHandler vector 10 m10.regs.rip := hstart.add 10 (by decide)
  have hrip13 : InHandler vector 13 m13.regs.rip := hrip10.add 3 (by decide)
  have hrip23 : InHandler vector 23 m23.regs.rip := hrip13.add 10 (by decide)
  have hrip26 : InHandler vector 26 m26.regs.rip := hrip23.add 3 (by decide)
  have hrip36 : InHandler vector 36 m36.regs.rip := hrip26.add 10 (by decide)
  have hrip38 : InHandler vector 38 m38.regs.rip := hrip36.add 2 (by decide)
  have hrip40 : InHandler vector 40 (m38.advance 2).regs.rip := hrip38.add 2 (by decide)
  have hstub10 : load m10.mem (handlerOffset vector) 41 = stub vector.toNat :=
    (load_handler_saved (by decide) _).trans hstub
  have hstub23 : load m23.mem (handlerOffset vector) 41 = stub vector.toNat :=
    (load_handler_saved (by decide) _).trans hstub10
  have hstub36 : load m36.mem (handlerOffset vector) 41 = stub vector.toNat :=
    (load_handler_saved (by decide) _).trans hstub23
  have hstep0 : step mmu machine = some (m10, none) :=
    step_movAbsolute (codeAt_stub hmapped hstub hstart rfl (by decide)) (hslot save_area_v _ rfl (by decide))
  have hstep10 : step mmu m10 = some (m13, none) :=
    @step_movRegister _ _ 0xC8 (codeAt_stub hmapped hstub10 hrip10 rfl (by decide)) (by decide)
  have hstep13 : step mmu m13 = some (m23, none) :=
    step_movAbsolute (codeAt_stub hmapped hstub10 hrip13 rfl (by decide)) (hslot (save_area_v + 8) _ rfl (by decide))
  have hstep23 : step mmu m23 = some (m26, none) :=
    @step_movRegister _ _ 0xD0 (codeAt_stub hmapped hstub23 hrip23 rfl (by decide)) (by decide)
  have hstep26 : step mmu m26 = some (m36, none) :=
    step_movAbsolute (codeAt_stub hmapped hstub23 hrip26 rfl (by decide)) (hslot (save_area_v + 16) _ rfl (by decide))
  have hstep36 : step mmu m36 = some (m38, none) := by
    have hcode : CodeAt mmu m36.mem m36.regs.rip [0xB0, UInt8.ofNat vector.toNat] :=
      codeAt_stub hmapped hstub36 hrip36 rfl (show 36 + 2 ≤ 41 by decide)
    rw [UInt8.ofNat_toNat] at hcode
    exact step_movAl hcode
  have hstep38 : step mmu m38 = some (m38.advance 2, some (.out 0xF9 vector)) := by
    have hcode : CodeAt mmu m38.mem m38.regs.rip [0xE6, 0xF9] :=
      codeAt_stub hmapped hstub36 hrip38 rfl (show 38 + 2 ≤ 41 by decide)
    have hout := step_outAl hcode
    rwa [toUInt8_low] at hout
  have hstep40 : step mmu (m38.advance 2) = some ((m38.advance 2).advance 1, some .halt) :=
    step_hlt (codeAt_stub hmapped hstub36 hrip40 rfl (by decide))
  refine ⟨m38.advance 2, ?_, runToEvent_of_event hstep40 0, rfl, rfl⟩
  rw [runToEvent_of_silent hstep0, runToEvent_of_silent hstep10, runToEvent_of_silent hstep13,
    runToEvent_of_silent hstep23, runToEvent_of_silent hstep26, runToEvent_of_silent hstep36,
    runToEvent_of_event hstep38]

end Run

private theorem saveWrites_pairwise (regs : kvm_regs) :
    (saveWrites regs).Pairwise fun first second => Disjoint first.1 first.2.length second.1 second.2.length := by
  simp only [saveWrites, List.pairwise_cons, List.mem_cons, List.not_mem_nil, or_false, forall_eq_or_imp, forall_eq,
    length_ofUInt64, false_imp_iff, implies_true, List.Pairwise.nil, and_true]
  exact ⟨⟨by decide, by decide⟩, by decide⟩

/-- The save area behind a handler. -/
theorem word_saved (mem : Nat → UInt8) (regs : kvm_regs) :
    word (storeAll mem (saveWrites regs)) 0x8060000 = regs.rax ∧
      word (storeAll mem (saveWrites regs)) 0x8060008 = regs.rcx ∧
      word (storeAll mem (saveWrites regs)) 0x8060010 = regs.rdx := by
  have hword : ∀ (slot : Nat) (value : UInt64), (slot, ofUInt64 value) ∈ saveWrites regs →
      word (storeAll mem (saveWrites regs)) slot = value := by
    intro slot value hmem
    have hload := load_storeAll_of_mem mem (saveWrites_pairwise regs) hmem
    rw [length_ofUInt64] at hload
    rw [word, hload, toUInt64_ofUInt64]
  refine ⟨hword _ _ ?_, hword _ _ ?_, hword _ _ ?_⟩
  all_goals simp [saveWrites]

/-- The five words that the processor pushed lie in one piece of the handler's
    range table, where the processor put them. -/
def FrameInWindow (mmu : UInt64 → Option Nat) (rsp paddr : UInt64) : Prop :=
  ∀ index < 40, virt_to_phys (rsp + UInt64.ofNat index) = some (paddr + UInt64.ofNat index) ∧
    mmu (rsp + UInt64.ofNat index) = some (paddr.toNat + index)

theorem FrameInWindow.linear {mmu : UInt64 → Option Nat} {rsp paddr : UInt64} (h : FrameInWindow mmu rsp paddr) :
    Linear mmu rsp paddr.toNat 40 := fun index hindex => (h index hindex).2

theorem FrameInWindow.translated {mmu : UInt64 → Option Nat} {rsp paddr : UInt64} (h : FrameInWindow mmu rsp paddr) :
    virt_to_phys rsp = some paddr ∧ paddr.toNat + 40 ≤ MEM_SIZE.toNat := by
  have hfirst : virt_to_phys rsp = some paddr := by simpa using (h 0 (by decide)).1
  have hsize := MEM_SIZE_toNat
  have hbound := (virt_to_phys_lt hfirst).1
  have hlast := (virt_to_phys_lt (h 39 (by decide)).1).1
  have hoffset : (UInt64.ofNat 39).toNat = 39 := rfl
  rw [BitField.toNat_add_of_lt (by omega), hoffset] at hlast
  exact ⟨hfirst, by omega⟩

/-- The words of a frame without an error code, read back after the handler has
    stored its registers. -/
theorem word_frame {mem pushed : Nat → UInt8} {ss rsp rflags cs rip : UInt64} {target : Nat}
    (hpushed : pushed = store mem target ([ss, rsp, rflags, cs, rip].reverse.flatMap ofUInt64)) (regs : kvm_regs)
    (hdisjoint : Disjoint target 40 0x8060000 24) :
    word (storeAll pushed (saveWrites regs)) target = rip ∧
      word (storeAll pushed (saveWrites regs)) (target + 16) = rflags ∧
      word (storeAll pushed (saveWrites regs)) (target + 24) = rsp := by
  have hmisses : Misses target 40 (saveWrites regs) := by
    simp only [saveWrites, misses_cons, length_ofUInt64]
    exact ⟨hdisjoint.inner (by decide) (by decide), hdisjoint.inner (by decide) (by decide),
      hdisjoint.inner (by decide) (by decide), misses_nil _ _⟩
  have hword : ∀ (index : Nat) (value : UInt64), index + 8 ≤ 40 →
      (([ss, rsp, rflags, cs, rip].reverse.flatMap ofUInt64).drop index).take 8 = ofUInt64 value →
      word (storeAll pushed (saveWrites regs)) (target + index) = value := by
    intro index value hindex hvalue
    rw [word, load_storeAll_of_disjoint _ _ (hmisses.mono (by omega) (by omega)), hpushed,
      load_store_inside _ _ _ (by simpa using hindex), hvalue, toUInt64_ofUInt64]
  exact ⟨hword 0 rip (by decide) rfl, hword 16 rflags (by decide) rfl, hword 24 rsp (by decide) rfl⟩

/-- A processor whose interrupts go through the table of `setup_diagnostic_idt`,
    which the guest has left alone. -/
structure Installed (system : System) (mem : Nat → UInt8) : Prop where
  mapped : KernelMapped system.mmu
  idt_base : system.idt_base = K_VIRT_ANY + idt_pbase
  kept : ∃ (profile : Profile) (before after : Vm), (setup_diagnostic_idt profile).run before = .ok () after ∧
    ∀ address, 0x8010000 ≤ address → address < 0x8021000 → mem address = after.mem address

theorem Installed.loads {system : System} {mem : Nat → UInt8} (h : Installed system mem) (vector : UInt8) :
    load mem (handlerOffset vector) 41 = stub vector.toNat ∧
      read system.mmu mem (system.idt_base + UInt64.ofNat vector.toNat * 16) 16 = some (idtEntry vector.toNat) := by
  have hvector := vector.toNat_lt
  obtain ⟨profile, before, after, hsetup, hkept⟩ := h.kept
  obtain ⟨hstub, hgate⟩ := setup_diagnostic_idt_loads hsetup vector
  constructor
  · rw [← hstub]
    apply load_congr
    intro address haddress
    unfold Within handlerOffset at haddress
    exact hkept address (by omega) (by omega)
  · have hindex : (K_VIRT_ANY + idt_pbase + UInt64.ofNat vector.toNat * 16).toNat =
        0xFFFFF80008020000 + vector.toNat * 16 := BitField.toNat_add_index rfl rfl (by omega)
    have haddress : (system.idt_base + UInt64.ofNat vector.toNat * 16).toNat =
        K_VIRT_ANY.toNat + gateOffset vector := by
      have hbase : K_VIRT_ANY.toNat = 0xFFFFF80000000000 := rfl
      rw [h.idt_base, hindex]
      unfold gateOffset
      omega
    rw [read_of_linear (h.mapped.linear haddress (by unfold gateOffset; omega)), ← hgate]
    congr 1
    apply load_congr
    intro address haddress
    unfold Within gateOffset at haddress
    exact hkept address (by omega) (by omega)

/-- The processor at the start of a handler: the gate leads there, and of the
    general registers only the stack pointer has changed. -/
theorem Installed.delivers {system : System} {machine delivered : Machine} (h : Installed system machine.mem)
    {vector : UInt8} {origin : Origin} {code : UInt64}
    (hdeliver : deliver system vector origin code machine = some delivered) :
    delivered.regs.rip.toNat = K_VIRT_ANY.toNat + handlerOffset vector ∧
      delivered.regs = { machine.regs with
        rsp := delivered.regs.rsp, rip := delivered.regs.rip, rflags := delivered.regs.rflags } ∧
      ∃ top, pushAll system.mmu machine.mem top (frameWords vector origin code machine) =
        some (delivered.mem, delivered.regs.rsp) := by
  have hvector := vector.toNat_lt
  obtain ⟨level, mem, rsp, hpush, rfl⟩ := deliver_cases hdeliver (h.loads vector).2
  have hindex : (stub_base_v + UInt64.ofNat vector.toNat * 64).toNat = 0xFFFFF80008010000 + vector.toNat * 64 :=
    BitField.toNat_add_index rfl rfl (by omega)
  refine ⟨?_, rfl, _, hpush⟩
  have hbase : K_VIRT_ANY.toNat = 0xFFFFF80000000000 := rfl
  change (Gate.decode (idtEntry vector.toNat)).offset.toNat = _
  rw [decode_idtEntry, hindex]
  unfold handlerOffset
  omega

/-- The trap handler and the handlers in the guest agree. An interrupt through
    a gate writes its vector to the port once, with the interrupted registers in
    the save area. A breakpoint then resumes with all registers as interrupted,
    without the trap flag and behind the padding; a debug service also clears
    rax. -/
theorem diagnostic_trap_agrees (profile : Profile) (system : System) (vector : UInt8) (origin : Origin) (code : UInt64)
    (machine delivered : Machine) (hinstalled : Installed system machine.mem)
    (hdeliver : deliver system vector origin code machine = some delivered)
    (hhandler : load delivered.mem (handlerOffset vector) 41 = load machine.mem (handlerOffset vector) 41) :
    ∃ exit : Machine,
      (runToEvent system.mmu 7 delivered = some (.out 0xF9 vector, exit) ∧
        runToEvent system.mmu 1 exit = some (.halt, exit.advance 1) ∧
        word exit.mem 0x8060000 = machine.regs.rax ∧ word exit.mem 0x8060008 = machine.regs.rcx ∧
        word exit.mem 0x8060010 = machine.regs.rdx) ∧
      (vector = 3 ∨ vector = 0x2d → ∀ paddr, FrameInWindow system.mmu delivered.regs.rsp paddr →
        Disjoint paddr.toNat 40 0x8060000 24 →
        ∀ guest : Guest, guest.vm.mem = exit.mem → guest.regs = exit.regs →
          guest.refuses .get_regs = none → guest.refuses .set_regs = none →
          ∃ rip, FirstStop exit.mem machine.regs.rip rip ∧
            (handle_diagnostic_trap profile vector).run guest = .ok () { guest with regs := { machine.regs with
              rax := if vector = 0x2d then 0 else machine.regs.rax
              rip
              rflags := machine.regs.rflags &&& ~~~ 0x100 } }) := by
  obtain ⟨hrip, hregs, top, hpush⟩ := hinstalled.delivers hdeliver
  obtain ⟨exit, hout, hhalt, hmem, hexit⟩ :=
    stub_runs hinstalled.mapped (hhandler.trans (hinstalled.loads vector).1) hrip
  obtain ⟨hrax, hrcx, hrdx⟩ := word_saved delivered.mem delivered.regs
  rw [← hmem, hregs] at hrax hrcx hrdx
  refine ⟨exit, ⟨hout, hhalt, hrax, hrcx, hrdx⟩, ?_⟩
  intro hvector paddr hframe hdisjoint guest hguest hguestRegs hget hset
  obtain ⟨htranslated, hbound⟩ := hframe.translated
  have hwords : frameWords vector origin code machine =
      [machine.ss.toUInt64, machine.regs.rsp, machine.regs.rflags, machine.cs.toUInt64, machine.regs.rip] := by
    unfold frameWords
    rw [if_neg, List.append_nil]
    rintro ⟨_, herror⟩
    rcases hvector with rfl | rfl
    · exact absurd herror (by decide)
    · exact absurd herror (by decide)
  -- The frame is in memory where the trap handler looks for it.
  have hstored : delivered.mem = store machine.mem paddr.toNat
      ([machine.ss.toUInt64, machine.regs.rsp, machine.regs.rflags, machine.cs.toUInt64,
        machine.regs.rip].reverse.flatMap ofUInt64) := by
    rw [hwords] at hpush
    have htop := pushAll_rsp hpush
    rw [htop, pushAll_of_linear hframe.linear] at hpush
    injection hpush with hpair
    injection hpair with hafter
    exact hafter.symm
  obtain ⟨hpushed, hrflags, hrsp⟩ := word_frame hstored delivered.regs hdisjoint
  rw [← hmem] at hpushed hrflags hrsp
  have hguestRsp : guest.regs.rsp = delivered.regs.rsp := by rw [hguestRegs, hexit]
  obtain ⟨rip, hfirst, hrun⟩ := handle_diagnostic_trap_resumes profile hvector hget hset
    (hguestRsp ▸ htranslated) (Nat.le_trans (by omega) hbound)
  rw [hguest, hpushed] at hfirst
  refine ⟨rip, hfirst, ?_⟩
  rw [hrun, hguest, hrax, hrcx, hrdx, hrsp, hrflags, hguestRegs, hexit, hregs]

def breakpointRegs : kvm_regs where
  rax := 1
  rbx := 0
  rcx := 2
  rdx := 3
  rsi := 0
  rdi := 0
  rsp := 0xFFFFFE8000000100
  rbp := 0
  r8 := 0
  r9 := 0
  r10 := 0
  r11 := 0
  r12 := 0
  r13 := 0
  r14 := 0
  r15 := 0
  rip := 0x1000
  rflags := 0x302

def ringZero (mmu : UInt64 → Option Nat) : System where
  mmu := mmu
  idt_base := K_VIRT_ANY + idt_pbase
  segment selector := if selector = 0x10 then some 0 else none
  stack _ := 0
  ist _ := 0

/-- A breakpoint of the kernel on the tables of `setup_kernel_paging`. -/
theorem diagnostic_trap_agrees_breakpoint : ∃ (mmu : UInt64 → Option Nat) (machine delivered exit : Machine),
    machine.regs = breakpointRegs ∧ deliver (ringZero mmu) 3 .instruction 0 machine = some delivered ∧
      runToEvent mmu 7 delivered = some (.out 0xF9 3, exit) ∧
      ∃ rip, FirstStop exit.mem 0x1000 rip ∧
        (handle_diagnostic_trap .dev 3).run ⟨⟨exit.mem⟩, exit.regs, fun _ => none⟩ =
          .ok () ⟨⟨exit.mem⟩, { breakpointRegs with rip, rflags := 0x202 }, fun _ => none⟩ := by
  have hpaging := setup_kernel_paging_performs .dev 0 0 ⟨fun _ => 0⟩
  have hholds := setup_kernel_paging_holds hpaging
  generalize storeAll (fun _ => 0) (pagingWrites 0) = tables at hholds
  obtain ⟨after, hidt⟩ := (setup_diagnostic_idt_performs .dev).returns ⟨tables⟩
  generalize hmmu : translate tables SYSTEM_CR3 = mmu
  have hmapped : KernelMapped mmu := by
    rw [← hmmu]
    exact kernelMapped_of_holds hholds
  have hstack : Linear mmu 0xFFFFFE80000000D8 0x0A0000D8 40 := by
    intro index hindex
    have haddress : (0xFFFFFE80000000D8 + UInt64.ofNat index : UInt64).toNat = 0xFFFFFE8000000000 + (0xD8 + index) := by
      rw [UInt64.toNat_add, UInt64.toNat_ofNat']
      change (0xFFFFFE80000000D8 + index % 2 ^ 64) % 2 ^ 64 = _
      omega
    have htarget : 0x0A000000 + (0xD8 + index) = 0x0A0000D8 + index := by omega
    rw [← hmmu, ← htarget]
    exact hholds.translate_stack haddress (by omega)
  let machine : Machine := ⟨breakpointRegs, 0x10, 0x18, after.mem⟩
  have hinstalled : Installed (ringZero mmu) machine.mem := ⟨hmapped, rfl, .dev, _, after, hidt, fun _ _ _ => rfl⟩
  have hcpl : machine.cpl = 0 := by simp [machine, Machine.cpl]
  have hgate := decode_idtEntry (3 : UInt8).toNat
  have hadmits : (Gate.decode (idtEntry (3 : UInt8).toNat)).present = true ∧
      ((Gate.decode (idtEntry (3 : UInt8).toNat)).kind = 0xE ∨
        (Gate.decode (idtEntry (3 : UInt8).toNat)).kind = 0xF) := by
    rw [hgate]
    exact ⟨rfl, .inl rfl⟩
  have hsegment : (ringZero mmu).segment (Gate.decode (idtEntry (3 : UInt8).toNat)).selector = some 0 := by
    rw [hgate]
    rfl
  have htop : handlerStack (ringZero mmu) (Gate.decode (idtEntry (3 : UInt8).toNat)) 0 machine &&& ~~~ 0xF =
      0xFFFFFE80000000D8 + UInt64.ofNat (8 * (frameWords 3 .instruction 0 machine).length) := by
    rw [hgate, handlerStack, if_neg (by decide), hcpl, if_neg (by decide)]
    change (0xFFFFFE8000000100 : UInt64) &&& ~~~ 0xF = 0xFFFFFE80000000D8 + UInt64.ofNat 40
    decide
  have hdeliver := deliver_of_linear (hinstalled.loads 3).2 hadmits (fun _ => hcpl.symm ▸ Nat.zero_le _) hsegment
    (Nat.zero_le _) htop hstack
  have hhandler := load_store_of_disjoint machine.mem ((frameWords 3 .instruction 0 machine).reverse.flatMap ofUInt64)
    (show Disjoint (handlerOffset 3) 41 0x0A0000D8 40 by decide)
  obtain ⟨exit, ⟨hout, _⟩, hresume⟩ := diagnostic_trap_agrees .dev _ _ _ _ _ _ hinstalled hdeliver hhandler
  have hwindow : ∀ index < 40, virt_to_phys (0xFFFFFE80000000D8 + UInt64.ofNat index) =
      some (0x0A0000D8 + UInt64.ofNat index) := by decide
  have hframe : FrameInWindow mmu 0xFFFFFE80000000D8 0x0A0000D8 :=
    fun index hindex => ⟨hwindow index hindex, hstack index hindex⟩
  obtain ⟨rip, hfirst, hrun⟩ :=
    hresume (.inl rfl) _ hframe (by decide) ⟨⟨exit.mem⟩, exit.regs, fun _ => none⟩ rfl rfl rfl rfl
  have hrflags : machine.regs.rflags &&& ~~~ 0x100 = 0x202 := by
    change breakpointRegs.rflags &&& ~~~ 0x100 = 0x202
    decide
  rw [hrflags] at hrun
  exact ⟨mmu, machine, _, exit, rfl, hdeliver, hout, rip, hfirst, hrun⟩

end vwfl.debug
