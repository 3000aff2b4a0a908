import Vwfl.Debug.Stub
import Vwfl.Main.Layout
import Vwfl.Rust.Moves
import Vwfl.Rust.Slice

open Rust ByteStore LittleEndian
open vwfl.vm

namespace vwfl.cpu

structure kvm_cpuid_entry2 where
  function : UInt32
  index : UInt32
  flags : UInt32
  eax : UInt32
  ebx : UInt32
  ecx : UInt32
  edx : UInt32
  padding : UInt32 × UInt32 × UInt32
  deriving Repr, DecidableEq

structure kvm_segment where
  base : UInt64 := 0
  limit : UInt32 := 0
  selector : UInt16 := 0
  type_ : UInt8 := 0
  present : UInt8 := 0
  dpl : UInt8 := 0
  db : UInt8 := 0
  s : UInt8 := 0
  l : UInt8 := 0
  g : UInt8 := 0
  avl : UInt8 := 0
  unusable : UInt8 := 0
  deriving Repr, DecidableEq

structure kvm_dtable where
  base : UInt64
  limit : UInt16
  deriving Repr, DecidableEq

/-- The special registers that the setup replaces. -/
structure kvm_sregs where
  cs : kvm_segment
  ds : kvm_segment
  es : kvm_segment
  gs : kvm_segment
  ss : kvm_segment
  tr : kvm_segment
  gdt : kvm_dtable
  idt : kvm_dtable
  cr0 : UInt64
  cr3 : UInt64
  cr4 : UInt64
  efer : UInt64
  deriving Repr, DecidableEq

structure kvm_msr_entry where
  index : UInt32
  data : UInt64
  deriving Repr, DecidableEq

/-- The calls that the setup makes. -/
inductive Call where
  | set_cpuid2
  | get_sregs
  | set_sregs
  | set_msrs
  | get_regs
  | set_regs
  deriving Repr, DecidableEq

/-- The machine while it is set up. `supported` is the answer of
    `get_supported_cpuid`, `refuses` the error text of a call that fails, and
    `passed` records the lists handed to `set_cpuid2`. -/
structure Vcpu where
  vm : Vm
  supported : Except String (List kvm_cpuid_entry2)
  refuses : Call → Option String
  passed : List (List kvm_cpuid_entry2)
  sregs : kvm_sregs
  msrs : List kvm_msr_entry
  regs : debug.kvm_regs

abbrev VcpuM (α : Type) := Stateful Vcpu α

namespace Vcpu

def call (name : Call) : VcpuM Unit := fun vcpu =>
  match vcpu.refuses name with
  | some message => .error (.err message) vcpu
  | none => .ok () vcpu

def get_supported_cpuid : VcpuM (List kvm_cpuid_entry2) := fun vcpu =>
  match vcpu.supported with
  | .ok entries => .ok entries vcpu
  | .error message => .error (.err message) vcpu

def set_cpuid2 (entries : List kvm_cpuid_entry2) : VcpuM Unit := do
  modify fun vcpu => { vcpu with passed := vcpu.passed ++ [entries] }
  call .set_cpuid2

def get_sregs : VcpuM kvm_sregs := do
  call .get_sregs
  return (← get).sregs

def set_sregs (sregs : kvm_sregs) : VcpuM Unit := do
  call .set_sregs
  modify fun vcpu => { vcpu with sregs }

def set_msrs (msrs : List kvm_msr_entry) : VcpuM Unit := do
  call .set_msrs
  modify fun vcpu => { vcpu with msrs }

def get_regs : VcpuM debug.kvm_regs := do
  call .get_regs
  return (← get).regs

def set_regs (regs : debug.kvm_regs) : VcpuM Unit := do
  call .set_regs
  modify fun vcpu => { vcpu with regs }

def write_memory (profile : Profile) (offset : UInt64) (data : List UInt8) : VcpuM Unit := fun vcpu =>
  match (Vm.write_memory profile offset data).run vcpu.vm with
  | .ok () vm => .ok () { vcpu with vm }
  | .error fault vm => .error fault { vcpu with vm }

end Vcpu

/-- The CPUID filter: leaf 1 loses the hypervisor and x2APIC bits, and the
    signature of the first hypervisor leaf is cleared. -/
def hideHypervisor (entry : kvm_cpuid_entry2) : kvm_cpuid_entry2 :=
  let entry :=
    if entry.function = 0x1 then
      { entry with ecx := entry.ecx &&& ~~~ ((1 : UInt32) <<< 31) &&& ~~~ ((1 : UInt32) <<< 21) }
    else entry
  if entry.function = 0x40000000 then { entry with ebx := 0, ecx := 0, edx := 0 } else entry

def k_virt_base : UInt64 := 0xFFFFF80000000000

def gdt_pbase : UInt64 := 0x8000000

def tss_pbase : UInt64 := gdt_pbase + 0x1000

def gdt_vbase : UInt64 := k_virt_base + gdt_pbase

def tss_vbase : UInt64 := k_virt_base + tss_pbase

def tss_limit : UInt64 := 104 - 1

def gdt : List UInt64 :=
  let tss_low := (tss_vbase &&& 0xffffff) <<< 16 ||| (tss_vbase &&& 0xff000000) <<< 32 ||| 0x0000890000000000 |||
    tss_limit
  let tss_high := tss_vbase >>> 32
  [0, 0x00af9a000000ffff, 0x00af9a000000ffff, 0x00cf92000000ffff, 0x00affb000000ffff, 0x00cff3000000ffff, 0, 0,
    tss_low, tss_high, 0x00cff3000000ffff] ++ List.replicate 21 0

def tss (stack_v : UInt64) : List UInt8 := splice (List.replicate 104 0) 4 (ofUInt64 stack_v)

def seg_64 (selector : UInt16) (is_code : Bool) : kvm_segment where
  limit := 0xffffffff
  selector := selector
  present := 1
  type_ := if is_code then 11 else 3
  s := 1
  l := if is_code then 1 else 0
  g := 1

/-- The special registers of the kernel's start, from those of the vCPU. -/
def longModeSregs (sregs : kvm_sregs) (kpcr_vaddr : UInt64) : kvm_sregs :=
  let bit := fun place : UInt64 => (1 : UInt64) <<< place
  let ds := seg_64 0x18 false
  { sregs with
    cr3 := gdt_pbase + 0x100000 + 0x2000
    cr4 := bit 5 ||| bit 7 ||| bit 9 ||| bit 10 ||| bit 16
    efer := bit 0 ||| bit 8 ||| bit 10 ||| bit 11
    cr0 := bit 31 ||| bit 0 ||| bit 1 ||| bit 5 ||| bit 16 ||| bit 18
    gdt := { base := gdt_vbase, limit := 32 * 8 - 1 }
    idt := { base := k_virt_base + gdt_pbase + 0x20000, limit := 0x0FFF }
    cs := seg_64 0x10 true
    ds
    es := ds
    ss := ds
    gs := { ds with base := kpcr_vaddr }
    tr := { base := tss_vbase, limit := tss_limit.toUInt32, selector := 0x40, type_ := 9, present := 1 } }

/-- The setup behind the CPUID filter: descriptor tables, special registers and
    the registers at the kernel's entry. -/
def setupRegisters (profile : Profile) (krnl_entry_v stack_v lpb_v kpcr_vaddr : UInt64) : VcpuM Unit := do
  Vcpu.write_memory profile gdt_pbase (gdt.flatMap ofUInt64)
  Vcpu.write_memory profile tss_pbase (tss stack_v)
  let sregs := longModeSregs (← Vcpu.get_sregs) kpcr_vaddr
  Vcpu.set_sregs sregs
  Stateful.ok (Vcpu.set_msrs [⟨0xc0000080, sregs.efer⟩, ⟨0xc0000101, kpcr_vaddr⟩, ⟨0x1b, 0xfee00000 ||| 0x900⟩])
  let regs ← Vcpu.get_regs
  let rsp ← profile.sub64 stack_v 0x100
  Vcpu.set_regs { regs with rip := krnl_entry_v, rsp, rflags := 0x2, rcx := lpb_v, rdx := lpb_v }

def setup_long_mode (profile : Profile) (krnl_entry_v stack_v lpb_v : UInt64) : VcpuM Unit := do
  let kpcr_vaddr ← profile.add64 lpb_v 0x10000
  let cpuid ← Vcpu.get_supported_cpuid
  Vcpu.set_cpuid2 (cpuid.map hideHypervisor)
  setupRegisters profile krnl_entry_v stack_v lpb_v kpcr_vaddr

/-- The leaves that the architecture keeps for hypervisors. -/
def HypervisorLeaf (entry : kvm_cpuid_entry2) : Prop := 0x40000000 ≤ entry.function ∧ entry.function ≤ 0x400000FF

/-- The same entry of two hosts, of which at most one runs under a hypervisor:
    the registers of the hypervisor leaves and the bit of leaf 1 that announces
    them may differ. -/
structure SameHardware (first second : kvm_cpuid_entry2) : Prop where
  function : second.function = first.function
  index : second.index = first.index
  flags : second.flags = first.flags
  padding : second.padding = first.padding
  eax : ¬ HypervisorLeaf first → second.eax = first.eax
  ebx : ¬ HypervisorLeaf first → second.ebx = first.ebx
  edx : ¬ HypervisorLeaf first → second.edx = first.edx
  ecx : ¬ HypervisorLeaf first → first.function ≠ 1 → second.ecx = first.ecx
  ecx_leaf_one : first.function = 1 → second.ecx ||| 0x80000000 = first.ecx ||| 0x80000000

/-- The registers of the hypervisor leaves that the filter leaves as they are:
    eax of the first leaf and everything behind it. -/
def SameUnfiltered (first second : kvm_cpuid_entry2) : Prop :=
  (first.function = 0x40000000 → second.eax = first.eax) ∧
    (0x40000000 < first.function → first.function ≤ 0x400000FF →
      second.eax = first.eax ∧ second.ebx = first.ebx ∧ second.ecx = first.ecx ∧ second.edx = first.edx)

private theorem or_and_not (value bit : UInt32) : (value ||| bit) &&& ~~~ bit = value &&& ~~~ bit := by
  apply UInt32.toBitVec_inj.mp
  ext place hplace
  simp only [UInt32.toBitVec_and, UInt32.toBitVec_or, UInt32.toBitVec_not, BitVec.getElem_and, BitVec.getElem_or,
    BitVec.getElem_not]
  cases value.toBitVec[place] <;> cases bit.toBitVec[place] <;> rfl

/-- Words that differ in the hypervisor bit only are the same without it. -/
private theorem hidden_bits {first second : UInt32} (h : second ||| 0x80000000 = first ||| 0x80000000) :
    first &&& ~~~ ((1 : UInt32) <<< 31) = second &&& ~~~ ((1 : UInt32) <<< 31) := by
  have hbit : (1 : UInt32) <<< 31 = 0x80000000 := by decide
  rw [hbit, ← or_and_not first, ← or_and_not second, h]

/-- The filter makes an entry of both hosts the same exactly when they agree on
    what it leaves as it is. -/
theorem hideHypervisor_eq_iff {first second : kvm_cpuid_entry2} (h : SameHardware first second) :
    hideHypervisor first = hideHypervisor second ↔ SameUnfiltered first second := by
  obtain ⟨function, index, flags, eax, ebx, ecx, edx, padding⟩ := first
  obtain ⟨function', index', flags', eax', ebx', ecx', edx', padding'⟩ := second
  obtain ⟨hfunction, hindex, hflags, hpadding, heax, hebx, hedx, hecx, hone⟩ := h
  simp only [HypervisorLeaf] at hfunction hindex hflags hpadding heax hebx hedx hecx hone
  subst hfunction hindex hflags hpadding
  unfold hideHypervisor SameUnfiltered
  by_cases hleaf : 0x40000000 ≤ function' ∧ function' ≤ 0x400000FF
  · -- A hypervisor leaf: leaf 1 is not one.
    have hnotOne : function' ≠ 1 := by
      rintro rfl
      exact absurd hleaf.1 (by decide)
    by_cases hfirst : function' = 0x40000000
    · subst hfirst
      simp [eq_comm]
    · have hlater : 0x40000000 < function' := by
        rw [UInt32.lt_iff_le_and_ne]
        exact ⟨hleaf.1, fun heq => hfirst heq.symm⟩
      simp [hnotOne, hfirst, hlater, hleaf.2, eq_comm]
  · obtain rfl := heax hleaf
    obtain rfl := hebx hleaf
    obtain rfl := hedx hleaf
    have hnotFirst : function' ≠ 0x40000000 := by
      rintro rfl
      exact hleaf (by decide)
    have hnotLater : ¬ (0x40000000 < function' ∧ function' ≤ 0x400000FF) := by
      rintro ⟨hlow, hhigh⟩
      exact hleaf ⟨UInt32.le_of_lt hlow, hhigh⟩
    refine iff_of_true ?_ ⟨fun heq => absurd heq hnotFirst, fun hlow hhigh => absurd ⟨hlow, hhigh⟩ hnotLater⟩
    by_cases hleafOne : function' = 1
    · subst hleafOne
      simp [hidden_bits (hone rfl)]
    · obtain rfl := hecx hleaf hleafOne
      rfl

/-- No list was handed to `set_cpuid2` in between. -/
def SamePassed (before after : Vcpu) : Prop := after.passed = before.passed

instance : Std.Refl SamePassed := ⟨fun _ => rfl⟩

instance : IsTrans Vcpu SamePassed where
  trans _ _ _ hfirst hsecond := hsecond.trans hfirst

section Passed

open Stateful

private theorem call_moves (name : Call) : Moves SamePassed (Vcpu.call name) := by
  intro before
  cases hcall : before.refuses name with
  | none =>
    have hrun : (Vcpu.call name).run before = .ok () before := by
      change Vcpu.call name before = _
      rw [Vcpu.call, hcall]
    rw [leftBy_of_ok hrun]
    rfl
  | some message =>
    have hrun : (Vcpu.call name).run before = .error (.err message) before := by
      change Vcpu.call name before = _
      rw [Vcpu.call, hcall]
    rw [leftBy_of_error hrun]
    rfl

/-- A call whose answer is a field of the state. -/
private theorem get_moves {α : Type} (name : Call) (field : Vcpu → α) :
    Moves SamePassed (do Vcpu.call name; return field (← get)) :=
  (call_moves name).bind fun _ => Moves.get.bind fun _ => Moves.pure _

/-- A call that replaces a part of the state. -/
private theorem set_moves (name : Call) {f : Vcpu → Vcpu} (h : ∀ vcpu, (f vcpu).passed = vcpu.passed) :
    Moves SamePassed (do Vcpu.call name; modify f) :=
  (call_moves name).bind fun _ before => h before

private theorem write_memory_moves (profile : Profile) (offset : UInt64) (data : List UInt8) :
    Moves SamePassed (Vcpu.write_memory profile offset data) := by
  intro before
  cases hwrite : (Vm.write_memory profile offset data).run before.vm with
  | ok value vm =>
    have hrun : (Vcpu.write_memory profile offset data).run before = .ok () { before with vm } := by
      change Vcpu.write_memory profile offset data before = _
      rw [Vcpu.write_memory, hwrite]
    rw [leftBy_of_ok hrun]
    rfl
  | error fault vm =>
    have hrun : (Vcpu.write_memory profile offset data).run before = .error fault { before with vm } := by
      change Vcpu.write_memory profile offset data before = _
      rw [Vcpu.write_memory, hwrite]
    rw [leftBy_of_error hrun]
    rfl

private theorem setupRegisters_moves (profile : Profile) (krnl_entry_v stack_v lpb_v kpcr_vaddr : UInt64) :
    Moves SamePassed (setupRegisters profile krnl_entry_v stack_v lpb_v kpcr_vaddr) := by
  unfold setupRegisters
  refine (write_memory_moves profile _ _).bind fun _ => ?_
  refine (write_memory_moves profile _ _).bind fun _ => ?_
  refine (get_moves .get_sregs Vcpu.sregs).bind fun sregs => ?_
  have hset := fun sregs => @set_moves .set_sregs (fun vcpu => { vcpu with sregs }) fun _ => rfl
  have hmsrs := fun msrs => @set_moves .set_msrs (fun vcpu => { vcpu with msrs }) fun _ => rfl
  have hregs := fun regs => @set_moves .set_regs (fun vcpu => { vcpu with regs }) fun _ => rfl
  refine (hset _).bind fun _ => (hmsrs _).ok.bind fun _ => ?_
  exact (get_moves .get_regs Vcpu.regs).bind fun _ => (Moves.lift _).bind fun _ => hregs _

/-- The setup hands exactly the filtered list to `set_cpuid2`, whatever becomes
    of the calls behind it. -/
theorem setup_long_mode_passes (profile : Profile) (krnl_entry_v stack_v : UInt64) {lpb_v : UInt64}
    (hlpb : lpb_v.toNat + 0x10000 < 2 ^ 64) {vcpu : Vcpu} {entries : List kvm_cpuid_entry2}
    (hsupported : vcpu.supported = .ok entries) :
    (leftBy (setup_long_mode profile krnl_entry_v stack_v lpb_v) vcpu).passed =
      vcpu.passed ++ [entries.map hideHypervisor] := by
  have hkpcr : profile.add64 lpb_v 0x10000 = .ok (lpb_v + 0x10000) := profile.add64_of_lt hlpb
  have hget : Vcpu.get_supported_cpuid.run vcpu = .ok entries vcpu := by
    change Vcpu.get_supported_cpuid vcpu = _
    rw [Vcpu.get_supported_cpuid, hsupported]
  let passing : Vcpu := { vcpu with passed := vcpu.passed ++ [entries.map hideHypervisor] }
  have hrest : Moves SamePassed (do
      Vcpu.call .set_cpuid2
      setupRegisters profile krnl_entry_v stack_v lpb_v (lpb_v + 0x10000)) :=
    (call_moves .set_cpuid2).bind fun _ => setupRegisters_moves profile krnl_entry_v stack_v lpb_v _
  have hrun : (setup_long_mode profile krnl_entry_v stack_v lpb_v).run vcpu = (do
      Vcpu.call .set_cpuid2
      setupRegisters profile krnl_entry_v stack_v lpb_v (lpb_v + 0x10000)).run passing := by
    unfold setup_long_mode Vcpu.set_cpuid2
    rw [hkpcr, bind_run, lift_ok_run]
    simp only [bind_run, hget]
    rfl
  have hpassed := hrest passing
  unfold leftBy at hpassed ⊢
  rwa [hrun]

end Passed

private theorem map_hideHypervisor_eq_iff {first second : List kvm_cpuid_entry2}
    (h : List.Forall₂ SameHardware first second) :
    first.map hideHypervisor = second.map hideHypervisor ↔ List.Forall₂ SameUnfiltered first second := by
  induction h with
  | nil => simp
  | cons hentry _ ih =>
    rw [List.map_cons, List.map_cons, List.cons.injEq, List.forall₂_cons, ih, hideHypervisor_eq_iff hentry]

/-- Two hosts that differ in the hypervisor leaves and the hypervisor bit only
    look the same to the guest exactly when they agree on the registers of these
    leaves that the filter does not clear. -/
theorem cpuid_hides_iff (profile : Profile) (krnl_entry_v stack_v lpb_v : UInt64)
    (hlpb : lpb_v.toNat + 0x10000 < 2 ^ 64) (vcpu : Vcpu) (first second : List kvm_cpuid_entry2)
    (h : List.Forall₂ SameHardware first second) :
    (Stateful.leftBy (setup_long_mode profile krnl_entry_v stack_v lpb_v) { vcpu with supported := .ok first }).passed =
        (Stateful.leftBy (setup_long_mode profile krnl_entry_v stack_v lpb_v)
          { vcpu with supported := .ok second }).passed ↔
      List.Forall₂ SameUnfiltered first second := by
  rw [setup_long_mode_passes profile krnl_entry_v stack_v hlpb rfl,
    setup_long_mode_passes profile krnl_entry_v stack_v hlpb rfl, List.append_cancel_left_eq, List.cons.injEq,
    map_hideHypervisor_eq_iff h]
  simp

def resetVcpu : Vcpu where
  vm := ⟨fun _ => 0⟩
  supported := .ok []
  refuses _ := none
  passed := []
  sregs := ⟨{}, {}, {}, {}, {}, {}, ⟨0, 0⟩, ⟨0, 0⟩, 0, 0, 0, 0⟩
  msrs := []
  regs := ⟨0, 0, 0, 0, 0, 0, 0, 0, 0, 0, 0, 0, 0, 0, 0, 0, 0, 0⟩

/-- The leaf of a hypervisor's signature. -/
def signatureLeaf (signature : UInt32) : kvm_cpuid_entry2 :=
  ⟨0x40000000, 0, 0, 0x40000001, signature, signature, signature, (0, 0, 0)⟩

/-- The leaf of the features that a hypervisor offers. -/
def featureLeaf (features : UInt32) : kvm_cpuid_entry2 := ⟨0x40000001, 0, 0, features, 0, 0, 0, (0, 0, 0)⟩

/-- The registers of a hypervisor leaf may differ in any way. -/
private theorem sameHardware_of_leaf {first second : kvm_cpuid_entry2} (hleaf : HypervisorLeaf first)
    (hfunction : second.function = first.function) (hindex : second.index = first.index)
    (hflags : second.flags = first.flags) (hpadding : second.padding = first.padding) : SameHardware first second where
  function := hfunction
  index := hindex
  flags := hflags
  padding := hpadding
  eax hnot := absurd hleaf hnot
  ebx hnot := absurd hleaf hnot
  edx hnot := absurd hleaf hnot
  ecx hnot := absurd hleaf hnot
  ecx_leaf_one hone := by
    rw [HypervisorLeaf, hone] at hleaf
    exact absurd hleaf.1 (by decide)

theorem cpuid_hides_iff_signature :
    (Stateful.leftBy (setup_long_mode .dev 0 0x1000 main.LPB_VBASE)
        { resetVcpu with supported := .ok [signatureLeaf 0x4b4d564b] }).passed =
      (Stateful.leftBy (setup_long_mode .dev 0 0x1000 main.LPB_VBASE)
        { resetVcpu with supported := .ok [signatureLeaf 0] }).passed := by
  have hsame : SameHardware (signatureLeaf 0x4b4d564b) (signatureLeaf 0) :=
    sameHardware_of_leaf ⟨by decide, by decide⟩ rfl rfl rfl rfl
  refine (cpuid_hides_iff .dev 0 0x1000 main.LPB_VBASE (by decide) resetVcpu _ _ (.cons hsame .nil)).mpr ?_
  exact .cons ⟨fun _ => rfl, fun hlater => absurd hlater (by decide)⟩ .nil

/-- The features of a hypervisor reach the guest. -/
theorem not_cpuid_hides_features :
    List.Forall₂ SameHardware [featureLeaf 1] [featureLeaf 0] ∧
      (Stateful.leftBy (setup_long_mode .dev 0 0x1000 main.LPB_VBASE)
          { resetVcpu with supported := .ok [featureLeaf 1] }).passed ≠
        (Stateful.leftBy (setup_long_mode .dev 0 0x1000 main.LPB_VBASE)
          { resetVcpu with supported := .ok [featureLeaf 0] }).passed := by
  refine ⟨.cons (sameHardware_of_leaf ⟨by decide, by decide⟩ rfl rfl rfl rfl) .nil, ?_⟩
  rw [setup_long_mode_passes .dev 0 0x1000 (by decide) rfl, setup_long_mode_passes .dev 0 0x1000 (by decide) rfl]
  decide

end vwfl.cpu
