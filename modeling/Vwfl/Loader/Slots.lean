import Vwfl.Loader.Bind
import Vwfl.Pe.Crate
import Vwfl.Vm.Effects

open Rust ByteStore LittleEndian
open vwfl.vm vwfl.pe vwfl.forwarder

namespace vwfl.loader

/-- An imported function of a loaded module. -/
structure Import where
  loaded : LoadedModule
  dll_name : String
  func : ImportFunction

/-- Address of the slot of an import in guest memory. -/
def Import.slot (self : Import) : Nat := (self.loaded.p_base + self.func.iat_rva.toUInt64).toNat

/-- The imports of a module, in the order of its tables. -/
def moduleImports (profile : Profile) (loaded : LoadedModule) : List Import :=
  match loaded.pe.get_imports profile with
  | .ok imports => imports.flatMap fun imp => imp.functions.map fun func => ⟨loaded, imp.dll_name, func⟩
  | .error _ => []

/-- The imports of all modules, in the order in which they are bound. -/
def allImports (resolver : ForwarderResolver) : List Import :=
  resolver.modules.flatMap (moduleImports resolver.profile)

/-- The address that an import resolves to. -/
def Import.target (resolver : ForwarderResolver) (self : Import) : Option UInt64 :=
  match resolver.resolve self.dll_name self.func.name with
  | .ok resolved => resolved
  | .error _ => none

/-- The store into the slot of a resolved import. -/
def slotWrite (resolver : ForwarderResolver) (self : Import) : Option (Nat × List UInt8) :=
  (self.target resolver).map fun addr => (self.slot, ofUInt64 addr)

def slotWrites (resolver : ForwarderResolver) : List (Nat × List UInt8) :=
  (allImports resolver).filterMap (slotWrite resolver)

/-- The resolver that `bind_all` uses. -/
def KernelLoader.resolver (profile : Profile) (cases : CaseMap) (self : KernelLoader) : ForwarderResolver :=
  { profile, cases, modules := self.modules }

/-- Resolved slots hold their targets, unresolved slots apart from them keep
    their bytes, and so does the rest of memory. -/
structure BindsExactly (resolver : ForwarderResolver) (before after : Nat → UInt8) : Prop where
  bound : ∀ imported ∈ allImports resolver, ∀ addr, imported.target resolver = some addr →
    load after imported.slot 8 = ofUInt64 addr
  kept : ∀ imported ∈ allImports resolver, imported.target resolver = none →
    (∀ other ∈ allImports resolver, other.target resolver ≠ none → Disjoint imported.slot 8 other.slot 8) →
      load after imported.slot 8 = load before imported.slot 8
  frame : ∀ address, (∀ imported ∈ allImports resolver, imported.target resolver ≠ none →
    ¬ Within imported.slot 8 address) → after address = before address

/-- The slots of unresolved imports keep their bytes. -/
def KeepsUnresolved (resolver : ForwarderResolver) (before after : Nat → UInt8) : Prop :=
  ∀ imported ∈ allImports resolver, imported.target resolver = none →
    load after imported.slot 8 = load before imported.slot 8

def resolvedSlots (resolver : ForwarderResolver) : List Nat :=
  ((allImports resolver).filter fun imported => (imported.target resolver).isSome).map Import.slot

/-- No two slots of resolved imports overlap. -/
def SlotsApart (resolver : ForwarderResolver) : Prop :=
  (resolvedSlots resolver).Pairwise fun first second => Disjoint first 8 second 8

theorem bindFunction_leaves (resolver : ForwarderResolver) (loaded : LoadedModule) (dll_name : String)
    (func : ImportFunction) :
    Leaves (bindFunction resolver loaded dll_name func) (slotWrite resolver ⟨loaded, dll_name, func⟩).toList := by
  apply Leaves.lift_bind
  intro resolved hresolved
  unfold slotWrite Import.target
  simp only [hresolved]
  cases resolved with
  | none => exact Leaves.pure ()
  | some addr =>
    apply Leaves.lift_bind
    intro iat_paddr hsum
    rw [Profile.eq_of_add64 hsum]
    exact Leaves.write_memory resolver.profile _ _

theorem bindModule_leaves (resolver : ForwarderResolver) (loaded : LoadedModule) :
    Leaves (bindModule resolver loaded)
      ((moduleImports resolver.profile loaded).filterMap (slotWrite resolver)) := by
  apply Leaves.lift_bind
  intro imports himports
  have hloops := Leaves.forM fun imp (_ : imp ∈ imports) =>
    Leaves.forM fun func (_ : func ∈ imp.functions) => bindFunction_leaves resolver loaded imp.dll_name func
  have hwrites : (moduleImports resolver.profile loaded).filterMap (slotWrite resolver) =
      imports.flatMap fun imp => imp.functions.flatMap fun func =>
        (slotWrite resolver ⟨loaded, imp.dll_name, func⟩).toList := by
    unfold moduleImports
    simp only [himports, List.filterMap_eq_flatMap_toList, List.flatMap_assoc, List.flatMap_map]
  rw [hwrites]
  exact hloops

/-- Binding that returns has performed exactly the stores into the resolved
    slots. -/
theorem KernelLoader.bind_all_leaves (profile : Profile) (cases : CaseMap) (self : KernelLoader) :
    Leaves (self.bind_all profile cases) (slotWrites (self.resolver profile cases)) := by
  have hloop := Leaves.forM fun loaded (_ : loaded ∈ self.modules) =>
    bindModule_leaves (self.resolver profile cases) loaded
  have hwrites : slotWrites (self.resolver profile cases) = self.modules.flatMap fun loaded =>
      (moduleImports profile loaded).filterMap (slotWrite (self.resolver profile cases)) := by
    rw [slotWrites, allImports, List.filterMap_flatMap]
    rfl
  rw [hwrites]
  exact hloop

private theorem slotWrites_eq (resolver : ForwarderResolver) :
    slotWrites resolver = ((allImports resolver).filter fun imported => (imported.target resolver).isSome).map
      fun imported => (imported.slot, ofUInt64 ((imported.target resolver).getD 0)) := by
  unfold slotWrites
  induction allImports resolver with
  | nil => rfl
  | cons imported rest ih =>
    cases htarget : imported.target resolver with
    | none =>
      rw [List.filterMap_cons_none (by simp [slotWrite, htarget]), List.filter_cons_of_neg (by simp [htarget]), ih]
    | some addr =>
      have hwrite : slotWrite resolver imported = some (imported.slot, ofUInt64 addr) := by
        simp [slotWrite, htarget]
      rw [List.filterMap_cons_some hwrite, List.filter_cons_of_pos (by simp [htarget]), List.map_cons, ih, htarget]
      rfl

theorem slotWrites_pairwise {resolver : ForwarderResolver} (h : SlotsApart resolver) :
    (slotWrites resolver).Pairwise fun first second => Disjoint first.1 first.2.length second.1 second.2.length := by
  rw [slotWrites_eq, List.pairwise_map]
  simpa only [length_ofUInt64, SlotsApart, resolvedSlots, List.pairwise_map] using h

/-- Every store of binding fills a resolved slot. -/
theorem mem_slotWrites {resolver : ForwarderResolver} {write : Nat × List UInt8}
    (hwrite : write ∈ slotWrites resolver) : write.1 ∈ resolvedSlots resolver ∧ write.2.length = 8 := by
  rw [slotWrites_eq] at hwrite
  obtain ⟨imported, hfiltered, rfl⟩ := List.mem_map.mp hwrite
  exact ⟨List.mem_map.mpr ⟨imported, hfiltered, rfl⟩, length_ofUInt64 _⟩

/-- Binding patches exactly the resolved slots when these do not overlap: every
    resolved slot holds the address it resolves to, and every byte outside the
    resolved slots, those of unresolved imports included, is as before. -/
theorem bind_all_exact {profile : Profile} {cases : CaseMap} {self : KernelLoader} {before after : Vm}
    (hbind : (self.bind_all profile cases).run before = .ok () after)
    (hapart : SlotsApart (self.resolver profile cases)) :
    BindsExactly (self.resolver profile cases) before.mem after.mem := by
  have hmem : after.mem = storeAll before.mem (slotWrites (self.resolver profile cases)) := by
    rw [self.bind_all_leaves profile cases before after () hbind]
  rw [hmem]
  have hwrites := slotWrites_eq (self.resolver profile cases)
  have hframe : ∀ address, (∀ imported ∈ allImports (self.resolver profile cases),
      imported.target (self.resolver profile cases) ≠ none → ¬ Within imported.slot 8 address) →
        storeAll before.mem (slotWrites (self.resolver profile cases)) address = before.mem address := by
    intro address houtside
    apply storeAll_untouched
    intro write hwrite
    rw [hwrites] at hwrite
    obtain ⟨imported, hfiltered, rfl⟩ := List.mem_map.mp hwrite
    obtain ⟨himported, hresolved⟩ := List.mem_filter.mp hfiltered
    rw [length_ofUInt64]
    exact houtside imported himported (by simpa [Option.isSome_iff_ne_none] using hresolved)
  constructor
  case bound =>
    intro imported himported addr htarget
    have hmember : (imported.slot, ofUInt64 addr) ∈ slotWrites (self.resolver profile cases) := by
      rw [slotWrites, List.mem_filterMap]
      exact ⟨imported, himported, by simp [slotWrite, htarget]⟩
    have hload := load_storeAll_of_mem before.mem (slotWrites_pairwise hapart) hmember
    simpa only [length_ofUInt64] using hload
  case kept =>
    intro imported _ _ hdisjoint
    apply load_congr
    intro address hin
    exact hframe address fun other hother hresolved => hdisjoint other hother hresolved address hin
  case frame => exact hframe

/-- A driver that exports `F` and imports it from itself, with a second
    descriptor for a missing library. The address tables of the two descriptors
    are the given ones. -/
def selfImportFile (first_thunk second_thunk : UInt32) : List UInt8 :=
  peImage 0x180000000 0x1000 (0x1000, 0x28) (0x1040, 0x3C)
    [⟨[0x2E, 0x72, 0x64, 0x61, 0x74, 0x61], 0x1000, 0x1000, 0xE0, 368⟩]
    (List.replicate 16 0 ++ ofUInt32 1 ++ ofUInt32 1 ++ ofUInt32 1 ++ ofUInt32 0x1028 ++ ofUInt32 0x102C ++
      ofUInt32 0x1030 ++ ofUInt32 0x2000 ++ ofUInt32 0x1032 ++ ofUInt16 0 ++ [0x46, 0] ++ List.replicate 12 0 ++
      ofUInt32 0x1080 ++ List.replicate 8 0 ++ ofUInt32 0x10A0 ++ ofUInt32 first_thunk ++
      ofUInt32 0x1090 ++ List.replicate 8 0 ++ ofUInt32 0x10A6 ++ ofUInt32 second_thunk ++
      List.replicate 24 0 ++ ofUInt64 0x10B0 ++ ofUInt64 0 ++ ofUInt64 0x10B4 ++ ofUInt64 0 ++
      [0x78, 0x2E, 0x73, 0x79, 0x73, 0] ++ [0x79, 0] ++ List.replicate 8 0 ++ [0, 0, 0x46, 0] ++ [0, 0, 0x47, 0] ++
      List.replicate 40 0)

def selfImportPe (first_thunk second_thunk : UInt32) : PeFile where
  entry_point := 0x180001000
  image_base := 0x180000000
  sections := [{ name := ".rdata", virtual_address := 0x180001000, virtual_size := 0x1000,
                 raw_data := (selfImportFile first_thunk second_thunk).drop 368 }]
  header_data := selfImportFile first_thunk second_thunk
  pdb_name := "Unknown"
  pdb_guid_age := "Unknown"
  raw_bytes := selfImportFile first_thunk second_thunk

def selfImportLoader (first_thunk second_thunk : UInt32) : KernelLoader where
  modules := [⟨"x.sys", 0xFFFFF80040000000, 0x2600000, 0xFFFFF80040001000, 0x2000,
    selfImportPe first_thunk second_thunk⟩]

theorem bind_all_exact_selfImport : ∃ after,
    ((selfImportLoader 0x10C0 0x10D0).bind_all .release CaseMap.ascii).run ⟨fun _ => 0⟩ = .ok () after ∧
      BindsExactly ((selfImportLoader 0x10C0 0x10D0).resolver .release CaseMap.ascii) (fun _ => 0) after.mem := by
  obtain ⟨⟨⟩, after, hbind, _⟩ := Stateful.of_returns
    (show Stateful.returns ((selfImportLoader 0x10C0 0x10D0).bind_all .release CaseMap.ascii) ⟨fun _ => 0⟩
      (fun _ => true) = true by decide +kernel)
  have hslots : resolvedSlots ((selfImportLoader 0x10C0 0x10D0).resolver .release CaseMap.ascii) = [0x26010C0] := by
    decide +kernel
  refine ⟨after, hbind, bind_all_exact hbind ?_⟩
  rw [SlotsApart, hslots]
  decide

set_option maxRecDepth 10000 in
/-- Two descriptors with one address table: binding the first changes the slot
    of the second, which does not resolve. -/
theorem not_keepsUnresolved_shared_table : ∃ after,
    parse peCrate (selfImportFile 0x10C0 0x10C0) = .ok (selfImportPe 0x10C0 0x10C0) ∧
      ((selfImportLoader 0x10C0 0x10C0).bind_all .release CaseMap.ascii).run ⟨fun _ => 0⟩ = .ok () after ∧
      SlotsApart ((selfImportLoader 0x10C0 0x10C0).resolver .release CaseMap.ascii) ∧
      ¬ KeepsUnresolved ((selfImportLoader 0x10C0 0x10C0).resolver .release CaseMap.ascii) (fun _ => 0) after.mem := by
  obtain ⟨⟨⟩, after, hbind, _⟩ := Stateful.of_returns
    (show Stateful.returns ((selfImportLoader 0x10C0 0x10C0).bind_all .release CaseMap.ascii) ⟨fun _ => 0⟩
      (fun _ => true) = true by decide +kernel)
  have hslots : resolvedSlots ((selfImportLoader 0x10C0 0x10C0).resolver .release CaseMap.ascii) = [0x26010C0] := by
    decide +kernel
  refine ⟨after, by decide +kernel, hbind, ?_, ?_⟩
  · rw [SlotsApart, hslots]
    decide
  · intro hkeeps
    -- The second import of the driver is the unresolved one.
    have hsecond : ∃ imported ∈ allImports ((selfImportLoader 0x10C0 0x10C0).resolver .release CaseMap.ascii),
        imported.target ((selfImportLoader 0x10C0 0x10C0).resolver .release CaseMap.ascii) = none ∧
          imported.slot = 0x26010C0 := by
      refine ⟨_, List.mem_cons_of_mem _ List.mem_cons_self, ?_, ?_⟩ <;> decide +kernel
    obtain ⟨imported, himported, htarget, hslot⟩ := hsecond
    have hload := hkeeps imported himported htarget
    have hmem := (selfImportLoader 0x10C0 0x10C0).bind_all_leaves .release CaseMap.ascii _ after () hbind
    have hwrites : slotWrites ((selfImportLoader 0x10C0 0x10C0).resolver .release CaseMap.ascii) =
        [(0x26010C0, ofUInt64 0xFFFFF80040002000)] := by decide +kernel
    rw [hslot, hmem, hwrites] at hload
    revert hload
    decide +kernel

end vwfl.loader
