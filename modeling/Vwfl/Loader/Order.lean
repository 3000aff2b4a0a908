import Vwfl.ByteStore.Commute
import Vwfl.Loader.Slots

open Rust ByteStore LittleEndian
open vwfl.vm vwfl.pe vwfl.forwarder

namespace vwfl.loader

/-- Whether a computation returns, and what, does not depend on the memory. -/
def Uniform {α : Type} (x : VmM α) : Prop :=
  ∀ (before after other : Vm) (value : α), x.run before = .ok value after → ∃ last, x.run other = .ok value last

theorem Uniform.pure {α : Type} (value : α) : Uniform (pure value) := by
  intro before after other result h
  injection h with hvalue _
  exact ⟨other, by rw [hvalue]; rfl⟩

theorem Uniform.write_memory (profile : Profile) (offset : UInt64) (data : List UInt8) :
    Uniform (Vm.write_memory profile offset data) := by
  intro before after other value h
  obtain ⟨hbound, _⟩ := Vm.write_memory_eq_ok h
  exact ⟨_, Vm.write_memory_of_le profile other hbound⟩

theorem Uniform.bind {α β : Type} {x : VmM α} {f : α → VmM β} (hx : Uniform x) (hf : ∀ value, Uniform (f value)) :
    Uniform (x >>= f) := by
  intro before after other result h
  obtain ⟨value, middle, hfirst, hsecond⟩ := Stateful.bind_run_eq_ok_iff.mp h
  obtain ⟨between, hfirst⟩ := hx before middle other value hfirst
  obtain ⟨last, hsecond⟩ := hf value middle after between result hsecond
  exact ⟨last, Stateful.bind_run_eq_ok_iff.mpr ⟨value, between, hfirst, hsecond⟩⟩

theorem Uniform.lift {α : Type} (x : Result α) : Uniform (liftM x : VmM α) := by
  intro before after other value h
  obtain ⟨hvalue, _⟩ := Stateful.lift_run_eq_ok_iff.mp h
  exact ⟨other, Stateful.lift_run_eq_ok_iff.mpr ⟨hvalue, rfl⟩⟩

theorem Uniform.forM {α : Type} {items : List α} {body : α → VmM Unit} (h : ∀ item, Uniform (body item)) :
    Uniform (forM items body) := by
  induction items with
  | nil => exact Uniform.pure ()
  | cons item items ih =>
    rw [List.forM_cons]
    exact (h item).bind fun _ => ih

theorem bindFunction_uniform (resolver : ForwarderResolver) (loaded : LoadedModule) (dll_name : String)
    (func : ImportFunction) : Uniform (bindFunction resolver loaded dll_name func) := by
  unfold bindFunction
  refine (Uniform.lift _).bind fun resolved => ?_
  cases resolved with
  | none => exact Uniform.pure ()
  | some addr => exact (Uniform.lift _).bind fun iat_paddr => Uniform.write_memory _ _ _

/-- Binding reads nothing of the memory that it patches. -/
theorem KernelLoader.bind_all_uniform (profile : Profile) (cases : CaseMap) (self : KernelLoader) :
    Uniform (self.bind_all profile cases) := by
  refine Uniform.forM fun loaded => (Uniform.lift _).bind fun imports =>
    Uniform.forM fun imp => Uniform.forM fun func => ?_
  exact bindFunction_uniform _ _ _ _

private theorem forM_returns {α : Type} {items : List α} {body : α → VmM Unit} {before after : Vm}
    (h : (forM items body).run before = .ok () after) :
    ∀ item ∈ items, ∃ first last, (body item).run first = .ok () last := by
  induction items generalizing before with
  | nil => simp
  | cons item items ih =>
    rw [List.forM_cons] at h
    obtain ⟨_, middle, hfirst, hrest⟩ := Stateful.bind_run_eq_ok_iff.mp h
    intro other hother
    rcases List.mem_cons.mp hother with rfl | hlater
    · exact ⟨before, middle, hfirst⟩
    · exact ih hrest other hlater

/-- Binding that returns has resolved every import. -/
theorem KernelLoader.bind_all_resolves {profile : Profile} {cases : CaseMap} {self : KernelLoader} {before after : Vm}
    (h : (self.bind_all profile cases).run before = .ok () after) :
    ∀ imported ∈ allImports (self.resolver profile cases), ∃ resolved,
      (self.resolver profile cases).resolve imported.dll_name imported.func.name = .ok resolved := by
  intro imported himported
  obtain ⟨loaded, hloaded, himport⟩ := List.mem_flatMap.mp himported
  obtain ⟨first, last, hmodule⟩ := forM_returns h loaded hloaded
  obtain ⟨imports, middle, himports, hloops⟩ := Stateful.bind_run_eq_ok_iff.mp hmodule
  obtain ⟨himports, _⟩ := Stateful.lift_run_eq_ok_iff.mp himports
  have himports : loaded.pe.get_imports profile = .ok imports := himports
  have hmodule : moduleImports profile loaded = imports.flatMap fun imp =>
      imp.functions.map fun func => ⟨loaded, imp.dll_name, func⟩ := by
    rw [moduleImports, himports]
  change imported ∈ moduleImports profile loaded at himport
  rw [hmodule] at himport
  obtain ⟨imp, himp, hmapped⟩ := List.mem_flatMap.mp himport
  obtain ⟨func, hfunc, rfl⟩ := List.mem_map.mp hmapped
  obtain ⟨_, _, hinner⟩ := forM_returns hloops imp himp
  obtain ⟨_, _, hbind⟩ := forM_returns hinner func hfunc
  obtain ⟨resolved, _, hresolve, _⟩ := Stateful.bind_run_eq_ok_iff.mp hbind
  exact ⟨resolved, (Stateful.lift_run_eq_ok_iff.mp hresolve).1⟩

/-- No two modules have the same stem, upper and lower case taken alike. -/
def DistinctStems (cases : CaseMap) (modules : List LoadedModule) : Prop :=
  modules.Pairwise fun first second => moduleStem cases first.name ≠ moduleStem cases second.name

private theorem findModule_eq_some {cases : CaseMap} {target_stem : String} {modules : List LoadedModule}
    {found : LoadedModule} (h : findModule cases target_stem modules = .ok (some found)) :
    found ∈ modules ∧ moduleStem cases found.name = some target_stem := by
  induction modules with
  | nil => cases h
  | cons candidate rest ih =>
    rw [findModule] at h
    cases hstem : moduleStem cases candidate.name with
    | none => simp [hstem] at h
    | some m_stem =>
      simp only [hstem] at h
      split at h
      · rename_i hequal
        cases h
        exact ⟨List.mem_cons_self, by rw [hstem, beq_iff_eq.mp hequal]⟩
      · obtain ⟨hmem, hfound⟩ := ih h
        exact ⟨List.mem_cons_of_mem _ hmem, hfound⟩

private theorem findModule_eq_none {cases : CaseMap} {target_stem : String} {modules : List LoadedModule}
    (h : findModule cases target_stem modules = .ok none) :
    ∀ loaded ∈ modules, moduleStem cases loaded.name ≠ some target_stem := by
  induction modules with
  | nil => simp
  | cons candidate rest ih =>
    rw [findModule] at h
    cases hstem : moduleStem cases candidate.name with
    | none => simp [hstem] at h
    | some m_stem =>
      simp only [hstem] at h
      split at h
      · cases h
      · rename_i hdifferent
        intro loaded hloaded
        rcases List.mem_cons.mp hloaded with rfl | hlater
        · rw [hstem]
          exact fun heq => hdifferent (beq_iff_eq.mpr (Option.some.inj heq))
        · exact ih h loaded hlater

/-- With distinct stems the search finds the same module in every order. -/
theorem findModule_perm {cases : CaseMap} {target_stem : String} {modules others : List LoadedModule}
    (hperm : modules.Perm others) (hstems : DistinctStems cases modules) {found other : Option LoadedModule}
    (hfound : findModule cases target_stem modules = .ok found)
    (hother : findModule cases target_stem others = .ok other) : found = other := by
  cases found with
  | none =>
    cases other with
    | none => rfl
    | some candidate =>
      obtain ⟨hmem, hstem⟩ := findModule_eq_some hother
      exact absurd hstem (findModule_eq_none hfound candidate (hperm.mem_iff.mpr hmem))
  | some candidate =>
    obtain ⟨hmem, hstem⟩ := findModule_eq_some hfound
    cases other with
    | none => exact absurd hstem (findModule_eq_none hother candidate (hperm.mem_iff.mp hmem))
    | some second =>
      obtain ⟨hsecond, hstem'⟩ := findModule_eq_some hother
      by_contra hne
      have hdistinct := List.Pairwise.forall_of_forall_of_flip
        (R := fun first second => first = second ∨ moduleStem cases first.name ≠ moduleStem cases second.name)
        (fun _ _ => .inl rfl) (hstems.imp .inr) (hstems.imp fun h => .inr h.symm)
      rcases hdistinct hmem (hperm.mem_iff.mpr hsecond) with rfl | hdifferent
      · exact hne rfl
      · exact hdifferent (hstem.trans hstem'.symm)

/-- With distinct stems every import resolves to the same address in every
    order of the modules. -/
theorem resolve_perm {profile : Profile} {cases : CaseMap} {modules others : List LoadedModule}
    (hperm : modules.Perm others) (hstems : DistinctStems cases modules) {remaining : Nat} {dll_name func_name : String}
    {resolved other : Option UInt64}
    (hresolved : ForwarderResolver.resolve_recursive ⟨profile, cases, modules⟩ remaining dll_name func_name =
      .ok resolved)
    (hother : ForwarderResolver.resolve_recursive ⟨profile, cases, others⟩ remaining dll_name func_name = .ok other) :
    resolved = other := by
  induction remaining generalizing dll_name func_name with
  | zero =>
    cases hresolved
    cases hother
    rfl
  | succ remaining ih =>
    rw [ForwarderResolver.resolve_recursive] at hresolved hother
    cases hstem : moduleStem cases dll_name with
    | none =>
      simp only [hstem] at hresolved hother
      cases hresolved
      cases hother
      rfl
    | some target_stem =>
      simp only [hstem] at hresolved hother
      obtain ⟨found, hfound, hresolved⟩ := bind_eq_ok_iff.mp hresolved
      obtain ⟨found', hfound', hother⟩ := bind_eq_ok_iff.mp hother
      obtain rfl := findModule_perm hperm hstems hfound hfound'
      cases found with
      | none =>
        cases hresolved
        cases hother
        rfl
      | some loaded =>
        obtain ⟨exports, hexports, hresolved⟩ := bind_eq_ok_iff.mp hresolved
        obtain ⟨exports', hexports', hother⟩ := bind_eq_ok_iff.mp hother
        obtain rfl : exports = exports' := Except.ok.inj (hexports.symm.trans hexports')
        cases hentry : exports.bind (findExport · func_name) with
        | none =>
          simp only [hentry] at hresolved hother
          cases hresolved
          cases hother
          rfl
        | some exp =>
          simp only [hentry] at hresolved hother
          cases hforwarder : exp.forwarder with
          | none =>
            simp only [hforwarder] at hresolved hother
            exact Except.ok.inj (hresolved.symm.trans hother)
          | some fwd_str =>
            simp only [hforwarder] at hresolved hother
            cases hsplit : split_once fwd_str '.' with
            | none =>
              simp only [hsplit] at hresolved hother
              cases hresolved
              cases hother
              rfl
            | some parts =>
              simp only [hsplit] at hresolved hother
              exact ih hresolved hother

/-- Binding does not depend on the order of the modules, and binding again
    changes nothing. -/
theorem bind_all_perm (profile : Profile) (cases : CaseMap) (self other : KernelLoader)
    (hperm : self.modules.Perm other.modules) (hstems : DistinctStems cases self.modules)
    (hapart : SlotsApart (self.resolver profile cases)) (before after after' : Vm)
    (hself : (self.bind_all profile cases).run before = .ok () after)
    (hother : (other.bind_all profile cases).run before = .ok () after') :
    after' = after ∧ (self.bind_all profile cases).run after = .ok () after := by
  have hpairwise := slotWrites_pairwise hapart
  have hafter := self.bind_all_leaves profile cases before after () hself
  have hafter' := other.bind_all_leaves profile cases before after' () hother
  constructor
  · -- The stores of the two orders are the same up to their order.
    have himports : (allImports (self.resolver profile cases)).Perm (allImports (other.resolver profile cases)) :=
      hperm.flatMap_right _
    have htargets : ∀ imported ∈ allImports (self.resolver profile cases),
        slotWrite (other.resolver profile cases) imported = slotWrite (self.resolver profile cases) imported := by
      intro imported himported
      obtain ⟨resolved, hresolved⟩ := KernelLoader.bind_all_resolves hself imported himported
      obtain ⟨resolved', hresolved'⟩ := KernelLoader.bind_all_resolves hother imported (himports.mem_iff.mp himported)
      have hequal := resolve_perm hperm hstems hresolved hresolved'
      simp only [slotWrite, Import.target, hresolved, hresolved', hequal]
    have hwrites : (slotWrites (self.resolver profile cases)).Perm (slotWrites (other.resolver profile cases)) := by
      have hmoved := himports.filterMap (slotWrite (other.resolver profile cases))
      rwa [List.filterMap_congr htargets] at hmoved
    rw [hafter, hafter', storeAll_perm before.mem hwrites hpairwise]
  · obtain ⟨last, hlast⟩ := self.bind_all_uniform profile cases before after after () hself
    have hrepeated := self.bind_all_leaves profile cases after last () hlast
    rw [hlast, hrepeated, hafter, storeAll_storeAll before.mem hpairwise]

/-- Two drivers with the image of `selfImportPe`. The second imports from the
    first. -/
def importingModules : List LoadedModule :=
  [⟨"x.sys", 0xFFFFF80040000000, 0x2600000, 0xFFFFF80040001000, 0x2000, selfImportPe 0x10C0 0x10D0⟩,
    ⟨"z.sys", 0xFFFFF80040200000, 0x2800000, 0xFFFFF80040201000, 0x2000, selfImportPe 0x10C0 0x10D0⟩]

set_option maxRecDepth 10000 in
theorem bind_all_perm_importingModules : ∃ after,
    (KernelLoader.bind_all .release CaseMap.ascii ⟨importingModules⟩).run ⟨fun _ => 0⟩ = .ok () after ∧
      (KernelLoader.bind_all .release CaseMap.ascii ⟨importingModules.reverse⟩).run ⟨fun _ => 0⟩ = .ok () after ∧
      (KernelLoader.bind_all .release CaseMap.ascii ⟨importingModules⟩).run after = .ok () after := by
  obtain ⟨⟨⟩, after, hself, _⟩ := Stateful.of_returns
    (show Stateful.returns (KernelLoader.bind_all .release CaseMap.ascii ⟨importingModules⟩) ⟨fun _ => 0⟩
      (fun _ => true) = true by decide +kernel)
  obtain ⟨⟨⟩, after', hother, _⟩ := Stateful.of_returns
    (show Stateful.returns (KernelLoader.bind_all .release CaseMap.ascii ⟨importingModules.reverse⟩) ⟨fun _ => 0⟩
      (fun _ => true) = true by decide +kernel)
  have hslots : resolvedSlots (KernelLoader.resolver .release CaseMap.ascii ⟨importingModules⟩) =
      [0x26010C0, 0x28010C0] := by decide +kernel
  have hstems : importingModules.map (fun loaded => moduleStem CaseMap.ascii loaded.name) = [some "X", some "Z"] := by
    decide +kernel
  have hdistinct : DistinctStems CaseMap.ascii importingModules := by
    rw [DistinctStems, ← List.pairwise_map (R := fun first second => first ≠ second), hstems]
    decide
  have happly := bind_all_perm .release CaseMap.ascii ⟨importingModules⟩ ⟨importingModules.reverse⟩
    (List.reverse_perm _).symm hdistinct (by rw [SlotsApart, hslots]; decide) ⟨fun _ => 0⟩ after after' hself hother
  exact ⟨after, hself, happly.1 ▸ hother, happly.2⟩

end vwfl.loader
