import Vwfl.Forwarder.Resolve
import Vwfl.Pe.Crate

open Rust
open vwfl.pe vwfl.loader

namespace vwfl.forwarder

namespace ForwarderResolver

variable (resolver : ForwarderResolver)

/-- One step of name resolution, without regard to panics: the first module with
    the stem of `dll_name` and the first matching export of it. -/
def lookup (dll_name func_name : String) : Option (LoadedModule × ExportEntry) := do
  let target_stem ← moduleStem resolver.cases dll_name
  let loaded ← resolver.modules.find? fun candidate => moduleStem resolver.cases candidate.name == some target_stem
  let exports ← (loaded.pe.get_exports resolver.profile).toOption
  let exp ← findExport exports func_name
  return (loaded, exp)

/-- A chain of at most `hops` forwarders from a name to an address. -/
inductive Chain : Nat → String → String → UInt64 → Prop
  | direct {hops : Nat} {dll_name func_name : String} {loaded : LoadedModule} {exp : ExportEntry}
      (hlookup : resolver.lookup dll_name func_name = some (loaded, exp)) (hforwarder : exp.forwarder = none) :
      Chain hops dll_name func_name (loaded.v_base + exp.rva.toUInt64)
  | forward {hops : Nat} {dll_name func_name : String} {loaded : LoadedModule} {exp : ExportEntry}
      {fwd_str fwd_dll fwd_func : String} {address : UInt64}
      (hlookup : resolver.lookup dll_name func_name = some (loaded, exp)) (hforwarder : exp.forwarder = some fwd_str)
      (hsplit : split_once fwd_str '.' = some (fwd_dll, fwd_func)) (hrest : Chain hops fwd_dll fwd_func address) :
      Chain (hops + 1) dll_name func_name address

/-- Names reached by following exactly `hops` forwarders. -/
inductive Reaches : Nat → String → String → String → String → Prop
  | here {dll_name func_name : String} : Reaches 0 dll_name func_name dll_name func_name
  | forward {hops : Nat} {dll_name func_name : String} {loaded : LoadedModule} {exp : ExportEntry}
      {fwd_str fwd_dll fwd_func last_dll last_func : String}
      (hlookup : resolver.lookup dll_name func_name = some (loaded, exp)) (hforwarder : exp.forwarder = some fwd_str)
      (hsplit : split_once fwd_str '.' = some (fwd_dll, fwd_func))
      (hrest : Reaches hops fwd_dll fwd_func last_dll last_func) :
      Reaches (hops + 1) dll_name func_name last_dll last_func

/-- The lookup of a name does not panic: every module before the chosen one has
    a stem, the export table of the chosen one can be read or is rejected, and
    the address of a function that is not forwarded can be represented. -/
structure LooksUp (dll_name func_name : String) : Prop where
  found : ∀ target_stem, moduleStem resolver.cases dll_name = some target_stem →
    ∃ found, findModule resolver.cases target_stem resolver.modules = .ok found
  exports : ∀ target_stem loaded, moduleStem resolver.cases dll_name = some target_stem →
    findModule resolver.cases target_stem resolver.modules = .ok (some loaded) →
      ∃ exports, attempt (loaded.pe.get_exports resolver.profile) = .ok exports
  address : ∀ loaded exp, resolver.lookup dll_name func_name = some (loaded, exp) → exp.forwarder = none →
    ∃ address, resolver.profile.add64 loaded.v_base exp.rva.toUInt64 = .ok address

/-- Resolution agrees with the forwarder chains of at most ten hops. -/
structure ResolvesExactly (dll_name func_name : String) : Prop where
  some_iff : ∀ address, resolver.resolve dll_name func_name = .ok (some address) ↔
    resolver.Chain 10 dll_name func_name address
  none_of : (¬ ∃ address, resolver.Chain 10 dll_name func_name address) → resolver.resolve dll_name func_name = .ok none

variable {resolver}

/-- A module search that returns finds the first module with the stem. -/
theorem findModule_eq_ok {cases : CaseMap} {target_stem : String} {modules : List LoadedModule}
    {found : Option LoadedModule} (h : findModule cases target_stem modules = .ok found) :
    found = modules.find? fun candidate => moduleStem cases candidate.name == some target_stem := by
  induction modules with
  | nil =>
    cases h
    rfl
  | cons candidate rest ih =>
    unfold findModule at h
    cases hstem : moduleStem cases candidate.name with
    | none => simp [hstem] at h
    | some m_stem =>
      simp only [hstem] at h
      by_cases hmatch : m_stem = target_stem
      · simp only [hmatch, beq_self_eq_true, if_true] at h
        cases h
        rw [List.find?_cons_of_pos (by simp [hstem, hmatch])]
      · rw [if_neg (by simpa using hmatch)] at h
        rw [List.find?_cons_of_neg (by simpa [hstem] using hmatch)]
        exact ih h

theorem attempt_eq_ok {α : Type} {x : Result α} {value : Option α} (h : attempt x = .ok value) :
    value = x.toOption := by
  unfold attempt at h
  split at h
  · cases h
    rfl
  · cases h
    rfl
  · cases h

/-- What the resolver does with the outcome of a lookup. -/
def follow (resolver : ForwarderResolver) (remaining : Nat) :
    Option (LoadedModule × ExportEntry) → Result (Option UInt64)
  | none => .ok none
  | some (loaded, exp) =>
    match exp.forwarder with
    | some fwd_str =>
      match split_once fwd_str '.' with
      | some (fwd_dll, fwd_func) => resolver.resolve_recursive remaining fwd_dll fwd_func
      | none => .ok none
    | none => do
      let address ← resolver.profile.add64 loaded.v_base exp.rva.toUInt64
      return some address

/-- The module and the exports that a lookup goes through, when neither search
    panics. -/
theorem resolve_recursive_eq_follow {remaining : Nat} {dll_name func_name : String}
    (hfound : ∀ target_stem, moduleStem resolver.cases dll_name = some target_stem →
      ∃ found, findModule resolver.cases target_stem resolver.modules = .ok found)
    (hexports : ∀ target_stem loaded, moduleStem resolver.cases dll_name = some target_stem →
      findModule resolver.cases target_stem resolver.modules = .ok (some loaded) →
        ∃ exports, attempt (loaded.pe.get_exports resolver.profile) = .ok exports) :
    resolver.resolve_recursive (remaining + 1) dll_name func_name =
      resolver.follow remaining (resolver.lookup dll_name func_name) := by
  unfold resolve_recursive lookup
  cases hstem : moduleStem resolver.cases dll_name with
  | none => rfl
  | some target_stem =>
    obtain ⟨found, hmodule⟩ := hfound target_stem hstem
    have hfirst := findModule_eq_ok hmodule
    simp only [hmodule, ok_bind, Option.bind_eq_bind, Option.bind_some, ← hfirst]
    cases found with
    | none => rfl
    | some loaded =>
      obtain ⟨exports, hattempt⟩ := hexports target_stem loaded hstem hmodule
      have hread := attempt_eq_ok hattempt
      simp only [hattempt, ok_bind, Option.bind_some, ← hread]
      cases exports with
      | none => rfl
      | some exports =>
        simp only [Option.bind_some]
        cases findExport exports func_name <;> rfl

theorem LooksUp.resolve_recursive_eq {remaining : Nat} {dll_name func_name : String}
    (hlooksUp : resolver.LooksUp dll_name func_name) :
    resolver.resolve_recursive (remaining + 1) dll_name func_name =
      resolver.follow remaining (resolver.lookup dll_name func_name) :=
  resolve_recursive_eq_follow hlooksUp.found hlooksUp.exports

/-- A resolution that returns has looked its name up without a panic. -/
theorem looksUp_of_resolve {remaining : Nat} {dll_name func_name : String} {result : Option UInt64}
    (h : resolver.resolve_recursive (remaining + 1) dll_name func_name = .ok result) :
    resolver.LooksUp dll_name func_name := by
  have hfound : ∀ target_stem, moduleStem resolver.cases dll_name = some target_stem →
      ∃ found, findModule resolver.cases target_stem resolver.modules = .ok found := by
    intro target_stem hstem
    unfold resolve_recursive at h
    simp only [hstem] at h
    obtain ⟨found, hmodule, _⟩ := bind_eq_ok_iff.mp h
    exact ⟨found, hmodule⟩
  have hexports : ∀ target_stem loaded, moduleStem resolver.cases dll_name = some target_stem →
      findModule resolver.cases target_stem resolver.modules = .ok (some loaded) →
        ∃ exports, attempt (loaded.pe.get_exports resolver.profile) = .ok exports := by
    intro target_stem loaded hstem hmodule
    unfold resolve_recursive at h
    simp only [hstem, hmodule, ok_bind] at h
    obtain ⟨exports, hattempt, _⟩ := bind_eq_ok_iff.mp h
    exact ⟨exports, hattempt⟩
  refine ⟨hfound, hexports, ?_⟩
  intro loaded exp hlookup hforwarder
  rw [resolve_recursive_eq_follow hfound hexports, hlookup] at h
  simp only [follow, hforwarder] at h
  obtain ⟨address, haddress, _⟩ := bind_eq_ok_iff.mp h
  exact ⟨address, haddress⟩

/-- The address at the end of a chain with fewer than `remaining` forwarders. -/
def chainEnd (resolver : ForwarderResolver) : Nat → String → String → Option UInt64
  | 0, _, _ => none
  | remaining + 1, dll_name, func_name => do
    let (loaded, exp) ← resolver.lookup dll_name func_name
    match exp.forwarder with
    | some fwd_str => do
      let (fwd_dll, fwd_func) ← split_once fwd_str '.'
      resolver.chainEnd remaining fwd_dll fwd_func
    | none => return loaded.v_base + exp.rva.toUInt64

/-- The end of a chain is the address of the relation with the same bound. -/
theorem chainEnd_eq_some_iff {remaining : Nat} {dll_name func_name : String} {address : UInt64} :
    resolver.chainEnd (remaining + 1) dll_name func_name = some address ↔
      resolver.Chain remaining dll_name func_name address := by
  induction remaining generalizing dll_name func_name with
  | zero =>
    constructor
    · intro h
      unfold chainEnd at h
      obtain ⟨⟨loaded, exp⟩, hlookup, h⟩ := Option.bind_eq_some_iff.mp h
      cases hforwarder : exp.forwarder with
      | none =>
        simp only [hforwarder] at h
        cases h
        exact .direct hlookup hforwarder
      | some fwd_str =>
        simp only [hforwarder, chainEnd] at h
        obtain ⟨_, _, h⟩ := Option.bind_eq_some_iff.mp h
        cases h
    · intro h
      cases h with
      | direct hlookup hforwarder =>
        unfold chainEnd
        simp only [hlookup, hforwarder, Option.bind_eq_bind, Option.bind_some]
        rfl
  | succ remaining ih =>
    constructor
    · intro h
      unfold chainEnd at h
      obtain ⟨⟨loaded, exp⟩, hlookup, h⟩ := Option.bind_eq_some_iff.mp h
      cases hforwarder : exp.forwarder with
      | none =>
        simp only [hforwarder] at h
        cases h
        exact .direct hlookup hforwarder
      | some fwd_str =>
        simp only [hforwarder] at h
        obtain ⟨⟨fwd_dll, fwd_func⟩, hsplit, h⟩ := Option.bind_eq_some_iff.mp h
        exact .forward hlookup hforwarder hsplit (ih.mp h)
    · intro h
      unfold chainEnd
      cases h with
      | direct hlookup hforwarder =>
        simp only [hlookup, hforwarder, Option.bind_eq_bind, Option.bind_some]
        rfl
      | forward hlookup hforwarder hsplit hrest =>
        simp only [hlookup, hforwarder, hsplit, Option.bind_eq_bind, Option.bind_some]
        exact ih.mpr hrest

/-- Without a panic on the way, the recursion computes the end of the chain. -/
theorem resolve_recursive_eq_chainEnd {remaining : Nat} {dll_name func_name : String}
    (hlooksUp : ∀ hops < remaining, ∀ last_dll last_func,
      resolver.Reaches hops dll_name func_name last_dll last_func → resolver.LooksUp last_dll last_func) :
    resolver.resolve_recursive remaining dll_name func_name =
      .ok (resolver.chainEnd remaining dll_name func_name) := by
  induction remaining generalizing dll_name func_name with
  | zero => rfl
  | succ remaining ih =>
    have hhere := hlooksUp 0 (by omega) dll_name func_name .here
    rw [hhere.resolve_recursive_eq, chainEnd]
    cases hlookup : resolver.lookup dll_name func_name with
    | none => rfl
    | some found =>
      obtain ⟨loaded, exp⟩ := found
      simp only [follow, Option.bind_eq_bind, Option.bind_some]
      cases hforwarder : exp.forwarder with
      | none =>
        obtain ⟨address, haddress⟩ := hhere.address loaded exp hlookup hforwarder
        simp only [haddress, ok_bind, Profile.eq_of_add64 haddress]
        rfl
      | some fwd_str =>
        cases hsplit : split_once fwd_str '.' with
        | none => simp [hsplit]
        | some target =>
          obtain ⟨fwd_dll, fwd_func⟩ := target
          simp only [hsplit, Option.bind_some]
          apply ih
          intro hops hhops last_dll last_func hreaches
          exact hlooksUp (hops + 1) (by omega) last_dll last_func (.forward hlookup hforwarder hsplit hreaches)

/-- A recursion that returns has looked up every name it could reach. -/
theorem looksUp_of_reaches {remaining hops : Nat} {dll_name func_name last_dll last_func : String}
    {result : Option UInt64} (hresolve : resolver.resolve_recursive remaining dll_name func_name = .ok result)
    (hhops : hops < remaining) (hreaches : resolver.Reaches hops dll_name func_name last_dll last_func) :
    resolver.LooksUp last_dll last_func := by
  induction hreaches generalizing remaining with
  | here =>
    obtain ⟨remaining, rfl⟩ : ∃ smaller, remaining = smaller + 1 := ⟨remaining - 1, by omega⟩
    exact looksUp_of_resolve hresolve
  | forward hlookup hforwarder hsplit hrest ih =>
    obtain ⟨remaining, rfl⟩ : ∃ smaller, remaining = smaller + 1 := ⟨remaining - 1, by omega⟩
    have hhere := looksUp_of_resolve hresolve
    rw [hhere.resolve_recursive_eq, hlookup] at hresolve
    simp only [follow, hforwarder, hsplit] at hresolve
    exact ih hresolve (by omega)

/-- Import resolution is the forwarder-chain relation exactly when no name on
    the way panics: none of the lookups within ten forwarders may hit a module
    without a stem, an export table that runs out of its file, or an address
    that overflows. -/
theorem resolvesExactly_iff (resolver : ForwarderResolver) (dll_name func_name : String) :
    resolver.ResolvesExactly dll_name func_name ↔
      ∀ hops ≤ 10, ∀ last_dll last_func, resolver.Reaches hops dll_name func_name last_dll last_func →
        resolver.LooksUp last_dll last_func := by
  constructor
  · intro hexact hops hhops last_dll last_func hreaches
    obtain ⟨result, hresolve⟩ : ∃ result, resolver.resolve dll_name func_name = .ok result := by
      by_cases hchain : ∃ address, resolver.Chain 10 dll_name func_name address
      · obtain ⟨address, haddress⟩ := hchain
        exact ⟨some address, (hexact.some_iff address).mpr haddress⟩
      · exact ⟨none, hexact.none_of hchain⟩
    exact looksUp_of_reaches hresolve (by omega) hreaches
  · intro hlooksUp
    have hresolve : resolver.resolve dll_name func_name = .ok (resolver.chainEnd 11 dll_name func_name) :=
      resolve_recursive_eq_chainEnd fun hops hhops => hlooksUp hops (by omega)
    constructor
    · intro address
      rw [hresolve, Except.ok.injEq]
      exact chainEnd_eq_some_iff
    · intro hchain
      rw [hresolve]
      cases hend : resolver.chainEnd 11 dll_name func_name with
      | none => rfl
      | some address => exact absurd ⟨address, chainEnd_eq_some_iff.mp hend⟩ hchain

/-- A chain ends at an export that is not forwarded. -/
theorem Chain.ends {hops : Nat} {dll_name func_name : String} {address : UInt64}
    (hchain : resolver.Chain hops dll_name func_name address) :
    ∃ used ≤ hops, ∃ last_dll last_func exporter exp, resolver.Reaches used dll_name func_name last_dll last_func ∧
      resolver.lookup last_dll last_func = some (exporter, exp) ∧ exp.forwarder = none ∧
      address = exporter.v_base + exp.rva.toUInt64 := by
  induction hchain with
  | direct hlookup hforwarder => exact ⟨0, Nat.zero_le _, _, _, _, _, .here, hlookup, hforwarder, rfl⟩
  | forward hlookup hforwarder hsplit _ ih =>
    obtain ⟨used, hused, last_dll, last_func, exporter, exp, hreaches, hrest⟩ := ih
    exact ⟨used + 1, by omega, last_dll, last_func, exporter, exp, .forward hlookup hforwarder hsplit hreaches, hrest⟩

theorem mem_of_lookup {dll_name func_name : String} {exporter : LoadedModule}
    {exp : ExportEntry} (hlookup : resolver.lookup dll_name func_name = some (exporter, exp)) :
    exporter ∈ resolver.modules := by
  unfold lookup at hlookup
  simp only [Option.bind_eq_bind, Option.bind_eq_some_iff] at hlookup
  obtain ⟨_, _, found, hfind, _, _, _, _, hpair⟩ := hlookup
  cases hpair
  exact List.mem_of_find?_eq_some hfind

end ForwarderResolver

/-- A file whose export directory starts in its last eight bytes. -/
def shortExportFile : List UInt8 :=
  peImage 0x180000000 0x1000 (0x1000, 0x28) (0, 0)
    [⟨[0x2E, 0x65, 0x64, 0x61, 0x74, 0x61], 0x1000, 0x1000, 8, 368⟩] (List.replicate 8 0)

def shortExportPe : PeFile where
  entry_point := 0x180001000
  image_base := 0x180000000
  sections := [{ name := ".edata", virtual_address := 0x180001000, virtual_size := 0x1000,
                 raw_data := List.replicate 8 0 }]
  header_data := shortExportFile
  pdb_name := "Unknown"
  pdb_guid_age := "Unknown"
  raw_bytes := shortExportFile

def shortExportResolver : ForwarderResolver where
  profile := .release
  cases := CaseMap.ascii
  modules := [⟨"hal.dll", 0xFFFFF80002000000, 0x2000000, 0xFFFFF80002001000, 0x2000, shortExportPe⟩]

/-- A parsed file whose export directory is cut off makes the resolver panic. -/
theorem not_resolvesExactly_short_exports :
    parse peCrate shortExportFile = .ok shortExportPe ∧
      ¬ shortExportResolver.ResolvesExactly "HAL.dll" "KeGetCurrentIrql" := by
  refine ⟨by decide +kernel, ?_⟩
  intro hexact
  have hpanic : shortExportResolver.resolve "HAL.dll" "KeGetCurrentIrql" =
      .error (.panic "range out of range for slice") := by decide +kernel
  by_cases hchain : ∃ address, shortExportResolver.Chain 10 "HAL.dll" "KeGetCurrentIrql" address
  · obtain ⟨address, haddress⟩ := hchain
    have hsome := (hexact.some_iff address).mpr haddress
    rw [hpanic] at hsome
    cases hsome
  · have hmissing := hexact.none_of hchain
    rw [hpanic] at hmissing
    cases hmissing

end vwfl.forwarder
