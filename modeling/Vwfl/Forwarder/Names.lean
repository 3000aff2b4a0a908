import Vwfl.Forwarder.Chain
import Vwfl.Pe.ExportExact

open Rust
open vwfl.pe vwfl.loader

namespace vwfl.forwarder

/-- A module whose stem no other module has, in a list of file names. -/
structure UniqueStem (resolver : ForwarderResolver) (loaded : LoadedModule) : Prop where
  mem : loaded ∈ resolver.modules
  stems : ∀ candidate ∈ resolver.modules, ∃ m_stem, moduleStem resolver.cases candidate.name = some m_stem
  unique : ∀ candidate ∈ resolver.modules,
    moduleStem resolver.cases candidate.name = moduleStem resolver.cases loaded.name → candidate = loaded

theorem findModule_of_unique {cases : CaseMap} {modules : List LoadedModule} {loaded : LoadedModule}
    {target_stem : String} (hmem : loaded ∈ modules) (hstem : moduleStem cases loaded.name = some target_stem)
    (hstems : ∀ candidate ∈ modules, ∃ m_stem, moduleStem cases candidate.name = some m_stem)
    (hunique : ∀ candidate ∈ modules, moduleStem cases candidate.name = some target_stem → candidate = loaded) :
    findModule cases target_stem modules = .ok (some loaded) := by
  induction modules with
  | nil => cases hmem
  | cons candidate rest ih =>
    obtain ⟨m_stem, hcandidate⟩ := hstems candidate List.mem_cons_self
    rw [findModule, hcandidate]
    by_cases hmatch : m_stem = target_stem
    · subst hmatch
      have hloaded := hunique candidate List.mem_cons_self hcandidate
      subst hloaded
      simp only [beq_self_eq_true, if_true]
    · have hrest : loaded ∈ rest := by
        rcases List.mem_cons.mp hmem with rfl | hrest
        · rw [hstem] at hcandidate
          exact absurd (Option.some.inj hcandidate).symm hmatch
        · exact hrest
      simp only [beq_eq_false_iff_ne.mpr hmatch, Bool.false_eq_true, if_false]
      exact ih hrest (fun later hlater => hstems later (List.mem_cons_of_mem _ hlater))
        fun later hlater => hunique later (List.mem_cons_of_mem _ hlater)

/-- A module with a stem of its own is asked for its exports. -/
theorem resolve_of_unique {resolver : ForwarderResolver} {loaded : LoadedModule} (h : UniqueStem resolver loaded)
    {dll_name : String} (hsame : moduleStem resolver.cases dll_name = moduleStem resolver.cases loaded.name)
    (func_name : String) :
    resolver.resolve dll_name func_name = attempt (loaded.pe.get_exports resolver.profile) >>= fun exports =>
      resolver.follow 10 ((exports.bind (findExport · func_name)).map fun exp => (loaded, exp)) := by
  obtain ⟨target_stem, hstem⟩ := h.stems loaded h.mem
  have hfound := findModule_of_unique h.mem hstem h.stems fun candidate hcandidate hmatch =>
    h.unique candidate hcandidate (hmatch.trans hstem.symm)
  unfold ForwarderResolver.resolve
  rw [ForwarderResolver.resolve_recursive, hsame, hstem]
  simp only [hfound, ok_bind]
  cases attempt (loaded.pe.get_exports resolver.profile) with
  | error fault => rfl
  | ok exports =>
    simp only [ok_bind]
    cases exports.bind (findExport · func_name) with
    | none => rfl
    | some exp => rfl

/-- With distinct names, a name is the last one of its slot exactly when no later
    name has the slot. -/
theorem lastName_eq_some_iff {exports : Exports} (hnames : (exports.names.map Prod.fst).Nodup) {j : Nat} {name : String}
    {slot : UInt16} (hname : exports.names[j]? = some (name, slot)) :
    exports.lastName slot.toNat = some name ↔
      ∀ later > j, ∀ found, exports.names[later]? = some found → found.2 ≠ slot := by
  obtain ⟨hj, hget⟩ := List.getElem?_eq_some_iff.mp hname
  have hsplit : exports.names = exports.names.take j ++ (name, slot) :: exports.names.drop (j + 1) := by
    rw [← hget, List.cons_getElem_drop_succ, List.take_append_drop]
  have hlater : (∀ later > j, ∀ found, exports.names[later]? = some found → found.2 ≠ slot) ↔
      ∀ found ∈ exports.names.drop (j + 1), found.2 ≠ slot := by
    constructor
    · intro h found hfound
      obtain ⟨i, hi⟩ := List.mem_iff_getElem?.mp hfound
      rw [List.getElem?_drop] at hi
      exact h (j + 1 + i) (by omega) found hi
    · intro h later hgt found hfound
      apply h found
      refine List.mem_iff_getElem?.mpr ⟨later - (j + 1), ?_⟩
      rw [List.getElem?_drop, Nat.add_sub_cancel' (by omega)]
      exact hfound
  have hfind : exports.names.reverse.find? (fun found => found.2 = slot) =
      ((exports.names.drop (j + 1)).reverse.find? fun found => found.2 = slot).or (some (name, slot)) := by
    conv_lhs => rw [hsplit]
    rw [List.reverse_append, List.reverse_cons, List.append_assoc, List.find?_append, List.singleton_append,
      List.find?_cons_of_pos (by simp)]
  rw [hlater]
  unfold Exports.lastName
  rw [UInt16.ofNat_toNat, hfind]
  cases hshared : (exports.names.drop (j + 1)).reverse.find? fun found => found.2 = slot with
  | none =>
    refine ⟨fun _ found hfound => ?_, fun _ => rfl⟩
    simpa using List.find?_eq_none.mp hshared found (List.mem_reverse.mpr hfound)
  | some found =>
    have hmem : found ∈ exports.names.drop (j + 1) := List.mem_reverse.mp (List.mem_of_find?_eq_some hshared)
    have hslot : found.2 = slot := by simpa using List.find?_some hshared
    constructor
    · intro hsame
      rw [hsplit, List.map_append, List.map_cons] at hnames
      have hfresh := (List.nodup_cons.mp (List.nodup_append.mp hnames).2.1).1
      rw [← show found.1 = name from Option.some.inj hsame] at hfresh
      exact absurd (List.mem_map_of_mem hmem) hfresh
    · exact fun h => absurd hslot (h found hmem)

/-- The slots that are exported under a plain name. -/
theorem lastName_of_label {exports : Exports} {slot : Nat} {name : String} (hplain : ¬ starts_with name '#')
    (h : exports.label slot = name) : exports.lastName slot = some name := by
  unfold Exports.label at h
  cases hlast : exports.lastName slot with
  | some found =>
    rw [hlast] at h
    exact congrArg some h
  | none =>
    rw [hlast, Option.getD_none] at h
    apply absurd _ hplain
    rw [← h]
    simp [starts_with]

/-- Distinct names belong to one slot number each. -/
theorem slot_of_lastName {exports : Exports} (hnames : (exports.names.map Prod.fst).Nodup) {name : String}
    {slot : UInt16} (hname : (name, slot) ∈ exports.names) {other : Nat} (h : exports.lastName other = some name) :
    UInt16.ofNat other = slot := by
  have hfound := Exports.lastName_eq_some h
  have hsame := List.inj_on_of_nodup_map hnames hfound hname rfl
  exact congrArg Prod.snd hsame

theorem lastName_congr {exports : Exports} {slot : UInt16} {other : Nat} (h : UInt16.ofNat other = slot) :
    exports.lastName other = exports.lastName slot.toNat := by
  unfold Exports.lastName
  rw [h, UInt16.ofNat_toNat]

/-- The first slot that is exported under the last name of a slot is that slot
    itself, also when later slots have the same low half-word. -/
theorem find?_slots {exports : Exports} (hnames : (exports.names.map Prod.fst).Nodup) {name : String} {slot : UInt16}
    (hplain : ¬ starts_with name '#') (hname : (name, slot) ∈ exports.names)
    (hlast : exports.lastName slot.toNat = some name) {rva : UInt32} (hrva : exports.rvas[slot.toNat]? = some rva)
    (hused : rva ≠ 0) :
    exports.slots.find? (fun found => exports.label found.2 == name) = some (rva, slot.toNat) := by
  obtain ⟨hlt, hget⟩ := List.getElem?_eq_some_iff.mp hrva
  have hsplit : exports.rvas = exports.rvas.take slot.toNat ++ rva :: exports.rvas.drop (slot.toNat + 1) := by
    rw [← hget, List.cons_getElem_drop_succ, List.take_append_drop]
  have hlength : (exports.rvas.take slot.toNat).length = slot.toNat := by
    rw [List.length_take, Nat.min_eq_left hlt.le]
  have hlabel : exports.label slot.toNat = name := by
    rw [Exports.label, hlast]
    rfl
  have hbefore : ((exports.rvas.take slot.toNat).zipIdx.filter fun found => found.1 ≠ 0).find?
      (fun found => exports.label found.2 == name) = none := by
    rw [List.find?_eq_none]
    rintro ⟨other, i⟩ hmem hmatch
    have hindex := List.mem_zipIdx_iff_getElem?.mp (List.mem_filter.mp hmem).1
    have hi := (List.getElem?_eq_some_iff.mp hindex).1
    have hslot := slot_of_lastName hnames hname (lastName_of_label hplain (by simpa using hmatch))
    rw [← UInt16.toNat_inj, UInt16.toNat_ofNat'] at hslot
    have hslot_lt := slot.toNat_lt
    dsimp only at hi
    omega
  unfold Exports.slots
  rw [hsplit, List.zipIdx_append, List.filter_append, List.find?_append, hbefore, Option.none_or, hlength, Nat.zero_add,
    List.zipIdx_cons, List.filter_cons_of_pos (by simpa using hused), List.find?_cons_of_pos (by simpa using hlabel)]

section Entries

variable {pe : PeFile} {profile : Profile} {exports : Exports} {dir_rva dir_size : UInt32} {entries : List ExportEntry}

/-- The entries are searched like the slots. -/
theorem find?_entries (hentries : List.Forall₂ (pe.EntryAt profile exports dir_rva dir_size) exports.slots entries)
    (name : String) : Option.Rel (pe.EntryAt profile exports dir_rva dir_size)
      (exports.slots.find? fun found => exports.label found.2 == name) (entries.find? (·.name == name)) :=
  rel_find? hentries fun hentry => by rw [hentry.name]

/-- A name that is not the last one of its slot is no entry's name. -/
theorem find?_entries_eq_none
    (hentries : List.Forall₂ (pe.EntryAt profile exports dir_rva dir_size) exports.slots entries)
    (hnames : (exports.names.map Prod.fst).Nodup) {name : String} {slot : UInt16} (hplain : ¬ starts_with name '#')
    (hname : (name, slot) ∈ exports.names) (hlast : exports.lastName slot.toNat ≠ some name) :
    entries.find? (·.name == name) = none := by
  have hslots : exports.slots.find? (fun found => exports.label found.2 == name) = none := by
    rw [List.find?_eq_none]
    rintro ⟨rva, i⟩ _ hmatch
    have hlabel := lastName_of_label hplain (by simpa using hmatch)
    have hslot := slot_of_lastName hnames hname hlabel
    rw [lastName_congr hslot] at hlabel
    exact hlast hlabel
  have hrel := find?_entries hentries name
  rw [hslots] at hrel
  cases hfound : entries.find? (·.name == name) with
  | none => rfl
  | some entry =>
    rw [hfound] at hrel
    cases hrel

end Entries

theorem findExport_of_plain {entries : List ExportEntry} {name : String} (hplain : ¬ starts_with name '#') :
    findExport entries name = entries.find? (·.name == name) := by
  rw [findExport, if_neg hplain]

/-- A module whose exports are searched with success has readable exports. -/
theorem get_exports_of_found {resolver : ForwarderResolver} {loaded : LoadedModule} {func_name : String}
    {address : UInt64} (h : (attempt (loaded.pe.get_exports resolver.profile) >>= fun exports =>
      resolver.follow 10 ((exports.bind (findExport · func_name)).map fun exp => (loaded, exp))) = .ok (some address)) :
    ∃ entries, loaded.pe.get_exports resolver.profile = .ok entries := by
  obtain ⟨found, hattempt, hfollow⟩ := bind_eq_ok_iff.mp h
  have hfound := ForwarderResolver.attempt_eq_ok hattempt
  cases hread : loaded.pe.get_exports resolver.profile with
  | ok entries => exact ⟨entries, rfl⟩
  | error fault =>
    rw [hread] at hfound
    subst hfound
    cases hfollow

/-- An entry without a forwarder gives the address of its slot in the module. -/
theorem follow_of_entryAt {resolver : ForwarderResolver} {loaded : LoadedModule} {exports : Exports}
    {dir_rva dir_size : UInt32} {slot : UInt32 × Nat} {entry : ExportEntry}
    (hentry : loaded.pe.EntryAt resolver.profile exports dir_rva dir_size slot entry)
    (hend : dir_rva.toNat + dir_size.toNat < 2 ^ 32) (hdirect : ¬ InDirectory dir_rva dir_size slot.1)
    (hbase : loaded.v_base.toNat + slot.1.toNat < 2 ^ 64) (remaining : Nat) :
    resolver.follow remaining (some (loaded, entry)) = .ok (some (loaded.v_base + slot.1.toUInt64)) := by
  have hforwarder : entry.forwarder = none :=
    Except.ok.inj (hentry.forwarder.symm.trans (forwarderOf_of_not_inDirectory hend hdirect))
  simp only [ForwarderResolver.follow, hforwarder, hentry.rva]
  rw [resolver.profile.add64_of_lt (by rw [UInt32.toNat_toUInt64]; exact hbase), ok_bind]
  rfl

def twoNamesModule : LoadedModule := ⟨"x.dll", 0xFFFFF80002000000, 0x2000000, 0xFFFFF80002001000, 0x3000, twoNamesPe⟩

def twoNamesResolver : ForwarderResolver := ⟨.dev, CaseMap.ascii, [twoNamesModule]⟩

theorem twoNames_unique : UniqueStem twoNamesResolver twoNamesModule where
  mem := List.mem_singleton_self _
  stems := by
    intro candidate hcandidate
    rw [List.mem_singleton.mp hcandidate]
    exact ⟨"X", by decide +kernel⟩
  unique := by
    intro candidate hcandidate _
    exact List.mem_singleton.mp hcandidate

end vwfl.forwarder
