import Vwfl.Pe.Crate
import Vwfl.Pe.Exports
import Vwfl.Pe.Layout
import Vwfl.Rust.Lists

open Rust LittleEndian

namespace vwfl.pe

/-- The words of an export directory behind its name. -/
structure ExportDirectory where
  base : UInt32
  num_funcs : UInt32
  num_names : UInt32
  addr_table_rva : UInt32
  name_table_rva : UInt32
  ordinal_table_rva : UInt32

def ExportDirectory.encode (directory : ExportDirectory) : List UInt8 :=
  ofUInt32 directory.base ++ ofUInt32 directory.num_funcs ++ ofUInt32 directory.num_names ++
    ofUInt32 directory.addr_table_rva ++ ofUInt32 directory.name_table_rva ++ ofUInt32 directory.ordinal_table_rva

/-- What an export directory says: the addresses of the slots, and names with
    the slots that they name. -/
structure Exports where
  base : UInt32
  rvas : List UInt32
  names : List (String × UInt16)

namespace Exports

variable (exports : Exports)

/-- The slots in use, with their numbers. -/
def slots : List (UInt32 × Nat) := exports.rvas.zipIdx.filter fun slot => slot.1 ≠ 0

/-- The last name of a slot. -/
def lastName (slot : Nat) : Option String :=
  (exports.names.reverse.find? fun found => found.2 = UInt16.ofNat slot).map Prod.fst

def ordinal (slot : Nat) : UInt16 := UInt16.ofNat (exports.base.toNat + slot)

def label (slot : Nat) : String := (exports.lastName slot).getD ("#" ++ toString (exports.ordinal slot).toNat)

end Exports

/-- Addresses in the export directory belong to forwarders. -/
def InDirectory (dir_rva dir_size rva : UInt32) : Prop :=
  dir_rva.toNat ≤ rva.toNat ∧ rva.toNat < dir_rva.toNat + dir_size.toNat

instance (dir_rva dir_size rva : UInt32) : Decidable (InDirectory dir_rva dir_size rva) :=
  inferInstanceAs (Decidable (_ ∧ _))

namespace Reading

variable (reading : Reading)

def NamesAt (name_offset ordinal_offset : Nat) (names : List (String × UInt16)) : Prop :=
  ∃ pointers : List UInt32, reading.ItemsAt 4 ofUInt32 name_offset pointers ∧
    List.Forall₂ (fun pointer found =>
      ∃ offset, reading.Located pointer.toNat offset ∧ reading.TextAt offset found.1) pointers names ∧
    reading.ItemsAt 2 (fun found : String × UInt16 => ofUInt16 found.2) ordinal_offset names

/-- An export directory with its three tables and the names. -/
def ExportsAt (offset : Nat) (exports : Exports) : Prop :=
  ∃ directory : ExportDirectory, reading.Holds (offset + 16) directory.encode ∧
    directory.base = exports.base ∧ directory.num_funcs.toNat = exports.rvas.length ∧
    directory.num_names.toNat = exports.names.length ∧
    ∃ addr_offset name_offset ordinal_offset, reading.Located directory.addr_table_rva.toNat addr_offset ∧
      reading.Located directory.name_table_rva.toNat name_offset ∧
      reading.Located directory.ordinal_table_rva.toNat ordinal_offset ∧
      reading.ItemsAt 4 ofUInt32 addr_offset exports.rvas ∧
      reading.NamesAt name_offset ordinal_offset exports.names

/-- The forwarder of an address: the text there when it lies in the export
    directory. -/
def ForwarderAt (dir_rva dir_size rva : UInt32) (forwarder : Option String) : Prop :=
  if InDirectory dir_rva dir_size rva then
    ∃ offset text, reading.Located rva.toNat offset ∧ reading.TextAt offset text ∧ forwarder = some text
  else forwarder = none

end Reading

section Mono

variable {first second : Reading}

theorem Reading.ItemsAt.mono (hle : first.Le second) {α : Type} {width : Nat} {encode : α → List UInt8} {place : Nat}
    {items : List α} (h : first.ItemsAt width encode place items) : second.ItemsAt width encode place items := by
  induction items generalizing place with
  | nil => exact trivial
  | cons item rest ih => exact ⟨hle.holds h.1, ih h.2⟩

theorem Reading.NamesAt.mono (hle : first.Le second) {name_offset ordinal_offset : Nat}
    {names : List (String × UInt16)} (h : first.NamesAt name_offset ordinal_offset names) :
    second.NamesAt name_offset ordinal_offset names := by
  obtain ⟨pointers, hpointers, htexts, hslots⟩ := h
  refine ⟨pointers, hpointers.mono hle, htexts.imp ?_, hslots.mono hle⟩
  rintro pointer found ⟨offset, hlocated, htext⟩
  exact ⟨offset, hle.located hlocated, hle.text htext⟩

theorem Reading.ExportsAt.mono (hle : first.Le second) {offset : Nat} {exports : Exports}
    (h : first.ExportsAt offset exports) : second.ExportsAt offset exports := by
  obtain ⟨directory, hholds, hbase, hfuncs, hnames, addr, name, ordinal, haddr, hname, hordinal, hrvas, htexts⟩ := h
  exact ⟨directory, hle.holds hholds, hbase, hfuncs, hnames, addr, name, ordinal, hle.located haddr,
    hle.located hname, hle.located hordinal, hrvas.mono hle, htexts.mono hle⟩

end Mono

/-- The name map of a list of names: the last name of a slot comes first. -/
def nameMap (names : List (String × UInt16)) : NameMap := (names.map fun found => (found.2, found.1)).reverse

private theorem lookup_swap (names : List (String × UInt16)) (slot : UInt16) :
    (names.map fun found => (found.2, found.1)).lookup slot =
      (names.find? fun found => found.2 = slot).map Prod.fst := by
  induction names with
  | nil => rfl
  | cons found rest ih =>
    rw [List.map_cons, List.lookup_cons]
    by_cases hslot : found.2 = slot
    · rw [List.find?_cons_of_pos (by simpa using hslot), hslot, beq_self_eq_true]
      rfl
    · rw [List.find?_cons_of_neg (by simpa using hslot), beq_eq_false_iff_ne.mpr (Ne.symm hslot)]
      exact ih

theorem nameMap_lookup (exports : Exports) (slot : Nat) :
    (nameMap exports.names).lookup (UInt16.ofNat slot) = exports.lastName slot := by
  unfold nameMap Exports.lastName
  rw [← List.map_reverse, lookup_swap]

/-- The loop over the names. -/
theorem insertNames_eq {profile : Profile} {pe : PeFile} {name_offset ordinal_offset : Nat}
    {names : List (String × UInt16)} (h : (pe.reading profile .PE32Plus).NamesAt name_offset ordinal_offset names) :
    (List.range names.length).foldlM (pe.insertName profile name_offset ordinal_offset) [] = .ok (nameMap names) := by
  obtain ⟨pointers, hpointers, htexts, hslots⟩ := h
  rw [Reading.itemsAt_iff rfl] at hpointers hslots
  have hround : ∀ numbered ∈ names.zipIdx, ∀ name_map, pe.insertName profile name_offset ordinal_offset name_map
      numbered.2 = .ok ((numbered.1.2, numbered.1.1) :: name_map) := by
    rintro ⟨found, i⟩ hmem name_map
    have hfound : names[i]? = some found := List.mem_zipIdx_iff_getElem?.mp hmem
    obtain ⟨pointer, hpointer, offset, hlocated, htext⟩ := forall₂_of_getElem? htexts hfound
    simp only [PeFile.reading, UInt32.ofNat_toNat] at hlocated htext
    have hname : readU32 pe.raw_bytes (name_offset + i * 4) = .ok pointer :=
      readU32_eq_ok_iff.mpr (hpointers.of_getElem? hpointer)
    have hslot : readU16 pe.raw_bytes (ordinal_offset + i * 2) = .ok found.2 :=
      readU16_eq_ok_iff.mpr (hslots.of_getElem? hfound)
    unfold PeFile.insertName
    rw [hname, ok_bind, offsetOr_eq_ok_iff.mpr hlocated, ok_bind, htext, ok_bind, hslot, ok_bind]
    rfl
  rw [range_length_eq, List.foldlM_map, foldlM_collect hround, List.append_nil]
  unfold nameMap
  rw [← List.zipIdx_map_fst 0 names, List.map_map]
  simp

theorem Reading.ExportsAt.length_lt {reading : Reading} {offset : Nat} {exports : Exports}
    (h : reading.ExportsAt offset exports) : exports.rvas.length < 2 ^ 32 := by
  obtain ⟨directory, _, _, hfuncs, _⟩ := h
  rw [← hfuncs]
  exact directory.num_funcs.toNat_lt

/-- The forwarder of an address in the export directory is the text there. -/
theorem forwarderOf_of_inDirectory {profile : Profile} {pe : PeFile} {dir_rva dir_size rva : UInt32}
    (hend : dir_rva.toNat + dir_size.toNat < 2 ^ 32) (hin : InDirectory dir_rva dir_size rva) :
    pe.forwarderOf profile dir_rva dir_size rva = (pe.rva_to_offset profile rva >>= fun found => match found with
      | some offset => do
        let text ← pe.read_cstring offset
        return some text
      | none => return none) := by
  have hhigh : rva < dir_rva + dir_size := by
    rw [UInt32.lt_iff_toNat_lt, UInt32.toNat_add, Nat.mod_eq_of_lt hend]
    exact hin.2
  unfold PeFile.forwarderOf
  rw [if_pos (UInt32.le_iff_toNat_le.mpr hin.1), profile.add32_of_lt hend, ok_bind]
  exact if_pos hhigh

theorem forwarderOf_of_not_inDirectory {profile : Profile} {pe : PeFile} {dir_rva dir_size rva : UInt32}
    (hend : dir_rva.toNat + dir_size.toNat < 2 ^ 32) (hout : ¬ InDirectory dir_rva dir_size rva) :
    pe.forwarderOf profile dir_rva dir_size rva = .ok none := by
  unfold PeFile.forwarderOf
  by_cases hlow : rva ≥ dir_rva
  · have hhigh : ¬ rva < dir_rva + dir_size := by
      rw [UInt32.lt_iff_toNat_lt, UInt32.toNat_add, Nat.mod_eq_of_lt hend]
      exact fun hlt => hout ⟨UInt32.le_iff_toNat_le.mp hlow, hlt⟩
    rw [if_pos hlow, profile.add32_of_lt hend, ok_bind, if_neg hhigh]
    rfl
  · rw [if_neg hlow]
    rfl

/-- One round of the loop over the address table. -/
theorem exportAt_eq {profile : Profile} {pe : PeFile} {exports : Exports} {dir_rva dir_size : UInt32}
    {addr_offset i : Nat} {rva : UInt32} {forwarder : Option String}
    (hrvas : ItemsAt pe.raw_bytes 4 ofUInt32 addr_offset exports.rvas) (hrva : exports.rvas[i]? = some rva)
    (hused : rva ≠ 0) (hordinal : profile = .dev → exports.base.toNat + i < 2 ^ 32)
    (hforwarder : pe.forwarderOf profile dir_rva dir_size rva = .ok forwarder) :
    pe.exportAt profile dir_rva dir_size exports.base addr_offset (nameMap exports.names) i =
      .ok (some { name := exports.label i, rva, ordinal := exports.ordinal i, forwarder }) := by
  have hi : (UInt32.ofNat i).toNat = i % 2 ^ 32 := UInt32.toNat_ofNat'
  have hadd : profile.add32 (UInt32.ofNat i) exports.base = .ok (UInt32.ofNat i + exports.base) := by
    refine Profile.add32_eq_ok_iff.mpr ⟨fun hdev => ?_, rfl⟩
    have hsum := hordinal hdev
    omega
  have htruncated : (UInt32.ofNat i + exports.base).toUInt16 = exports.ordinal i := by
    apply UInt16.toNat.inj
    rw [UInt32.toNat_toUInt16, UInt32.toNat_add, hi, Exports.ordinal, UInt16.toNat_ofNat']
    omega
  unfold PeFile.exportAt
  rw [readU32_eq_ok_iff.mpr (hrvas.of_getElem? hrva), ok_bind, if_neg hused, hadd, ok_bind]
  simp only [htruncated, nameMap_lookup, hforwarder, ok_bind]
  rfl

theorem exportAt_unused {profile : Profile} {pe : PeFile} {exports : Exports} {dir_rva dir_size : UInt32}
    {addr_offset i : Nat} (hrvas : ItemsAt pe.raw_bytes 4 ofUInt32 addr_offset exports.rvas)
    (hrva : exports.rvas[i]? = some 0) :
    pe.exportAt profile dir_rva dir_size exports.base addr_offset (nameMap exports.names) i = .ok none := by
  unfold PeFile.exportAt
  rw [readU32_eq_ok_iff.mpr (hrvas.of_getElem? hrva), ok_bind, if_pos rfl]
  rfl

/-- The words of an export directory. -/
private theorem readDirectory {bytes : List UInt8} {offset : Nat} {directory : ExportDirectory}
    (h : HoldsAt bytes (offset + 16) directory.encode) :
    readU32 bytes (offset + 16) = .ok directory.base ∧ readU32 bytes (offset + 20) = .ok directory.num_funcs ∧
      readU32 bytes (offset + 24) = .ok directory.num_names ∧
      readU32 bytes (offset + 28) = .ok directory.addr_table_rva ∧
      readU32 bytes (offset + 32) = .ok directory.name_table_rva ∧
      readU32 bytes (offset + 36) = .ok directory.ordinal_table_rva := by
  simp only [ExportDirectory.encode, holdsAt_append, List.length_append, length_ofUInt32] at h
  obtain ⟨⟨⟨⟨⟨hbase, hfuncs⟩, hnames⟩, haddr⟩, hname⟩, hordinal⟩ := h
  exact ⟨readU32_eq_ok_iff.mpr hbase, readU32_eq_ok_iff.mpr hfuncs, readU32_eq_ok_iff.mpr hnames,
    readU32_eq_ok_iff.mpr haddr, readU32_eq_ok_iff.mpr hname, readU32_eq_ok_iff.mpr hordinal⟩

/-- The entry of a slot, with the forwarder that the reader finds at its address. -/
structure PeFile.EntryAt (pe : PeFile) (profile : Profile) (exports : Exports) (dir_rva dir_size : UInt32)
    (slot : UInt32 × Nat) (entry : ExportEntry) : Prop where
  rva : entry.rva = slot.1
  ordinal : entry.ordinal = exports.ordinal slot.2
  name : entry.name = exports.label slot.2
  forwarder : pe.forwarderOf profile dir_rva dir_size slot.1 = .ok entry.forwarder

/-- The loop over the address table returns one entry for each slot in use. -/
theorem exportsAt_eq {profile : Profile} {pe : PeFile} {exports : Exports} {dir_rva dir_size : UInt32}
    {addr_offset : Nat} (hrvas : ItemsAt pe.raw_bytes 4 ofUInt32 addr_offset exports.rvas)
    (hordinals : profile = .dev → ∀ slot ∈ exports.slots, exports.base.toNat + slot.2 < 2 ^ 32)
    (hforwarders : ∀ slot ∈ exports.slots,
      ∃ forwarder, pe.forwarderOf profile dir_rva dir_size slot.1 = .ok forwarder) :
    ∃ values, (List.range exports.rvas.length).mapM
        (pe.exportAt profile dir_rva dir_size exports.base addr_offset (nameMap exports.names)) = .ok values ∧
      List.Forall₂ (pe.EntryAt profile exports dir_rva dir_size) exports.slots (values.filterMap id) := by
  have hround : ∀ slot ∈ exports.rvas.zipIdx, ∃ value, pe.exportAt profile dir_rva dir_size exports.base addr_offset
      (nameMap exports.names) slot.2 = .ok value ∧
      Option.Rel (pe.EntryAt profile exports dir_rva dir_size) (Option.guard (fun slot => slot.1 ≠ 0) slot) value := by
    rintro ⟨rva, i⟩ hmem
    have hrva : exports.rvas[i]? = some rva := List.mem_zipIdx_iff_getElem?.mp hmem
    by_cases hused : rva = 0
    · subst hused
      exact ⟨none, exportAt_unused hrvas hrva, .none⟩
    · have hslot : (rva, i) ∈ exports.slots := List.mem_filter.mpr ⟨hmem, by simpa using hused⟩
      obtain ⟨forwarder, hforwarder⟩ := hforwarders _ hslot
      refine ⟨_, exportAt_eq hrvas hrva hused (fun hdev => hordinals hdev _ hslot) hforwarder, ?_⟩
      rw [Option.guard, if_pos (by simpa using hused)]
      exact .some ⟨rfl, rfl, rfl, hforwarder⟩
  obtain ⟨values, hvalues, hpairs⟩ := mapM_of_forall hround
  refine ⟨values, ?_, ?_⟩
  · rw [range_length_eq, List.mapM_map]
    exact hvalues
  · unfold Exports.slots
    rw [← List.filterMap_eq_filter]
    exact List.rel_filterMap (fun _ _ hrel => hrel) hpairs

/-- The export reader behind the address table. -/
def PeFile.readTables (profile : Profile) (pe : PeFile) (dir_rva dir_size : UInt32) (directory : ExportDirectory)
    (addr_offset : Nat) : Result (List ExportEntry) := do
  let name_offset ← pe.offsetOr profile directory.name_table_rva "Invalid Name Table RVA"
  let ordinal_offset ← pe.offsetOr profile directory.ordinal_table_rva "Invalid Ordinal Table RVA"
  let name_map ← (List.range directory.num_names.toNat).foldlM (pe.insertName profile name_offset ordinal_offset) []
  let exports ← (List.range directory.num_funcs.toNat).mapM
    (pe.exportAt profile dir_rva dir_size directory.base addr_offset name_map)
  return exports.filterMap id

/-- The export reader up to the tables. -/
theorem get_exports_of_directory {profile : Profile} {pe : PeFile} {dir_rva dir_size : UInt32}
    (hdirectory : DirectoryAt .PE32Plus pe.raw_bytes 0 dir_rva dir_size) (hpresent : dir_rva ≠ 0) {offset : Nat}
    (hlocated : pe.rva_to_offset profile dir_rva = .ok (some offset)) {directory : ExportDirectory}
    (hholds : HoldsAt pe.raw_bytes (offset + 16) directory.encode) :
    pe.get_exports profile = pe.offsetOr profile directory.addr_table_rva "Invalid Address Table RVA" >>=
      fun addr_offset => pe.readTables profile dir_rva dir_size directory addr_offset := by
  obtain ⟨hread_base, hread_funcs, hread_names, hread_addr, hread_name, hread_ordinal⟩ := readDirectory hholds
  unfold PeFile.get_exports
  rw [get_data_directory_eq_ok_iff.mpr hdirectory, ok_bind]
  simp only
  rw [if_neg hpresent, offsetOr_eq_ok_iff.mpr hlocated, ok_bind, hread_base, ok_bind, hread_funcs, ok_bind, hread_names,
    ok_bind, hread_addr, ok_bind, hread_name, ok_bind, hread_ordinal, ok_bind]
  rfl

/-- The export reader up to the loop over the address table, when it locates and
    spells whatever the tables say. -/
theorem get_exports_of_exportsAt {profile : Profile} {pe : PeFile} {reading : Reading}
    (hle : reading.Le (pe.reading profile .PE32Plus)) {dir_rva dir_size : UInt32}
    (hdirectory : DirectoryAt .PE32Plus pe.raw_bytes 0 dir_rva dir_size) (hpresent : dir_rva ≠ 0) {offset : Nat}
    (hlocated : reading.Located dir_rva.toNat offset) {exports : Exports}
    (hexports : reading.ExportsAt offset exports) :
    ∃ addr_offset, ItemsAt pe.raw_bytes 4 ofUInt32 addr_offset exports.rvas ∧
      pe.get_exports profile = do
        let values ← (List.range exports.rvas.length).mapM
          (pe.exportAt profile dir_rva dir_size exports.base addr_offset (nameMap exports.names))
        return values.filterMap id := by
  obtain ⟨directory, hholds, hbase, hfuncs, hnames, addr_offset, name_offset, ordinal_offset, haddr, hname, hordinal,
    hrvas, htexts⟩ := hexports.mono hle
  have hdir := hle.located hlocated
  simp only [PeFile.reading, UInt32.ofNat_toNat] at hdir haddr hname hordinal
  refine ⟨addr_offset, (Reading.itemsAt_iff rfl).mp hrvas, ?_⟩
  rw [get_exports_of_directory hdirectory hpresent hdir hholds, offsetOr_eq_ok_iff.mpr haddr, ok_bind,
    PeFile.readTables, offsetOr_eq_ok_iff.mpr hname, ok_bind, offsetOr_eq_ok_iff.mpr hordinal, ok_bind, hnames,
    hfuncs, hbase, insertNames_eq htexts, ok_bind]

theorem Exports.lastName_eq_some {exports : Exports} {slot : Nat} {name : String}
    (h : exports.lastName slot = some name) : (name, UInt16.ofNat slot) ∈ exports.names := by
  obtain ⟨found, hfound, rfl⟩ := Option.map_eq_some_iff.mp h
  have hslot : found.2 = UInt16.ofNat slot := by simpa using List.find?_some hfound
  rw [← hslot]
  exact List.mem_reverse.mp (List.mem_of_find?_eq_some hfound)

theorem Exports.lastName_eq_none_iff {exports : Exports} {slot : Nat} :
    exports.lastName slot = none ↔ ∀ found ∈ exports.names, found.2 ≠ UInt16.ofNat slot := by
  unfold Exports.lastName
  rw [Option.map_eq_none_iff, List.find?_eq_none]
  simp

/-- The name of an entry names its slot, and without a name it is the ordinal. -/
theorem Exports.label_cases {exports : Exports} {slot : Nat} (hslot : exports.base.toNat + slot < 2 ^ 16) :
    (∃ found ∈ exports.names, found.2.toNat = slot ∧ exports.label slot = found.1) ∨
      ((∀ found ∈ exports.names, found.2.toNat ≠ slot) ∧
        exports.label slot = "#" ++ toString (exports.base.toNat + slot)) := by
  have hword : (UInt16.ofNat slot).toNat = slot := by
    rw [UInt16.toNat_ofNat']
    omega
  unfold Exports.label
  cases hlast : exports.lastName slot with
  | some name => exact .inl ⟨_, Exports.lastName_eq_some hlast, hword, rfl⟩
  | none =>
    refine .inr ⟨fun found hfound heq => ?_, ?_⟩
    · apply Exports.lastName_eq_none_iff.mp hlast found hfound
      rw [← UInt16.toNat_inj, hword, heq]
    · rw [Option.getD_none, Exports.ordinal, UInt16.toNat_ofNat', Nat.mod_eq_of_lt hslot]

end vwfl.pe
