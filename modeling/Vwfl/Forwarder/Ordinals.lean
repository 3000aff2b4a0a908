import Vwfl.Forwarder.Names
import Vwfl.Pe.ImportInverse

open Rust LittleEndian
open vwfl.pe vwfl.loader

namespace vwfl.forwarder

/-- An export directory of an accepted image, in its 32-bit address range. Its
    address table lies in a file-backed part of the sections, and so do its name
    tables when it has names; without names they may be anywhere, or null. -/
structure OrdinalLayout {object : ObjectCrate} {pe : PeFile} (image : AcceptedImage object pe)
    (exports : Exports) where
  fits : ∀ row ∈ image.rows, row.Fits pe.image_base
  dir_rva : UInt32
  dir_size : UInt32
  dir_offset : Nat
  directory : DirectoryAt .PE32Plus pe.raw_bytes 0 dir_rva dir_size
  present : dir_rva ≠ 0
  located : FileBacked image.rows dir_rva.toNat dir_offset
  end_lt : dir_rva.toNat + dir_size.toNat < 2 ^ 32
  words : ExportDirectory
  words_at : HoldsAt pe.raw_bytes (dir_offset + 16) words.encode
  base : words.base = exports.base
  num_funcs : words.num_funcs.toNat = exports.rvas.length
  num_names : words.num_names.toNat = exports.names.length
  addr_offset : Nat
  addresses : FileBacked image.rows words.addr_table_rva.toNat addr_offset
  rvas_at : ItemsAt pe.raw_bytes 4 ofUInt32 addr_offset exports.rvas
  names_at : exports.names ≠ [] → ∃ name_offset ordinal_offset,
    FileBacked image.rows words.name_table_rva.toNat name_offset ∧
      FileBacked image.rows words.ordinal_table_rva.toNat ordinal_offset ∧
      (image.reading .PE32Plus CStringAt).NamesAt name_offset ordinal_offset exports.names
  forwarders : ∀ slot ∈ exports.slots, InDirectory dir_rva dir_size slot.1 →
    ∃ offset text, FileBacked image.rows slot.1.toNat offset ∧ CStringAt pe.raw_bytes offset text

namespace OrdinalLayout

variable {object : ObjectCrate} {pe : PeFile} {image : AcceptedImage object pe} {exports : Exports}
  (layout : OrdinalLayout image exports)

/-- The translation of addresses finds both name tables. -/
def TablesLocated (profile : Profile) : Prop :=
  (∃ name_offset, pe.rva_to_offset profile layout.words.name_table_rva = .ok (some name_offset)) ∧
    ∃ ordinal_offset, pe.rva_to_offset profile layout.words.ordinal_table_rva = .ok (some ordinal_offset)

/-- The reader finds the directory: the directory, the address table and the
    names lie in sections whose own names can be read, and the translation finds
    both name tables. -/
structure Readable (profile : Profile) : Prop where
  directory : image.Named layout.dir_rva.toNat
  addresses : image.Named layout.words.addr_table_rva.toNat
  tables : layout.TablesLocated profile
  names : exports.names ≠ [] → ∃ name_offset ordinal_offset,
    FileBacked image.rows layout.words.name_table_rva.toNat name_offset ∧
      FileBacked image.rows layout.words.ordinal_table_rva.toNat ordinal_offset ∧
      (image.named .PE32Plus CStringAt).NamesAt name_offset ordinal_offset exports.names

variable {layout}

/-- A file-backed address that is looked up with success. -/
private theorem named_of_offsetOr {profile : Profile} {rva : UInt32} {offset found : Nat} {message : String}
    (layout : OrdinalLayout image exports) (hbacked : FileBacked image.rows rva.toNat offset)
    (hfound : pe.offsetOr profile rva message = .ok found) : image.Named rva.toNat ∧ found = offset := by
  rw [← @UInt32.ofNat_toNat rva] at hfound
  exact AcceptedImage.named_of_rva_to_offset layout.fits hbacked (offsetOr_eq_ok_iff.mp hfound)

/-- The exports of a module can only be read when the reader finds its
    directory. -/
theorem readable_of_ok {profile : Profile} {entries : List ExportEntry} (h : pe.get_exports profile = .ok entries) :
    layout.Readable profile := by
  have hread := h
  unfold PeFile.get_exports at hread
  rw [get_data_directory_eq_ok_iff.mpr layout.directory, ok_bind] at hread
  simp only at hread
  rw [if_neg layout.present] at hread
  obtain ⟨dir_found, hdir_found, _⟩ := bind_eq_ok_iff.mp hread
  obtain ⟨hdirectory, rfl⟩ := named_of_offsetOr layout layout.located hdir_found
  rw [get_exports_of_directory layout.directory layout.present (offsetOr_eq_ok_iff.mp hdir_found) layout.words_at] at h
  obtain ⟨addr_found, haddr_found, h⟩ := bind_eq_ok_iff.mp h
  obtain ⟨name_found, hname_found, h⟩ := bind_eq_ok_iff.mp h
  obtain ⟨ordinal_found, hordinal_found, h⟩ := bind_eq_ok_iff.mp h
  obtain ⟨name_map, hname_map, _⟩ := bind_eq_ok_iff.mp h
  refine ⟨hdirectory, (named_of_offsetOr layout layout.addresses haddr_found).1,
    ⟨⟨name_found, offsetOr_eq_ok_iff.mp hname_found⟩, ordinal_found, offsetOr_eq_ok_iff.mp hordinal_found⟩,
    fun hnames => ?_⟩
  obtain ⟨name_offset, ordinal_offset, hname, hordinal, htexts⟩ := layout.names_at hnames
  obtain ⟨_, rfl⟩ := named_of_offsetOr layout hname hname_found
  obtain ⟨_, rfl⟩ := named_of_offsetOr layout hordinal hordinal_found
  rw [layout.num_names] at hname_map
  exact ⟨_, _, hname, hordinal, namesAt_named layout.fits htexts hname_map⟩

/-- The loop over the names of a directory whose name tables are found. -/
private theorem Readable.insertNames {profile : Profile} (h : layout.Readable profile)
    {name_offset ordinal_offset : Nat}
    (hname : pe.rva_to_offset profile layout.words.name_table_rva = .ok (some name_offset))
    (hordinal : pe.rva_to_offset profile layout.words.ordinal_table_rva = .ok (some ordinal_offset)) :
    (List.range exports.names.length).foldlM (pe.insertName profile name_offset ordinal_offset) [] =
      .ok (nameMap exports.names) := by
  by_cases hnames : exports.names = []
  · rw [hnames]
    rfl
  · obtain ⟨name_table, ordinal_table, hfound, hother, htexts⟩ := h.names hnames
    rw [← @UInt32.ofNat_toNat layout.words.name_table_rva] at hname
    rw [← @UInt32.ofNat_toNat layout.words.ordinal_table_rva] at hordinal
    obtain ⟨_, rfl⟩ := AcceptedImage.named_of_rva_to_offset layout.fits hfound hname
    obtain ⟨_, rfl⟩ := AcceptedImage.named_of_rva_to_offset layout.fits hother hordinal
    exact insertNames_eq (htexts.mono (image.named_le profile .PE32Plus layout.fits fun htext => htext))

/-- The forwarder of a slot can be looked up. -/
private theorem forwarderOf_returns (layout : OrdinalLayout image exports) (profile : Profile) {slot : UInt32 × Nat}
    (hslot : slot ∈ exports.slots) :
    ∃ forwarder, pe.forwarderOf profile layout.dir_rva layout.dir_size slot.1 = .ok forwarder := by
  by_cases hin : InDirectory layout.dir_rva layout.dir_size slot.1
  · obtain ⟨offset, text, hbacked, htext⟩ := layout.forwarders slot hslot hin
    have hfound := AcceptedImage.rva_to_offset_of_fileBacked profile layout.fits hbacked
    rw [UInt32.ofNat_toNat] at hfound
    rw [forwarderOf_of_inDirectory layout.end_lt hin, hfound]
    split
    · simp only [ok_bind, read_cstring_eq htext]
      exact ⟨some text, rfl⟩
    · exact ⟨none, rfl⟩
  · exact ⟨none, forwarderOf_of_not_inDirectory layout.end_lt hin⟩

/-- A directory that the reader finds has one entry for each slot in use. -/
theorem Readable.entries {profile : Profile} (h : layout.Readable profile)
    (hordinals : exports.base.toNat + exports.rvas.length ≤ 65536) :
    ∃ entries, pe.get_exports profile = .ok entries ∧
      List.Forall₂ (pe.EntryAt profile exports layout.dir_rva layout.dir_size) exports.slots entries := by
  have hslots : ∀ slot ∈ exports.slots, exports.base.toNat + slot.2 < 2 ^ 32 := by
    rintro ⟨rva, i⟩ hmem
    have hrva := List.mem_zipIdx_iff_getElem?.mp (List.mem_filter.mp hmem).1
    obtain ⟨hi, _⟩ := List.getElem?_eq_some_iff.mp hrva
    dsimp only at hi ⊢
    omega
  have hle := @AcceptedImage.named_le _ _ image profile .PE32Plus layout.fits CStringAt fun htext => htext
  have hdir := hle.located ⟨layout.located, h.directory⟩
  have haddr := hle.located ⟨layout.addresses, h.addresses⟩
  simp only [PeFile.reading, UInt32.ofNat_toNat] at hdir haddr
  obtain ⟨⟨name_offset, hname⟩, ordinal_offset, hordinal⟩ := h.tables
  obtain ⟨values, hvalues, hentries⟩ := exportsAt_eq layout.rvas_at (fun _ => hslots) fun slot hslot =>
    layout.forwarderOf_returns profile hslot
  refine ⟨values.filterMap id, ?_, hentries⟩
  rw [get_exports_of_directory layout.directory layout.present hdir layout.words_at, offsetOr_eq_ok_iff.mpr haddr,
    ok_bind, PeFile.readTables, offsetOr_eq_ok_iff.mpr hname, ok_bind, offsetOr_eq_ok_iff.mpr hordinal, ok_bind,
    layout.num_names, layout.num_funcs, layout.base, h.insertNames hname hordinal, ok_bind, hvalues]
  rfl

end OrdinalLayout

/-- An ordinal belongs to one slot. -/
theorem find?_ordinal {exports : Exports} (hordinals : exports.base.toNat + exports.rvas.length ≤ 65536) {i : Nat}
    {rva : UInt32} (hrva : exports.rvas[i]? = some rva) (hused : rva ≠ 0) :
    exports.slots.find? (fun slot => exports.ordinal slot.2 == exports.ordinal i) = some (rva, i) := by
  have hmem : (rva, i) ∈ exports.slots :=
    List.mem_filter.mpr ⟨List.mem_zipIdx_iff_getElem?.mpr hrva, by simpa using hused⟩
  have hany : (exports.slots.find? fun slot => exports.ordinal slot.2 == exports.ordinal i).isSome :=
    List.find?_isSome.mpr ⟨(rva, i), hmem, beq_self_eq_true _⟩
  obtain ⟨⟨other, j⟩, hfound⟩ := Option.isSome_iff_exists.mp hany
  have hother := List.mem_zipIdx_iff_getElem?.mp (List.mem_filter.mp (List.mem_of_find?_eq_some hfound)).1
  have hsame : exports.ordinal j = exports.ordinal i := by simpa using List.find?_some hfound
  obtain ⟨hi, _⟩ := List.getElem?_eq_some_iff.mp hrva
  obtain ⟨hj, _⟩ := List.getElem?_eq_some_iff.mp hother
  dsimp only at hother hj
  obtain rfl : j = i := by
    rw [← UInt16.toNat_inj, Exports.ordinal, Exports.ordinal, UInt16.toNat_ofNat', UInt16.toNat_ofNat'] at hsame
    omega
  rw [hfound, Option.some.inj (hother.symm.trans hrva)]

/-- A text of an ordinal is searched as that ordinal. -/
theorem findExport_ordinal (entries : List ExportEntry) (number : UInt16) :
    findExport entries (Symbol.ordinal number).label = entries.find? (·.ordinal == number) := by
  have hhash : starts_with (Symbol.ordinal number).label '#' = true := by
    simp [starts_with, Symbol.label]
  have hskip : skip_first (Symbol.ordinal number).label = toString number.toNat := by
    simp [skip_first, Symbol.label, Nat.repr_eq_ofList_toDigits]
  rw [findExport, if_pos hhash, hskip, parse_u16_toString]

/-- A function of an import directory, decoded and then resolved. -/
def ImportResolves (resolver : ForwarderResolver) (importer : PeFile) (k j : Nat) (address : UInt64) : Prop :=
  ∃ imports entry func, importer.get_imports resolver.profile = .ok imports ∧ imports[k]? = some entry ∧
    entry.functions[j]? = some func ∧ resolver.resolve entry.dll_name func.name = .ok (some address)

/-- The section of a module that imports the function with ordinal 5 of a
    library. -/
def ordinalImportRow : SectionHeader := ⟨[0x2E, 0x69, 0x64, 0x61, 0x74, 0x61], 74, 0x1000, 74, 368⟩

/-- The descriptor and the terminator, the lookup table, the name of the library
    and the address table. -/
def ordinalImportFile : List UInt8 :=
  peImage 0x180000000 0x1000 (0, 0) (0x1000, 40) [ordinalImportRow]
    (ofUInt32 0x1028 ++ ofUInt32 0 ++ ofUInt32 0 ++ ofUInt32 0x1038 ++ ofUInt32 0x103A ++ List.replicate 20 0 ++
      ofUInt64 0x8000000000000005 ++ ofUInt64 0 ++ [0x58, 0] ++ List.replicate 16 0)

def ordinalImportPe : PeFile where
  entry_point := 0x180001000
  image_base := 0x180000000
  sections := [⟨".idata", 0x180001000, 74, ordinalImportFile.drop 368⟩]
  header_data := ordinalImportFile
  pdb_name := "Unknown"
  pdb_guid_age := "Unknown"
  raw_bytes := ordinalImportFile

def ordinalImportLibrary : Library := ⟨"X", [.ordinal 5], 0x103A⟩

def ordinalImportImage : AcceptedImage peCrate ordinalImportPe where
  e_lfanew := 0x40
  opt_size := 240
  rows := [ordinalImportRow]
  e_lfanew_at := by decide +kernel
  count_at := by decide +kernel
  count_lt := by decide
  opt_size_at := by decide +kernel
  rows_at := ⟨by decide +kernel, trivial⟩
  parsed := by decide +kernel
  names := [some ".idata"]
  names_length := by decide
  listed := by decide +kernel

private theorem ordinalImport_named {delta : Nat} (h : delta < 74) :
    (ordinalImportImage.named .PE32Plus CStringAt).Located (0x1000 + delta) (368 + delta) := by
  have hkept : ordinalImportRow ∈ ordinalImportImage.keptRows := List.mem_singleton_self _
  have hbacked : FileBacked [ordinalImportRow] (0x1000 + delta) (368 + delta) :=
    fileBacked_first h h (show 368 + delta < 2 ^ 32 by omega)
  exact ⟨hbacked, _, hkept, Nat.le_add_right _ _, Nat.add_lt_add_left h _⟩

private theorem ordinalImport_directory :
    (ordinalImportImage.named .PE32Plus CStringAt).ImportDirectory [ordinalImportLibrary] := by
  have hholds : ∀ {place item}, HoldsAt ordinalImportFile place item →
      (ordinalImportImage.named .PE32Plus CStringAt).Holds place item := fun h => h
  have hdescribes : (ordinalImportImage.named .PE32Plus CStringAt).Describes ⟨0x1028, 0, 0, 0x1038, 0x103A⟩
      ordinalImportLibrary := by
    refine ⟨⟨_, @ordinalImport_named 0x38 (by decide), [0x58], by decide, by decide +kernel, by decide +kernel⟩, ?_,
      rfl⟩
    refine ⟨0x8000000000000005, by decide,
      ⟨by decide, _, @ordinalImport_named 0x28 (by decide), hholds (by decide +kernel)⟩, ?_, ?_⟩
    · exact ⟨by decide, by decide⟩
    · exact ⟨by decide, _, @ordinalImport_named 0x30 (by decide), hholds (by decide +kernel)⟩
  refine ⟨0x1000, 40, ⟨0x40, by decide +kernel, by decide +kernel⟩,
    .inr ⟨by decide, 368, @ordinalImport_named 0 (by decide), ?_⟩⟩
  exact ⟨_, hholds (by decide +kernel), by decide, hdescribes, ⟨0, 0, 0, 0, 0⟩, hholds (by decide +kernel), rfl, rfl⟩

def twoNamesOrdinals : OrdinalLayout twoNamesImage twoNames where
  fits := twoNamesLayout.fits
  dir_rva := 0x1000
  dir_size := 72
  dir_offset := 368
  directory := twoNamesLayout.directory
  present := twoNamesLayout.present
  located := twoNamesLayout.located
  end_lt := twoNamesLayout.end_lt
  words := ⟨5, 3, 2, 0x1028, 0x1034, 0x103C⟩
  words_at := twoNames_holds List.mem_cons_self (by decide +kernel)
  base := rfl
  num_funcs := rfl
  num_names := rfl
  addr_offset := 408
  addresses := twoNames_backed (@twoNames_located edataName 0x28 (by decide))
  rvas_at := ⟨twoNames_holds List.mem_cons_self (by decide +kernel),
    twoNames_holds List.mem_cons_self (by decide +kernel), twoNames_holds List.mem_cons_self (by decide +kernel),
    trivial⟩
  names_at _ := by
    have hle : (twoNamesReading edataName).Le (twoNamesImage.reading .PE32Plus CStringAt) :=
      ⟨rfl, rfl, twoNames_backed, id, id⟩
    exact ⟨_, _, twoNames_backed (@twoNames_located edataName 0x34 (by decide)),
      twoNames_backed (@twoNames_located edataName 0x3C (by decide)), (twoNames_namesAt List.mem_cons_self).mono hle⟩
  forwarders := twoNamesLayout.forwarders

private theorem twoNamesOrdinals_readable : twoNamesOrdinals.Readable .dev where
  directory := twoNames_named (@twoNames_located edataName 0 (by decide))
  addresses := twoNames_named (@twoNames_located edataName 0x28 (by decide))
  tables := ⟨⟨420, by decide +kernel⟩, 428, by decide +kernel⟩
  names _ := by
    have hle : (twoNamesReading edataName).Le (twoNamesImage.named .PE32Plus CStringAt) :=
      ⟨rfl, rfl, fun h => ⟨twoNames_backed h, twoNames_named h⟩, id, id⟩
    exact ⟨_, _, twoNames_backed (@twoNames_located edataName 0x34 (by decide)),
      twoNames_backed (@twoNames_located edataName 0x3C (by decide)), (twoNames_namesAt List.mem_cons_self).mono hle⟩

/-- The section of a module that exports one function by its ordinal, with null
    name tables. -/
def nullTablesRow : SectionHeader := ⟨[0x2E, 0x65, 0x64, 0x61, 0x74, 0x61], 44, 0x1000, 44, 368⟩

def nullTablesFile : List UInt8 :=
  peImage 0x180000000 0x1000 (0x1000, 44) (0, 0) [nullTablesRow]
    (List.replicate 16 0 ++ (ofUInt32 5 ++ ofUInt32 1 ++ ofUInt32 0 ++ ofUInt32 0x1028 ++ ofUInt32 0 ++ ofUInt32 0) ++
      ofUInt32 0x2000)

def nullTablesPe : PeFile where
  entry_point := 0x180001000
  image_base := 0x180000000
  sections := [⟨".edata", 0x180001000, 44, nullTablesFile.drop 368⟩]
  header_data := nullTablesFile
  pdb_name := "Unknown"
  pdb_guid_age := "Unknown"
  raw_bytes := nullTablesFile

def nullTables : Exports := ⟨5, [0x2000], []⟩

def nullTablesImage : AcceptedImage peCrate nullTablesPe where
  e_lfanew := 0x40
  opt_size := 240
  rows := [nullTablesRow]
  e_lfanew_at := by decide +kernel
  count_at := by decide +kernel
  count_lt := by decide
  opt_size_at := by decide +kernel
  rows_at := ⟨by decide +kernel, trivial⟩
  parsed := by decide +kernel
  names := [some ".edata"]
  names_length := by decide
  listed := by decide +kernel

private theorem nullTables_backed {delta : Nat} (h : delta < 44) :
    FileBacked nullTablesImage.rows (0x1000 + delta) (368 + delta) :=
  @fileBacked_first nullTablesRow [] delta h h (show 368 + delta < 2 ^ 32 by omega)

private theorem nullTables_present : (0x1000 : UInt32) ≠ 0 := by decide

def nullTablesLayout : OrdinalLayout nullTablesImage nullTables where
  fits := by decide
  dir_rva := 0x1000
  dir_size := 44
  dir_offset := 368
  directory := ⟨0x40, by decide +kernel, by decide +kernel⟩
  present := nullTables_present
  located := @nullTables_backed 0 (by decide)
  end_lt := by decide
  words := ⟨5, 1, 0, 0x1028, 0, 0⟩
  words_at := by decide +kernel
  base := rfl
  num_funcs := rfl
  num_names := rfl
  addr_offset := 408
  addresses := @nullTables_backed 0x28 (by decide)
  rvas_at := ⟨by decide +kernel, trivial⟩
  names_at := fun h => absurd rfl h
  forwarders := by
    intro slot hslot hin
    have hslots : nullTables.slots = [(0x2000, 0)] := by decide
    rw [hslots, List.mem_singleton] at hslot
    subst hslot
    exact absurd hin (by decide)

def nullTablesModule : LoadedModule :=
  ⟨"x.dll", 0xFFFFF80002000000, 0x2000000, 0xFFFFF80002001000, 0x3000, nullTablesPe⟩

def nullTablesResolver : ForwarderResolver := ⟨.dev, CaseMap.ascii, [nullTablesModule]⟩

private theorem nullTables_unique : UniqueStem nullTablesResolver nullTablesModule where
  mem := List.mem_singleton_self _
  stems := by
    intro candidate hcandidate
    rw [List.mem_singleton.mp hcandidate]
    exact ⟨"X", by decide +kernel⟩
  unique := by
    intro candidate hcandidate _
    exact List.mem_singleton.mp hcandidate

end vwfl.forwarder
