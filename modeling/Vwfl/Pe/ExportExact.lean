import Vwfl.Pe.Accepted

open Rust LittleEndian

namespace vwfl.pe

/-- An export directory of an accepted image, in its 32-bit address range: the
    directory, its tables and its texts lie in file-backed parts of the
    sections. -/
structure ExportLayout {object : ObjectCrate} {pe : PeFile} (image : AcceptedImage object pe) (exports : Exports) where
  fits : ∀ row ∈ image.rows, row.Fits pe.image_base
  dir_rva : UInt32
  dir_size : UInt32
  dir_offset : Nat
  directory : DirectoryAt .PE32Plus pe.raw_bytes 0 dir_rva dir_size
  present : dir_rva ≠ 0
  located : FileBacked image.rows dir_rva.toNat dir_offset
  covered : ∀ i < dir_size.toNat, ∃ offset, FileBacked image.rows (dir_rva.toNat + i) offset
  exports_at : (image.reading .PE32Plus CStringAt).ExportsAt dir_offset exports
  forwarders : ∀ slot ∈ exports.slots, InDirectory dir_rva dir_size slot.1 →
    ∃ offset text, FileBacked image.rows slot.1.toNat offset ∧ CStringAt pe.raw_bytes offset text

/-- Names that are inserted have their texts in sections with readable names. -/
theorem namesAt_named {object : ObjectCrate} {pe : PeFile} {image : AcceptedImage object pe} {profile : Profile}
    (hfits : ∀ row ∈ image.rows, row.Fits pe.image_base) {name_offset ordinal_offset : Nat}
    {names : List (String × UInt16)}
    (h : (image.reading .PE32Plus CStringAt).NamesAt name_offset ordinal_offset names) {start name_map : NameMap}
    (hread : (List.range names.length).foldlM (pe.insertName profile name_offset ordinal_offset) start =
      .ok name_map) : (image.named .PE32Plus CStringAt).NamesAt name_offset ordinal_offset names := by
  obtain ⟨pointers, hpointers, htexts, hslots⟩ := h
  have hle : (image.reading .PE32Plus CStringAt).Holds = HoldsAt pe.raw_bytes := rfl
  have hitems := (Reading.itemsAt_iff hle).mp hpointers
  refine ⟨pointers, (Reading.itemsAt_iff rfl).mpr hitems, ?_, (Reading.itemsAt_iff rfl).mpr
    ((Reading.itemsAt_iff hle).mp hslots)⟩
  rw [List.forall₂_iff_get] at htexts ⊢
  refine ⟨htexts.1, fun i hi hnames => ?_⟩
  obtain ⟨offset, hlocated, hspelled⟩ := htexts.2 i hi hnames
  -- The round for the name has translated its pointer.
  obtain ⟨before, after, hround⟩ := round_of_foldlM_eq_ok hread i (List.mem_range.mpr hnames)
  have hpointer : readU32 pe.raw_bytes (name_offset + i * 4) = .ok (pointers.get ⟨i, hi⟩) :=
    readU32_eq_ok_iff.mpr (hitems.of_getElem? (List.getElem?_eq_getElem hi))
  unfold PeFile.insertName at hround
  rw [hpointer, ok_bind] at hround
  obtain ⟨found, hfound, _⟩ := bind_eq_ok_iff.mp hround
  rw [← @UInt32.ofNat_toNat (pointers.get ⟨i, hi⟩)] at hfound
  exact ⟨offset, ⟨hlocated, (AcceptedImage.named_of_rva_to_offset hfits hlocated
    (offsetOr_eq_ok_iff.mp hfound)).1⟩, hspelled⟩

namespace ExportLayout

variable {object : ObjectCrate} {pe : PeFile} {image : AcceptedImage object pe} {exports : Exports}
  (layout : ExportLayout image exports)

/-- The entry that a slot is exported with: a name of the slot or, for want of
    one, its ordinal, and the text at its address when that lies in the export
    directory. -/
structure IsExport (slot : UInt32 × Nat) (entry : ExportEntry) : Prop where
  rva : entry.rva = slot.1
  ordinal : entry.ordinal.toNat = exports.base.toNat + slot.2
  name : (∃ found ∈ exports.names, found.2.toNat = slot.2 ∧ entry.name = found.1) ∨
    ((∀ found ∈ exports.names, found.2.toNat ≠ slot.2) ∧ entry.name = "#" ++ toString (exports.base.toNat + slot.2))
  forwarder : if InDirectory layout.dir_rva layout.dir_size slot.1 then
      ∃ offset text, FileBacked image.rows slot.1.toNat offset ∧ CStringAt pe.raw_bytes offset text ∧
        entry.forwarder = some text
    else entry.forwarder = none

/-- The directory, its tables and its names lie in sections whose own names can
    be read. -/
structure Named : Prop where
  directory : image.Named layout.dir_rva.toNat
  tables : (image.named .PE32Plus CStringAt).ExportsAt layout.dir_offset exports

/-- So do the texts of the forwarders. -/
def ForwardersNamed : Prop :=
  ∀ slot ∈ exports.slots, InDirectory layout.dir_rva layout.dir_size slot.1 → image.Named slot.1.toNat

/-- The directory ends in the address range. -/
theorem end_lt : layout.dir_rva.toNat + layout.dir_size.toNat < 2 ^ 32 := by
  have hrva := layout.dir_rva.toNat_lt
  by_cases hempty : layout.dir_size.toNat = 0
  · omega
  · obtain ⟨offset, hbacked⟩ := layout.covered (layout.dir_size.toNat - 1) (by omega)
    have hlast := AcceptedImage.succ_rva_lt layout.fits hbacked
    omega

/-- The forwarder of a slot is read from sections with readable names only. -/
theorem forwarderOf_cases (profile : Profile) {slot : UInt32 × Nat} (hslot : slot ∈ exports.slots) :
    ∃ forwarder, pe.forwarderOf profile layout.dir_rva layout.dir_size slot.1 = .ok forwarder ∧
      if InDirectory layout.dir_rva layout.dir_size slot.1 ∧ image.Named slot.1.toNat then
        ∃ offset text, FileBacked image.rows slot.1.toNat offset ∧ CStringAt pe.raw_bytes offset text ∧
          forwarder = some text
      else forwarder = none := by
  by_cases hin : InDirectory layout.dir_rva layout.dir_size slot.1
  · obtain ⟨offset, text, hbacked, htext⟩ := layout.forwarders slot hslot hin
    have hfound := AcceptedImage.rva_to_offset_of_fileBacked profile layout.fits hbacked
    rw [UInt32.ofNat_toNat] at hfound
    rw [forwarderOf_of_inDirectory layout.end_lt hin, hfound]
    by_cases hnamed : image.Named slot.1.toNat
    · rw [if_pos hnamed]
      simp only [ok_bind, read_cstring_eq htext]
      refine ⟨some text, rfl, ?_⟩
      rw [if_pos ⟨hin, hnamed⟩]
      exact ⟨offset, text, hbacked, htext, rfl⟩
    · rw [if_neg hnamed]
      refine ⟨none, rfl, ?_⟩
      rw [if_neg fun h => hnamed h.2]
  · rw [forwarderOf_of_not_inDirectory layout.end_lt hin]
    refine ⟨none, rfl, ?_⟩
    rw [if_neg fun h => hin h.1]

/-- Exports are only read when the directory lies in sections with readable
    names. -/
theorem named_of_get_exports {profile : Profile} {entries : List ExportEntry}
    (h : pe.get_exports profile = .ok entries) : layout.Named := by
  obtain ⟨directory, hholds, hbase, hfuncs, hnames, addr_offset, name_offset, ordinal_offset, haddr, hname, hordinal,
    hrvas, htexts⟩ := layout.exports_at
  have hread := h
  unfold PeFile.get_exports at hread
  rw [get_data_directory_eq_ok_iff.mpr layout.directory, ok_bind] at hread
  simp only at hread
  rw [if_neg layout.present] at hread
  obtain ⟨dir_found, hdir_found, _⟩ := bind_eq_ok_iff.mp hread
  have hlocate : ∀ {rva : UInt32} {offset found : Nat} {message : String}, FileBacked image.rows rva.toNat offset →
      pe.offsetOr profile rva message = .ok found → image.Named rva.toNat ∧ found = offset := by
    intro rva offset found message hbacked hfound
    rw [← @UInt32.ofNat_toNat rva] at hfound
    exact AcceptedImage.named_of_rva_to_offset layout.fits hbacked (offsetOr_eq_ok_iff.mp hfound)
  obtain ⟨hdir_named, rfl⟩ := hlocate layout.located hdir_found
  rw [get_exports_of_directory layout.directory layout.present (offsetOr_eq_ok_iff.mp hdir_found) hholds] at h
  obtain ⟨addr_found, haddr_found, h⟩ := bind_eq_ok_iff.mp h
  obtain ⟨name_found, hname_found, h⟩ := bind_eq_ok_iff.mp h
  obtain ⟨ordinal_found, hordinal_found, h⟩ := bind_eq_ok_iff.mp h
  obtain ⟨name_map, hname_map, _⟩ := bind_eq_ok_iff.mp h
  obtain ⟨haddr_named, rfl⟩ := hlocate haddr haddr_found
  obtain ⟨hname_named, rfl⟩ := hlocate hname hname_found
  obtain ⟨hordinal_named, rfl⟩ := hlocate hordinal hordinal_found
  rw [hnames] at hname_map
  have hwords : ItemsAt pe.raw_bytes 4 ofUInt32 addr_found exports.rvas := (Reading.itemsAt_iff rfl).mp hrvas
  exact ⟨hdir_named, directory, hholds, hbase, hfuncs, hnames, _, _, _, ⟨haddr, haddr_named⟩, ⟨hname, hname_named⟩,
    ⟨hordinal, hordinal_named⟩, (Reading.itemsAt_iff rfl).mpr hwords,
    namesAt_named layout.fits htexts hname_map⟩

variable {layout}

/-- The export reader up to the loop over the address table. -/
private theorem Named.get_exports_eq_loop (h : layout.Named) (profile : Profile) :
    ∃ addr_offset, ItemsAt pe.raw_bytes 4 ofUInt32 addr_offset exports.rvas ∧
      pe.get_exports profile = do
        let values ← (List.range exports.rvas.length).mapM
          (pe.exportAt profile layout.dir_rva layout.dir_size exports.base addr_offset (nameMap exports.names))
        return values.filterMap id :=
  get_exports_of_exportsAt (image.named_le profile .PE32Plus layout.fits fun htext => htext) layout.directory
    layout.present ⟨layout.located, h.directory⟩ h.tables

/-- The export reader on a layout: entries exactly for the slots in use. -/
theorem Named.get_exports_eq (h : layout.Named) (profile : Profile)
    (hordinals : profile = .dev → ∀ slot ∈ exports.slots, exports.base.toNat + slot.2 < 2 ^ 32) :
    ∃ entries, pe.get_exports profile = .ok entries ∧
      List.Forall₂ (pe.EntryAt profile exports layout.dir_rva layout.dir_size) exports.slots entries := by
  obtain ⟨addr_offset, hrvas, hread⟩ := h.get_exports_eq_loop profile
  obtain ⟨values, hvalues, hentries⟩ := exportsAt_eq hrvas hordinals fun slot hslot =>
    (layout.forwarderOf_cases profile hslot).imp fun _ hforwarder => hforwarder.1
  refine ⟨values.filterMap id, ?_, hentries⟩
  rw [hread, hvalues]
  rfl

/-- An export reader that returns has met no ordinal above 32 bits, under
    overflow checks. -/
theorem ordinals_lt (layout : ExportLayout image exports) {entries : List ExportEntry}
    (h : pe.get_exports .dev = .ok entries) :
    ∀ slot ∈ exports.slots, exports.base.toNat + slot.2 < 2 ^ 32 := by
  have hnamed : layout.Named := layout.named_of_get_exports h
  obtain ⟨addr_offset, hrvas, hread⟩ := hnamed.get_exports_eq_loop .dev
  rw [hread] at h
  obtain ⟨values, hvalues, _⟩ := bind_eq_ok_iff.mp h
  rintro ⟨rva, i⟩ hslot
  obtain ⟨hmem, hused⟩ := List.mem_filter.mp hslot
  have hrva : exports.rvas[i]? = some rva := List.mem_zipIdx_iff_getElem?.mp hmem
  have hi : i < exports.rvas.length := (List.getElem?_eq_some_iff.mp hrva).1
  obtain ⟨value, _, hround⟩ := (mem_of_mapM_eq_ok hvalues).1 i (List.mem_range.mpr hi)
  unfold PeFile.exportAt at hround
  rw [readU32_eq_ok_iff.mpr (hrvas.of_getElem? hrva), ok_bind, if_neg (by simpa using hused)] at hround
  obtain ⟨sum, hsum, _⟩ := bind_eq_ok_iff.mp hround
  have hlt := (Profile.add32_eq_ok_iff.mp hsum).1 rfl
  rw [UInt32.toNat_ofNat', Nat.mod_eq_of_lt (Nat.lt_trans hi layout.exports_at.length_lt)] at hlt
  rwa [Nat.add_comm]

/-- Slots whose ordinals fit in 16 bits. -/
private theorem slot_lt (hordinals : exports.base.toNat + exports.rvas.length ≤ 65536) :
    ∀ slot ∈ exports.slots, exports.base.toNat + slot.2 < 2 ^ 16 := by
  rintro ⟨rva, i⟩ hmem
  have hrva : exports.rvas[i]? = some rva := List.mem_zipIdx_iff_getElem?.mp (List.mem_filter.mp hmem).1
  obtain ⟨hi, _⟩ := List.getElem?_eq_some_iff.mp hrva
  dsimp only
  omega

end ExportLayout

/-- The section of an image that exports one function under two names and forwards
    another. -/
def twoNamesRow (name : List UInt8) : SectionHeader := ⟨name, 72, 0x1000, 72, 368⟩

/-- The export directory, the addresses, the name pointers, the slots of the names
    and the texts. -/
def twoNamesFile (name : List UInt8) : List UInt8 :=
  peImage 0x180000000 0x1000 (0x1000, 72) (0, 0) [twoNamesRow name]
    (List.replicate 16 0 ++
      (ofUInt32 5 ++ ofUInt32 3 ++ ofUInt32 2 ++ ofUInt32 0x1028 ++ ofUInt32 0x1034 ++ ofUInt32 0x103C) ++
      (ofUInt32 0x2000 ++ ofUInt32 0 ++ ofUInt32 0x1044) ++ (ofUInt32 0x1040 ++ ofUInt32 0x1042) ++
      (ofUInt16 0 ++ ofUInt16 0) ++ [0x61, 0, 0x62, 0, 0x58, 0x2E, 0x79, 0])

def twoNames : Exports := ⟨5, [0x2000, 0, 0x1044], [("a", 0), ("b", 0)]⟩

def edataName : List UInt8 := [0x2E, 0x65, 0x64, 0x61, 0x74, 0x61]

/-- The reading of the section, whatever its name. -/
def twoNamesReading (name : List UInt8) : Reading where
  magic := .PE32Plus
  bytes := twoNamesFile name
  Located rva offset := ∃ delta < 72, rva = 0x1000 + delta ∧ offset = 368 + delta
  Holds := HoldsAt (twoNamesFile name)
  TextAt := CStringAt (twoNamesFile name)

section TwoNames

variable {name : List UInt8}

theorem twoNames_located {delta : Nat} (h : delta < 72) :
    (twoNamesReading name).Located (0x1000 + delta) (368 + delta) := ⟨delta, h, rfl, rfl⟩

theorem twoNames_holds (hname : name ∈ [edataName, [0xFF]]) {place : Nat} {item : List UInt8}
    (h : ∀ name ∈ [edataName, [0xFF]], HoldsAt (twoNamesFile name) place item) :
    (twoNamesReading name).Holds place item := h name hname

theorem twoNames_namesAt (hname : name ∈ [edataName, [0xFF]]) :
    (twoNamesReading name).NamesAt 420 428 twoNames.names := by
  refine ⟨[0x1040, 0x1042],
    ⟨twoNames_holds hname (by decide +kernel), twoNames_holds hname (by decide +kernel), trivial⟩,
    .cons ⟨_, @twoNames_located name 0x40 (by decide), [0x61], by decide, ?_, by decide +kernel⟩
      (.cons ⟨_, @twoNames_located name 0x42 (by decide), [0x62], by decide, ?_, by decide +kernel⟩ .nil),
    ⟨twoNames_holds hname (by decide +kernel), twoNames_holds hname (by decide +kernel), trivial⟩⟩
  · exact twoNames_holds hname (by decide +kernel)
  · exact twoNames_holds hname (by decide +kernel)

theorem twoNames_exportsAt (hname : name ∈ [edataName, [0xFF]]) :
    (twoNamesReading name).ExportsAt 368 twoNames := by
  refine ⟨⟨5, 3, 2, 0x1028, 0x1034, 0x103C⟩, twoNames_holds hname (by decide +kernel), rfl, rfl, rfl, 408, 420, 428,
    @twoNames_located name 0x28 (by decide), @twoNames_located name 0x34 (by decide),
    @twoNames_located name 0x3C (by decide), ⟨?_, ?_, ?_, trivial⟩, twoNames_namesAt hname⟩
  · exact twoNames_holds hname (by decide +kernel)
  · exact twoNames_holds hname (by decide +kernel)
  · exact twoNames_holds hname (by decide +kernel)

/-- The section is backed by the file. -/
theorem twoNames_backed {rva offset : Nat} (h : (twoNamesReading name).Located rva offset) :
    FileBacked [twoNamesRow name] rva offset := by
  obtain ⟨delta, hdelta, rfl, rfl⟩ := h
  exact fileBacked_first hdelta hdelta (show 368 + delta < 2 ^ 32 by omega)

theorem twoNames_forwarder (hname : name ∈ [edataName, [0xFF]]) : ∀ slot ∈ twoNames.slots,
    InDirectory 0x1000 72 slot.1 →
      ∃ offset text, FileBacked [twoNamesRow name] slot.1.toNat offset ∧ CStringAt (twoNamesFile name) offset text := by
  intro slot hslot hin
  have hslots : twoNames.slots = [(0x2000, 0), (0x1044, 2)] := by decide
  rw [hslots] at hslot
  rcases List.mem_cons.mp hslot with rfl | hslot
  · exact absurd hin (by decide)
  · rw [List.mem_singleton.mp hslot]
    exact ⟨_, "X.y", twoNames_backed (@twoNames_located name 0x44 (by decide)), [0x58, 0x2E, 0x79], by decide,
      twoNames_holds hname (by decide +kernel), by decide +kernel⟩

/-- The exports laid out in an image that consists of the section. -/
def twoNamesExports {object : ObjectCrate} {pe : PeFile} (image : AcceptedImage object pe)
    (hname : name ∈ [edataName, [0xFF]]) (hbytes : pe.raw_bytes = twoNamesFile name)
    (hrows : image.rows = [twoNamesRow name]) (hfits : ∀ row ∈ image.rows, row.Fits pe.image_base) :
    ExportLayout image twoNames where
  fits := hfits
  dir_rva := 0x1000
  dir_size := 72
  dir_offset := 368
  directory := by
    rw [hbytes]
    exact ⟨0x40, twoNames_holds hname (by decide +kernel), twoNames_holds hname (by decide +kernel)⟩
  present := by decide
  located := hrows ▸ twoNames_backed (@twoNames_located name 0 (by decide))
  covered i hi := ⟨_, hrows ▸ twoNames_backed (@twoNames_located name i hi)⟩
  exports_at := by
    have hle : (twoNamesReading name).Le (image.reading .PE32Plus CStringAt) := by
      refine ⟨rfl, hbytes.symm, fun h => ?_, fun h => ?_, fun h => ?_⟩
      · exact show FileBacked image.rows _ _ from hrows ▸ twoNames_backed h
      · exact show HoldsAt pe.raw_bytes _ _ from hbytes ▸ h
      · exact show CStringAt pe.raw_bytes _ _ from hbytes ▸ h
    exact (twoNames_exportsAt hname).mono hle
  forwarders := by
    rw [hrows, hbytes]
    exact twoNames_forwarder hname

end TwoNames

def twoNamesPe : PeFile where
  entry_point := 0x180001000
  image_base := 0x180000000
  sections := [⟨".edata", 0x180001000, 72, (twoNamesFile edataName).drop 368⟩]
  header_data := twoNamesFile edataName
  pdb_name := "Unknown"
  pdb_guid_age := "Unknown"
  raw_bytes := twoNamesFile edataName

def twoNamesImage : AcceptedImage peCrate twoNamesPe where
  e_lfanew := 0x40
  opt_size := 240
  rows := [twoNamesRow edataName]
  e_lfanew_at := by decide +kernel
  count_at := by decide +kernel
  count_lt := by decide
  opt_size_at := by decide +kernel
  rows_at := ⟨by decide +kernel, trivial⟩
  parsed := by decide +kernel
  names := [some ".edata"]
  names_length := by decide
  listed := by decide +kernel

def twoNamesLayout : ExportLayout twoNamesImage twoNames :=
  twoNamesExports twoNamesImage (List.mem_cons_self) rfl rfl (by decide)

theorem twoNames_named {rva offset : Nat} (h : (twoNamesReading edataName).Located rva offset) :
    twoNamesImage.Named rva := by
  obtain ⟨delta, hdelta, rfl, rfl⟩ := h
  have hkept : twoNamesRow edataName ∈ twoNamesImage.keptRows := List.mem_singleton_self _
  exact ⟨_, hkept, Nat.le_add_right _ _, Nat.add_lt_add_left hdelta _⟩

theorem twoNamesLayout_named : twoNamesLayout.Named where
  directory := twoNames_named (@twoNames_located edataName 0 (by decide))
  tables := by
    have hle : (twoNamesReading edataName).Le (twoNamesImage.named .PE32Plus CStringAt) :=
      ⟨rfl, rfl, fun h => ⟨twoNames_backed h, twoNames_named h⟩, id, id⟩
    exact (twoNames_exportsAt List.mem_cons_self).mono hle

def namelessExportsPe : PeFile where
  entry_point := 0x180001000
  image_base := 0x180000000
  sections := []
  header_data := twoNamesFile [0xFF]
  pdb_name := "Unknown"
  pdb_guid_age := "Unknown"
  raw_bytes := twoNamesFile [0xFF]

/-- The same section under a name that is not in UTF-8. -/
def namelessExportsImage : AcceptedImage utf8Crate namelessExportsPe where
  e_lfanew := 0x40
  opt_size := 240
  rows := [twoNamesRow [0xFF]]
  e_lfanew_at := by decide +kernel
  count_at := by decide +kernel
  count_lt := by decide
  opt_size_at := by decide +kernel
  rows_at := ⟨by decide +kernel, trivial⟩
  parsed := by decide +kernel
  names := [none]
  names_length := by decide
  listed := by decide +kernel

def namelessExportsLayout : ExportLayout namelessExportsImage twoNames :=
  twoNamesExports namelessExportsImage (List.mem_cons_of_mem _ (List.mem_singleton_self _)) rfl rfl (by decide)

end vwfl.pe
