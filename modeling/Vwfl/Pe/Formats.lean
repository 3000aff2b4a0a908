import Vwfl.Pe.Accepted
import Vwfl.Pe.Decoding

open Rust LittleEndian

namespace vwfl.pe

/-- The byte of an image at an address of a section: the byte of the file where
    the file backs the section, and zero in its tail. -/
def SectionTable.byteAt {bytes : List UInt8} (table : SectionTable bytes) (rva : Nat) : Option UInt8 :=
  match table.rows.find? fun row => row.Covers rva with
  | some row =>
    if rva - row.virtual_address.toNat < row.size_of_raw_data.toNat then
      bytes[row.pointer_to_raw_data.toNat + (rva - row.virtual_address.toNat)]?
    else some 0
  | none => none

/-- The bytes of an image from an address on. -/
def SectionTable.HoldsLoaded {bytes : List UInt8} (table : SectionTable bytes) (rva : Nat) (item : List UInt8) : Prop :=
  ∀ i < item.length, table.byteAt (rva + i) = item[i]?

instance {bytes : List UInt8} (table : SectionTable bytes) (rva : Nat) (item : List UInt8) :
    Decidable (table.HoldsLoaded rva item) :=
  inferInstanceAs (Decidable (∀ i < item.length, _))

/-- The tables of an image as its sections hold them in memory, apart from the
    translation of addresses to offsets: an address is its own place. -/
def SectionTable.loaded {bytes : List UInt8} (table : SectionTable bytes) (magic : Magic) : Reading where
  magic
  bytes
  Located rva place := place = rva ∧ (table.byteAt rva).isSome
  Holds := table.HoldsLoaded
  TextAt rva text := ∃ content, 0 ∉ content ∧ table.HoldsLoaded rva (content ++ [0]) ∧ text = from_utf8_lossy content

/-- The magic of the optional header. -/
def MagicAt (bytes : List UInt8) (magic : Magic) : Prop :=
  ∃ e_lfanew : UInt32, HoldsAt bytes 0x3C (ofUInt32 e_lfanew) ∧
    HoldsAt bytes (e_lfanew.toNat + 24) (ofUInt16 magic.value)

/-- One address holds one descriptor. -/
theorem descriptor_unique {bytes : List UInt8} {table : SectionTable bytes} {rva : Nat}
    {first second : ImportDescriptor} (hfirst : table.HoldsLoaded rva first.encode)
    (hsecond : table.HoldsLoaded rva second.encode) : first = second := by
  have hsame : first.encode = second.encode := List.ext_getElem? fun i => by
    by_cases hi : i < 20
    · rw [← hfirst i hi, ← hsecond i hi]
    · rw [List.getElem?_eq_none (Nat.le_of_not_lt hi), List.getElem?_eq_none (Nat.le_of_not_lt hi)]
  have hwhole : ∀ item : List UInt8, HoldsAt item 0 item := fun item => ⟨by simp, by simp⟩
  obtain ⟨h0, h4, h8, h12, h16⟩ := readDescriptor (hwhole first.encode)
  have hencoded : HoldsAt first.encode 0 second.encode := hsame ▸ hwhole first.encode
  obtain ⟨h0', h4', h8', h12', h16'⟩ := readDescriptor hencoded
  obtain ⟨original, time, chain, name, thunk⟩ := first
  obtain ⟨original', time', chain', name', thunk'⟩ := second
  simp_all

namespace AcceptedImage

variable {object : ObjectCrate} {pe : PeFile} (image : AcceptedImage object pe)

/-- The readers end in an `Err` or return what the directories of the image stand
    for in a layout. -/
structure DecodedAs (profile : Profile) (magic : Magic) : Prop where
  exports : (∃ message, pe.get_exports profile = .error (.err message)) ∨
    ∃ entries, (image.loaded magic).ExportEntries entries ∧ pe.get_exports profile = .ok entries
  imports : (∃ message, pe.get_imports profile = .error (.err message)) ∨
    ∃ libraries, (image.loaded magic).ImportDirectory libraries ∧
      pe.get_imports profile = .ok (libraries.map (Library.entry magic))

/-- A file is decoded by the layout of its own optional header. -/
def DecodedAsIs : Prop := ∀ profile, ∃ magic, MagicAt pe.raw_bytes magic ∧ image.DecodedAs profile magic

end AcceptedImage

/-- A library of a lookup table that reads like one of a 64-bit table: in a 32-bit
    table with a second function the addresses of the slots differ. -/
structure Library.ReadsLike (magic : Magic) (own other : Library) : Prop where
  name : own.name = other.name
  labels : own.symbols.map Symbol.label = other.symbols.map Symbol.label
  single : magic = .PE32 → own.symbols.length ≤ 1
  first_thunk : own.symbols ≠ [] → own.first_thunk = other.first_thunk

/-- Whatever the tables stand for that the 64-bit layout finds in the file at the
    translated addresses, the directories of the image stand for in their
    layout. -/
structure AcceptedImage.ReadsAlike {object : ObjectCrate} {pe : PeFile} (image : AcceptedImage object pe)
    (magic : Magic) : Prop where
  exports : ∀ entries, (pe.reading .dev .PE32Plus).ExportEntries entries → (image.loaded magic).ExportEntries entries
  imports : ∀ libraries, (pe.reading .dev .PE32Plus).ImportDirectory libraries →
    ∃ own, (image.loaded magic).ImportDirectory own ∧ List.Forall₂ (Library.ReadsLike magic) own libraries

theorem Library.entry_eq_iff {magic : Magic} {own other : Library} :
    own.entry magic = other.entry .PE32Plus ↔ own.ReadsLike magic other := by
  obtain ⟨name, symbols, first_thunk⟩ := own
  obtain ⟨name', symbols', first_thunk'⟩ := other
  simp only [Library.entry, ImportEntry.mk.injEq]
  constructor
  · rintro ⟨rfl, hfunctions⟩
    have hlabels : symbols.map Symbol.label = symbols'.map Symbol.label := List.ext_getElem? fun i => by
      simpa [Function.comp_def] using congrArg (fun functions => functions[i]?.map ImportFunction.name) hfunctions
    have hlength : symbols.length = symbols'.length := by simpa using congrArg List.length hlabels
    have hslots : ∀ i < symbols.length, UInt32.ofNat (first_thunk.toNat + magic.thunkSize * i) =
        UInt32.ofNat (first_thunk'.toNat + Magic.PE32Plus.thunkSize * i) := by
      intro i hi
      have hi' := hlength ▸ hi
      simpa [hi, hi'] using congrArg (fun functions => functions[i]?.map ImportFunction.iat_rva) hfunctions
    have hfirst : symbols ≠ [] → first_thunk = first_thunk' := fun hsome => by
      simpa using hslots 0 (List.length_pos_iff.mpr hsome)
    refine ⟨rfl, hlabels, ?_, hfirst⟩
    -- The second slots lie four and eight bytes behind the same first slot.
    rintro rfl
    by_contra hmany
    dsimp only at hmany
    have hsecond := hslots 1 (by omega)
    rw [hfirst (List.ne_nil_of_length_pos (by omega)), ← UInt32.toNat_inj, UInt32.toNat_ofNat', UInt32.toNat_ofNat',
      Magic.thunkSize, Magic.thunkSize] at hsecond
    omega
  · rintro ⟨rfl, hlabels, hsingle, hfirst⟩
    have hlength : symbols.length = symbols'.length := by simpa using congrArg List.length hlabels
    refine ⟨rfl, List.ext_getElem (by simpa using hlength) fun i hi hi' => ?_⟩
    rw [List.length_mapIdx] at hi hi'
    have hlabel : symbols[i].label = symbols'[i].label := by
      simpa [hi, hi'] using congrArg (fun labels => labels[i]?) hlabels
    have hsame : first_thunk = first_thunk' := hfirst (List.ne_nil_of_length_pos (Nat.zero_lt_of_lt hi))
    rw [List.getElem_mapIdx, List.getElem_mapIdx, hlabel, hsame]
    cases magic with
    | PE32Plus => rfl
    | PE32 =>
      obtain rfl : i = 0 := by
        have hle := hsingle rfl
        dsimp only at hle
        omega
      rfl

namespace AcceptedImage

variable {object : ObjectCrate} {pe : PeFile} {image : AcceptedImage object pe} {profile : Profile} {magic : Magic}

/-- A reader survives when the file is decoded by some layout. -/
theorem DecodedAs.survives (h : image.DecodedAs profile magic) :
    Survives (pe.get_exports profile) ∧ Survives (pe.get_imports profile) := by
  constructor
  · rcases h.exports with ⟨message, hread⟩ | ⟨entries, _, hread⟩
    · exact hread ▸ survives_err message
    · exact hread ▸ survives_ok entries
  · rcases h.imports with ⟨message, hread⟩ | ⟨libraries, _, hread⟩
    · exact hread ▸ survives_err message
    · exact hread ▸ survives_ok _

theorem DecodedAs.readsAlike (h : image.DecodedAs .dev magic) : image.ReadsAlike magic where
  exports := by
    intro entries hentries
    have hread := get_exports_of_exportEntries hentries h.survives.1
    rcases h.exports with ⟨message, herr⟩ | ⟨own, hown, hread'⟩
    · rw [hread] at herr
      cases herr
    · rw [hread] at hread'
      cases hread'
      exact hown
  imports := by
    intro libraries hlibraries
    have hread := get_imports_of_importDirectory hlibraries h.survives.2
    rcases h.imports with ⟨message, herr⟩ | ⟨own, hown, hread'⟩
    · rw [hread] at herr
      cases herr
    · rw [hread] at hread'
      have hentries := (Except.ok.inj hread').symm
      rw [← List.forall₂_eq_eq_eq, List.forall₂_map_left_iff, List.forall₂_map_right_iff] at hentries
      exact ⟨own, hown, hentries.imp fun _ _ => Library.entry_eq_iff.mp⟩

/-- Readers that survive decode a file that reads alike. -/
theorem ReadsAlike.decodedAs (halike : image.ReadsAlike magic) (hexports : Survives (pe.get_exports .dev))
    (himports : Survives (pe.get_imports .dev)) : image.DecodedAs .dev magic where
  exports := by
    cases hread : pe.get_exports .dev with
    | ok entries => exact .inr ⟨entries, halike.exports entries (exportEntries_of_get_exports hread), rfl⟩
    | error fault => exact .inl ((hexports fault hread).imp fun _ hfault => congrArg Except.error hfault)
  imports := by
    cases hread : pe.get_imports .dev with
    | ok imports =>
      obtain ⟨libraries, hlibraries, rfl⟩ := importDirectory_of_get_imports hread
      obtain ⟨own, hown, hlike⟩ := halike.imports libraries hlibraries
      refine .inr ⟨own, hown, congrArg Except.ok ?_⟩
      rw [eq_comm, ← List.forall₂_eq_eq_eq, List.forall₂_map_left_iff, List.forall₂_map_right_iff]
      exact hlike.imp fun _ _ => Library.entry_eq_iff.mpr
    | error fault => exact .inl ((himports fault hread).imp fun _ hfault => congrArg Except.error hfault)

theorem DecodedAs.agrees (h : image.DecodedAs .dev magic) (profile : Profile) : image.DecodedAs profile magic := by
  obtain ⟨hexports, himports⟩ := h.survives
  obtain ⟨hread_exports, hread_imports⟩ := h
  rw [← get_exports_agrees profile pe hexports] at hread_exports
  rw [← get_imports_agrees profile pe himports] at hread_imports
  exact ⟨hread_exports, hread_imports⟩

end AcceptedImage

/-- A 32-bit image with one function, imported by its ordinal. -/
def ordinalImportFile : List UInt8 :=
  pe32Image 0x400000 0x1000 (0, 0) (0x1000, 40)
    [⟨[0x2E, 0x69, 0x64, 0x61, 0x74, 0x61], 58, 0x1000, 58, 352⟩]
    (ofUInt32 0x1028 ++ ofUInt32 0 ++ ofUInt32 0 ++ ofUInt32 0x1038 ++ ofUInt32 0x1030 ++ List.replicate 20 0 ++
      (ofUInt32 0x80000007 ++ ofUInt32 0) ++ (ofUInt32 0x80000007 ++ ofUInt32 0) ++ [0x41, 0])

def ordinalImportPe : PeFile where
  entry_point := 0x401000
  image_base := 0x400000
  sections := [⟨".idata", 0x401000, 58, ordinalImportFile.drop 352⟩]
  header_data := ordinalImportFile
  pdb_name := "Unknown"
  pdb_guid_age := "Unknown"
  raw_bytes := ordinalImportFile

def ordinalImportImage : AcceptedImage pe32Crate ordinalImportPe where
  e_lfanew := 0x40
  opt_size := 224
  rows := [⟨[0x2E, 0x69, 0x64, 0x61, 0x74, 0x61], 58, 0x1000, 58, 352⟩]
  e_lfanew_at := by decide +kernel
  count_at := by decide +kernel
  count_lt := by decide
  opt_size_at := by decide +kernel
  rows_at := ⟨by decide +kernel, trivial⟩
  parsed := by decide +kernel
  names := [some ".idata"]
  names_length := by decide
  listed := by decide +kernel

/-- The entry of a directory in a file with its NT headers at 0x40. -/
private theorem directory_holdsAt {bytes : List UInt8} (hlfanew : readU32 bytes 0x3C = .ok 0x40) {magic : Magic}
    {index : Nat} {rva size : UInt32} (hentry : DirectoryAt magic bytes index rva size) :
    HoldsAt bytes (0x58 + magic.directories + index * 8) (ofUInt32 rva ++ ofUInt32 size) := by
  obtain ⟨e_lfanew, hlfanew', hentry⟩ := hentry
  obtain rfl : e_lfanew = 0x40 := Except.ok.inj ((readU32_eq_ok_iff.mpr hlfanew').symm.trans hlfanew)
  exact hentry

/-- A 64-bit image whose import directory lies in the zero-filled tail of its
    section, with other bytes at the offsets behind the section. -/
def tailImportFile : List UInt8 :=
  peImage 0x180000000 0x1000 (0, 0) (0x1000, 40) [⟨[0x2E, 0x69, 0x64, 0x61, 0x74, 0x61], 50, 0x1000, 0, 368⟩]
    (ofUInt32 0x1028 ++ ofUInt32 0 ++ ofUInt32 0 ++ ofUInt32 0x1030 ++ ofUInt32 0x1028 ++ List.replicate 28 0 ++
      [0x41, 0])

def tailImportPe : PeFile where
  entry_point := 0x180001000
  image_base := 0x180000000
  sections := [⟨".idata", 0x180001000, 50, []⟩]
  header_data := tailImportFile
  pdb_name := "Unknown"
  pdb_guid_age := "Unknown"
  raw_bytes := tailImportFile

def tailImportImage : AcceptedImage peCrate tailImportPe where
  e_lfanew := 0x40
  opt_size := 240
  rows := [⟨[0x2E, 0x69, 0x64, 0x61, 0x74, 0x61], 50, 0x1000, 0, 368⟩]
  e_lfanew_at := by decide +kernel
  count_at := by decide +kernel
  count_lt := by decide
  opt_size_at := by decide +kernel
  rows_at := ⟨by decide +kernel, trivial⟩
  parsed := by decide +kernel
  names := [some ".idata"]
  names_length := by decide
  listed := by decide +kernel

/-- The import directory of the image is empty, and a library is read that the
    image does not import. -/
theorem not_decodedAsIs_tailImport :
    MagicAt tailImportFile .PE32Plus ∧ (tailImportImage.loaded .PE32Plus).ImportDirectory [] ∧
      tailImportPe.get_imports .dev = .ok [⟨"A", []⟩] ∧ ¬ tailImportImage.DecodedAsIs := by
  have hread : tailImportPe.get_imports .dev = .ok [⟨"A", []⟩] := by decide +kernel
  have hfirst : tailImportImage.HoldsLoaded 0x1000 (ImportDescriptor.mk 0 0 0 0 0).encode := by decide +kernel
  have hlfanew : readU32 tailImportFile 0x3C = .ok 0x40 := by decide +kernel
  refine ⟨⟨0x40, by decide +kernel, by decide +kernel⟩, ?_, hread, fun h => ?_⟩
  · exact ⟨0x1000, 40, ⟨0x40, by decide +kernel, by decide +kernel⟩,
      .inr ⟨by decide, 0x1000, ⟨rfl, by decide +kernel⟩, _, hfirst, rfl, rfl⟩⟩
  · obtain ⟨magic, ⟨e_lfanew, hlfanew', hmagic⟩, hdecoded⟩ := h .dev
    obtain rfl : e_lfanew = 0x40 := Except.ok.inj ((readU32_eq_ok_iff.mpr hlfanew').symm.trans hlfanew)
    cases magic with
    | PE32 => exact absurd hmagic (by decide +kernel)
    | PE32Plus =>
      rcases hdecoded.imports with ⟨message, herr⟩ | ⟨libraries, hlibraries, hread'⟩
      · rw [hread] at herr
        cases herr
      · rw [hread] at hread'
        obtain ⟨library, rfl, _⟩ := List.map_eq_singleton_iff.mp (Except.ok.inj hread').symm
        obtain ⟨dir_rva, dir_size, hentry, hlibraries⟩ := hlibraries
        have hword : readU32 tailImportFile 208 = .ok 0x1000 := by decide +kernel
        obtain rfl : dir_rva = 0x1000 := Except.ok.inj
          ((readU32_eq_ok_iff.mpr (holdsAt_append.mp (directory_holdsAt hlfanew hentry)).1).symm.trans hword)
        rcases hlibraries with ⟨_, habsent⟩ | ⟨_, place, ⟨rfl, _⟩, descriptor, hdescriptor, hmore, _⟩
        · cases habsent
        · -- The first descriptor is the terminator.
          obtain rfl := descriptor_unique hdescriptor hfirst
          exact absurd hmore (by decide)

end vwfl.pe
