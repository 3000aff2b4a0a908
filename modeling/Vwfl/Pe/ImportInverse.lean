import Vwfl.Pe.Accepted

open Rust LittleEndian

namespace vwfl.pe

section Narrowing

variable {object : ObjectCrate} {pe : PeFile} {image : AcceptedImage object pe} {profile : Profile}
  {TextAt : List UInt8 → Nat → String → Prop}

/-- A word whose function is read finds its name in a section with a readable
    name. -/
theorem imports_named (hfits : ∀ row ∈ image.rows, row.Fits pe.image_base) {word : Nat} {symbol : Symbol}
    (h : (image.reading .PE32Plus TextAt).Imports word symbol) {name : String}
    (hread : pe.thunkName profile (UInt64.ofNat word) = .ok name) (hword : word < 2 ^ 64) :
    (image.named .PE32Plus TextAt).Imports word symbol := by
  have hnat : (UInt64.ofNat word).toNat = word := UInt64.toNat_ofNat_of_lt' hword
  cases symbol with
  | ordinal number => exact h
  | name text =>
    obtain ⟨htop, offset, hlocated, htext⟩ := h
    have hflag : ¬ UInt64.ofNat word &&& ((1 : UInt64) <<< 63) ≠ 0 := by
      rw [not_not, topBit_eq_zero_iff, hnat]
      exact htop
    have hrva : (UInt64.ofNat word &&& 0x7FFFFFFF).toUInt32 = UInt32.ofNat (word % 2 ^ 31) := by
      apply UInt32.toNat.inj
      rw [UInt64.toNat_toUInt32, BitField.toNat_and_low _ _ 31 rfl, hnat, UInt32.toNat_ofNat']
    unfold PeFile.thunkName at hread
    rw [if_neg hflag] at hread
    simp only [hrva] at hread
    obtain ⟨found, hfound, _⟩ := bind_eq_ok_iff.mp hread
    have hnamed := (AcceptedImage.named_of_rva_to_offset hfits hlocated (offsetOr_eq_ok_iff.mp hfound)).1
    exact ⟨htop, offset, ⟨hlocated, hnamed⟩, htext⟩

/-- A lookup table that is read to its end lies in sections with readable
    names. -/
theorem thunksAt_named (hfits : ∀ row ∈ image.rows, row.Fits pe.image_base)
    (htext : ∀ {bytes offset text}, TextAt bytes offset text → CStringAt bytes offset text) {fuel rva : Nat}
    {iat_rva : UInt32} {symbols : List Symbol} (h : (image.reading .PE32Plus TextAt).ThunksAt rva symbols)
    {functions : List ImportFunction} (hread : pe.thunkLoop profile fuel (UInt32.ofNat rva) iat_rva = .ok functions) :
    (image.named .PE32Plus TextAt).ThunksAt rva symbols := by
  have hthunk : ∀ {fuel rva word : Nat} {iat_rva : UInt32} {functions : List ImportFunction},
      (image.reading .PE32Plus TextAt).ThunkAt rva word →
      pe.thunkLoop profile fuel (UInt32.ofNat rva) iat_rva = .ok functions →
      (image.named .PE32Plus TextAt).ThunkAt rva word := by
    rintro fuel rva word iat_rva functions ⟨hword, offset, hlocated, hholds⟩ hread
    cases fuel with
    | zero => cases hread
    | succ fuel =>
      rw [PeFile.thunkLoop] at hread
      obtain ⟨found, hfound, _⟩ := bind_eq_ok_iff.mp hread
      have hnamed := (AcceptedImage.named_of_rva_to_offset hfits hlocated (offsetOr_eq_ok_iff.mp hfound)).1
      exact ⟨hword, offset, ⟨hlocated, hnamed⟩, hholds⟩
  induction symbols generalizing fuel rva iat_rva functions with
  | nil => exact hthunk h hread
  | cons symbol rest ih =>
    obtain ⟨word, hnonzero, hword, himports, hrest⟩ := h
    have hnamed := hthunk hword hread
    cases fuel with
    | zero => cases hread
    | succ fuel =>
      rw [thunkLoop_of_word (hnamed.mono (image.named_le profile .PE32Plus hfits htext)) hnonzero] at hread
      obtain ⟨name, hname, hread⟩ := bind_eq_ok_iff.mp hread
      obtain ⟨next_thunk, hnext, hread⟩ := bind_eq_ok_iff.mp hread
      obtain ⟨next_iat, _, hread⟩ := bind_eq_ok_iff.mp hread
      obtain ⟨later, hlater, _⟩ := bind_eq_ok_iff.mp hread
      have hnext_thunk : next_thunk = UInt32.ofNat (rva + 8) := by
        rw [(Profile.add32_eq_ok_iff.mp hnext).2, UInt32.ofNat_add]
        rfl
      rw [hnext_thunk] at hlater
      exact ⟨word, hnonzero, hnamed, imports_named hfits himports hname hword.1, ih hrest hlater⟩

/-- Descriptors that are read to the terminator have their tables and names in
    sections with readable names. -/
theorem librariesAt_named (hfits : ∀ row ∈ image.rows, row.Fits pe.image_base)
    (htext : ∀ {bytes offset text}, TextAt bytes offset text → CStringAt bytes offset text) {fuel offset : Nat}
    {libraries : List Library} (h : (image.reading .PE32Plus TextAt).LibrariesAt offset libraries)
    {imports : List ImportEntry} (hread : pe.descriptorLoop profile fuel offset = .ok imports) :
    (image.named .PE32Plus TextAt).LibrariesAt offset libraries := by
  induction libraries generalizing fuel offset imports with
  | nil => exact h
  | cons library rest ih =>
    obtain ⟨descriptor, hholds, hmore, ⟨⟨name_offset, hlocated, hspelled⟩, hthunks, hfirst⟩, hrest⟩ := h
    cases fuel with
    | zero => cases hread
    | succ fuel =>
      rw [descriptorLoop_of_holdsAt hholds, if_neg hmore] at hread
      obtain ⟨found, hfound, hread⟩ := bind_eq_ok_iff.mp hread
      obtain ⟨dll_name, _, hread⟩ := bind_eq_ok_iff.mp hread
      obtain ⟨functions, hfunctions, hread⟩ := bind_eq_ok_iff.mp hread
      obtain ⟨later, hlater, _⟩ := bind_eq_ok_iff.mp hread
      rw [← @UInt32.ofNat_toNat descriptor.name_rva] at hfound
      rw [← @UInt32.ofNat_toNat descriptor.lookup] at hfunctions
      have hnamed := (AcceptedImage.named_of_rva_to_offset hfits hlocated (offsetOr_eq_ok_iff.mp hfound)).1
      exact ⟨descriptor, hholds, hmore, ⟨⟨name_offset, ⟨hlocated, hnamed⟩, hspelled⟩,
        thunksAt_named hfits htext hthunks hfunctions, hfirst⟩, ih hrest hlater⟩

/-- Imports are only read when the directory lies in sections with readable
    names. -/
theorem importDirectory_named (hfits : ∀ row ∈ image.rows, row.Fits pe.image_base)
    (htext : ∀ {bytes offset text}, TextAt bytes offset text → CStringAt bytes offset text)
    {libraries : List Library} (h : (image.reading .PE32Plus TextAt).ImportDirectory libraries)
    {imports : List ImportEntry} (hread : pe.get_imports profile = .ok imports) :
    (image.named .PE32Plus TextAt).ImportDirectory libraries := by
  obtain ⟨dir_rva, dir_size, hentry, ⟨rfl, rfl⟩ | ⟨hpresent, offset, hlocated, hlibraries⟩⟩ := h
  · exact ⟨0, dir_size, hentry, .inl ⟨rfl, rfl⟩⟩
  · unfold PeFile.get_imports at hread
    rw [get_data_directory_eq_ok_iff.mpr hentry, ok_bind] at hread
    simp only at hread
    rw [if_neg hpresent] at hread
    obtain ⟨found, hfound, hread⟩ := bind_eq_ok_iff.mp hread
    rw [← @UInt32.ofNat_toNat dir_rva] at hfound
    obtain ⟨hnamed, rfl⟩ := AcceptedImage.named_of_rva_to_offset hfits hlocated (offsetOr_eq_ok_iff.mp hfound)
    exact ⟨dir_rva, dir_size, hentry, .inr ⟨hpresent, _, ⟨hlocated, hnamed⟩,
      librariesAt_named hfits htext hlibraries hread⟩⟩

/-- The import reader on a directory in sections with readable names. -/
theorem get_imports_eq (hfits : ∀ row ∈ image.rows, row.Fits pe.image_base)
    (htext : ∀ {bytes offset text}, TextAt bytes offset text → CStringAt bytes offset text) {libraries : List Library}
    (hdirectory : (image.named .PE32Plus TextAt).ImportDirectory libraries)
    (hfirst : ∀ library ∈ libraries, library.first_thunk.toNat + 8 * library.symbols.length < 2 ^ 32) :
    pe.get_imports profile = .ok (libraries.map (Library.entry .PE32Plus)) := by
  have hle := image.named_le profile .PE32Plus hfits htext
  obtain ⟨dir_rva, dir_size, hentry, htables⟩ := hdirectory
  unfold PeFile.get_imports
  rw [get_data_directory_eq_ok_iff.mpr hentry, ok_bind]
  simp only
  rcases htables with ⟨rfl, rfl⟩ | ⟨hpresent, offset, hlocated, hlibraries⟩
  · rw [if_pos rfl]
    rfl
  · have hdir := hle.located hlocated
    simp only [PeFile.reading, UInt32.ofNat_toNat] at hdir
    have hlength := hlibraries.length_le rfl
    rw [if_neg hpresent, offsetOr_eq_ok_iff.mpr hdir, ok_bind]
    refine descriptorLoop_eq hle hlibraries ?_ (by
      change _ ≤ pe.raw_bytes.length at hlength
      omega)
    intro descriptor library hlibrary hdescribes
    obtain ⟨last, hlast, _⟩ := hdescribes.2.1.last
    exact ⟨Nat.lt_of_succ_lt (AcceptedImage.succ_rva_lt hfits hlast), hfirst library hlibrary⟩

end Narrowing

/-- Imported libraries laid out in an accepted image, in its 32-bit address range:
    the tables and the names lie in file-backed parts of its sections. -/
structure ImportLayout {object : ObjectCrate} {pe : PeFile} (image : AcceptedImage object pe)
    (libraries : List Library) : Prop where
  fits : ∀ row ∈ image.rows, row.Fits pe.image_base
  directory : (image.reading .PE32Plus Utf8At).ImportDirectory libraries
  first_thunk_lt : ∀ library ∈ libraries, library.first_thunk.toNat + 8 * library.symbols.length < 2 ^ 32

/-- The section of an image with two imported libraries. -/
def twoLibrariesRow (name : List UInt8) : SectionHeader := ⟨name, 136, 0x1000, 136, 368⟩

/-- Descriptors, the lookup table and the address table of the first library, the
    address table of the second, the hints with their names, and the names of
    the libraries. -/
def twoLibrariesFile (name : List UInt8) : List UInt8 :=
  peImage 0x180000000 0x1000 (0, 0) (0x1000, 60) [twoLibrariesRow name]
    (ofUInt32 0x103C ++ ofUInt32 0 ++ ofUInt32 0 ++ ofUInt32 0x1084 ++ ofUInt32 0x1054 ++
      (ofUInt32 0 ++ ofUInt32 0 ++ ofUInt32 0 ++ ofUInt32 0x1086 ++ ofUInt32 0x106C) ++ List.replicate 20 0 ++
      (ofUInt64 0x107C ++ ofUInt64 0x8000000000000007 ++ ofUInt64 0) ++ List.replicate 24 0 ++
      (ofUInt64 0x1080 ++ ofUInt64 0) ++
      [1, 0, 0x66, 0, 0, 0, 0x67, 0, 0x41, 0, 0x42, 0])

def twoLibraries : List Library :=
  [⟨"A", [.name "f", .ordinal 7], 0x1054⟩, ⟨"B", [.name "g"], 0x106C⟩]

def idataName : List UInt8 := [0x2E, 0x69, 0x64, 0x61, 0x74, 0x61]

/-- The reading of the section, whatever its name. -/
def twoLibrariesReading (name : List UInt8) : Reading where
  magic := .PE32Plus
  bytes := twoLibrariesFile name
  Located rva offset := ∃ delta < 136, rva = 0x1000 + delta ∧ offset = 368 + delta
  Holds := HoldsAt (twoLibrariesFile name)
  TextAt := Utf8At (twoLibrariesFile name)

/-- Two libraries, the second without a lookup table. -/
theorem twoLibraries_directory {name : List UInt8} (hname : name ∈ [idataName, [0xFF]]) :
    (twoLibrariesReading name).ImportDirectory twoLibraries := by
  have hlocated : ∀ delta < 136, (twoLibrariesReading name).Located (0x1000 + delta) (368 + delta) :=
    fun delta h => ⟨delta, h, rfl, rfl⟩
  have hholds : ∀ {place item}, (∀ name ∈ [idataName, [0xFF]], HoldsAt (twoLibrariesFile name) place item) →
      (twoLibrariesReading name).Holds place item := fun h => h name hname
  have hthunk : ∀ {delta word}, delta < 136 → word < 2 ^ 64 →
      (∀ name ∈ [idataName, [0xFF]], HoldsAt (twoLibrariesFile name) (368 + delta) (LittleEndian.bytes 8 word)) →
      (twoLibrariesReading name).ThunkAt (0x1000 + delta) word :=
    fun hdelta hword h => ⟨hword, _, hlocated _ hdelta, hholds h⟩
  have hfirst : (twoLibrariesReading name).Describes ⟨0x103C, 0, 0, 0x1084, 0x1054⟩
      ⟨"A", [.name "f", .ordinal 7], 0x1054⟩ := by
    refine ⟨⟨_, hlocated 0x84 (by decide), by decide, hholds (by decide +kernel)⟩, ?_, rfl⟩
    refine ⟨0x107C, by decide, @hthunk 0x3C _ (by decide) (by decide) (by decide +kernel), ?_, ?_⟩
    · exact ⟨show 0x107C < 2 ^ 63 by decide, _, hlocated 0x7C (by decide), by decide, hholds (by decide +kernel)⟩
    refine ⟨0x8000000000000007, by decide, @hthunk 0x44 _ (by decide) (by decide) (by decide +kernel), ?_, ?_⟩
    · exact ⟨show 2 ^ 63 ≤ 0x8000000000000007 by decide, by decide⟩
    · exact @hthunk 0x4C 0 (by decide) (by decide) (by decide +kernel)
  have hsecond : (twoLibrariesReading name).Describes ⟨0, 0, 0, 0x1086, 0x106C⟩ ⟨"B", [.name "g"], 0x106C⟩ := by
    refine ⟨⟨_, hlocated 0x86 (by decide), by decide, hholds (by decide +kernel)⟩, ?_, rfl⟩
    refine ⟨0x1080, by decide, @hthunk 0x6C _ (by decide) (by decide) (by decide +kernel), ?_, ?_⟩
    · exact ⟨show 0x1080 < 2 ^ 63 by decide, _, hlocated 0x80 (by decide), by decide, hholds (by decide +kernel)⟩
    · exact @hthunk 0x74 0 (by decide) (by decide) (by decide +kernel)
  have hentry : DirectoryAt .PE32Plus (twoLibrariesFile name) 1 0x1000 60 :=
    ⟨0x40, hholds (by decide +kernel), hholds (by decide +kernel)⟩
  refine ⟨0x1000, 60, hentry, .inr ⟨by decide, 368, hlocated 0 (by decide), ?_⟩⟩
  refine ⟨_, hholds (by decide +kernel), by decide, hfirst, _, hholds (by decide +kernel), by decide, hsecond, ?_⟩
  exact ⟨⟨0, 0, 0, 0, 0⟩, hholds (by decide +kernel), rfl, rfl⟩

def twoLibrariesPe : PeFile where
  entry_point := 0x180001000
  image_base := 0x180000000
  sections := [⟨".idata", 0x180001000, 136, (twoLibrariesFile idataName).drop 368⟩]
  header_data := twoLibrariesFile idataName
  pdb_name := "Unknown"
  pdb_guid_age := "Unknown"
  raw_bytes := twoLibrariesFile idataName

def twoLibrariesImage : AcceptedImage peCrate twoLibrariesPe where
  e_lfanew := 0x40
  opt_size := 240
  rows := [twoLibrariesRow idataName]
  e_lfanew_at := by decide +kernel
  count_at := by decide +kernel
  count_lt := by decide
  opt_size_at := by decide +kernel
  rows_at := ⟨by decide +kernel, trivial⟩
  parsed := by decide +kernel
  names := [some ".idata"]
  names_length := by decide
  listed := by decide +kernel

/-- The section is backed by the file. -/
private theorem twoLibraries_backed {name : List UInt8} {rva offset : Nat}
    (h : (twoLibrariesReading name).Located rva offset) : FileBacked [twoLibrariesRow name] rva offset := by
  obtain ⟨delta, hdelta, rfl, rfl⟩ := h
  exact fileBacked_first hdelta hdelta (show 368 + delta < 2 ^ 32 by omega)

private theorem twoLibraries_layout : ImportLayout twoLibrariesImage twoLibraries where
  fits := by decide
  directory := by
    have hle : (twoLibrariesReading idataName).Le (twoLibrariesImage.reading .PE32Plus Utf8At) :=
      ⟨rfl, rfl, twoLibraries_backed, id, id⟩
    exact (twoLibraries_directory (by decide)).mono hle
  first_thunk_lt := by decide

def namelessLibrariesPe : PeFile where
  entry_point := 0x180001000
  image_base := 0x180000000
  sections := []
  header_data := twoLibrariesFile [0xFF]
  pdb_name := "Unknown"
  pdb_guid_age := "Unknown"
  raw_bytes := twoLibrariesFile [0xFF]

/-- The same section under a name that is not in UTF-8. -/
def namelessLibrariesImage : AcceptedImage utf8Crate namelessLibrariesPe where
  e_lfanew := 0x40
  opt_size := 240
  rows := [twoLibrariesRow [0xFF]]
  e_lfanew_at := by decide +kernel
  count_at := by decide +kernel
  count_lt := by decide
  opt_size_at := by decide +kernel
  rows_at := ⟨by decide +kernel, trivial⟩
  parsed := by decide +kernel
  names := [none]
  names_length := by decide
  listed := by decide +kernel

end vwfl.pe
