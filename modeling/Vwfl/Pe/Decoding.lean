import Vwfl.Pe.Survival

open Rust LittleEndian

namespace vwfl.pe

theorem Reading.Le.refl (reading : Reading) : reading.Le reading := ⟨rfl, rfl, id, id, id⟩

theorem located_of_offsetOr {pe : PeFile} {rva : UInt32} {message : String} {offset : Nat} {magic : Magic}
    (h : pe.offsetOr .dev rva message = .ok offset) : (pe.reading .dev magic).Located rva.toNat offset := by
  simp only [PeFile.reading, UInt32.ofNat_toNat]
  exact offsetOr_eq_ok_iff.mp h

section Imports

variable {pe : PeFile}

/-- A word that is read as a function stands for it. -/
theorem imports_of_thunkName {word : UInt64} {name : String} (h : pe.thunkName .dev word = .ok name) :
    ∃ symbol, (pe.reading .dev .PE32Plus).Imports word.toNat symbol ∧ symbol.label = name := by
  rw [thunkName_eq_ite] at h
  split at h
  · rename_i hbyname
    obtain ⟨offset, hoffset, htext⟩ := bind_eq_ok_iff.mp h
    have hrva : (nameRva word).toNat = word.toNat % 2 ^ 31 := by
      rw [nameRva, UInt64.toNat_toUInt32, BitField.toNat_and_low _ _ 31 rfl]
      omega
    refine ⟨.name name, ⟨topBit_eq_zero_iff word |>.mp hbyname, offset, ?_, htext⟩, rfl⟩
    rw [← hrva]
    exact located_of_offsetOr hoffset
  · rename_i hbyname
    have hnumber : (UInt16.ofNat (word.toNat % 2 ^ 16)).toNat = word.toNat % 2 ^ 16 := by
      rw [UInt16.toNat_ofNat']
      omega
    refine ⟨.ordinal (UInt16.ofNat (word.toNat % 2 ^ 16)), ⟨?_, hnumber.symm⟩, ?_⟩
    · exact Nat.not_lt.mp fun hlt => hbyname ((topBit_eq_zero_iff word).mpr hlt)
    · rw [← Except.ok.inj h, Symbol.label, hnumber, BitField.toNat_and_low _ _ 16 rfl]

/-- A lookup table that is read to its end stands for the functions. -/
theorem thunksAt_of_thunkLoop {fuel : Nat} {thunk_rva iat_rva : UInt32} {functions : List ImportFunction}
    (h : pe.thunkLoop .dev fuel thunk_rva iat_rva = .ok functions) :
    ∃ symbols, (pe.reading .dev .PE32Plus).ThunksAt thunk_rva.toNat symbols ∧
      functions = symbols.mapIdx fun j symbol =>
        { name := symbol.label, iat_rva := UInt32.ofNat (iat_rva.toNat + 8 * j) } := by
  induction fuel generalizing thunk_rva iat_rva functions with
  | zero => cases h
  | succ fuel ih =>
    rw [PeFile.thunkLoop] at h
    obtain ⟨offset, hoffset, h⟩ := bind_eq_ok_iff.mp h
    obtain ⟨word, hword, h⟩ := bind_eq_ok_iff.mp h
    have hthunk : (pe.reading .dev .PE32Plus).ThunkAt thunk_rva.toNat word.toNat :=
      ⟨word.toNat_lt, offset, located_of_offsetOr hoffset, readU64_eq_ok_iff.mp hword⟩
    split at h
    · rename_i hzero
      subst hzero
      exact ⟨[], hthunk, (Except.ok.inj h).symm⟩
    · rename_i hzero
      obtain ⟨name, hname, h⟩ := bind_eq_ok_iff.mp h
      obtain ⟨next_thunk, hnext_thunk, h⟩ := bind_eq_ok_iff.mp h
      obtain ⟨next_iat, hnext_iat, h⟩ := bind_eq_ok_iff.mp h
      obtain ⟨later, hlater, hresult⟩ := bind_eq_ok_iff.mp h
      obtain ⟨hthunk_lt, rfl⟩ := Profile.add32_eq_ok_iff.mp hnext_thunk
      obtain ⟨hiat_lt, rfl⟩ := Profile.add32_eq_ok_iff.mp hnext_iat
      obtain ⟨symbol, himports, hlabel⟩ := imports_of_thunkName hname
      obtain ⟨symbols, hsymbols, hfunctions⟩ := ih hlater
      rw [UInt32.toNat_add, Nat.mod_eq_of_lt (hthunk_lt rfl)] at hsymbols
      rw [UInt32.toNat_add, Nat.mod_eq_of_lt (hiat_lt rfl)] at hfunctions
      refine ⟨symbol :: symbols, ⟨word.toNat, ?_, hthunk, himports, hsymbols⟩, ?_⟩
      · exact fun hnat => hzero (UInt64.toNat.inj hnat)
      · rw [← Except.ok.inj hresult, hfunctions, ← hlabel, List.mapIdx_cons]
        simp only [UInt32.reduceToNat, Nat.mul_succ, Nat.mul_zero, Nat.add_zero, Nat.add_assoc, Nat.add_comm 8,
          UInt32.ofNat_toNat]

/-- A table of descriptors that is read to its end stands for the libraries. -/
theorem librariesAt_of_descriptorLoop {fuel dir_offset : Nat} {imports : List ImportEntry}
    (h : pe.descriptorLoop .dev fuel dir_offset = .ok imports) :
    ∃ libraries, (pe.reading .dev .PE32Plus).LibrariesAt dir_offset libraries ∧
      imports = libraries.map (Library.entry .PE32Plus) := by
  induction fuel generalizing dir_offset imports with
  | zero => cases h
  | succ fuel ih =>
    have hsurvives : Survives (pe.descriptorLoop .dev (fuel + 1) dir_offset) := h ▸ survives_ok imports
    have hholds := descriptorAt_holdsAt (survives_descriptorLoop_succ_iff.mp hsurvives).1
    rw [descriptorLoop_of_holdsAt hholds] at h
    split at h
    · rename_i hlast
      exact ⟨[], ⟨_, hholds, hlast⟩, (Except.ok.inj h).symm⟩
    · rename_i hmore
      obtain ⟨name_offset, hname_offset, h⟩ := bind_eq_ok_iff.mp h
      obtain ⟨dll_name, hname, h⟩ := bind_eq_ok_iff.mp h
      obtain ⟨functions, hfunctions, h⟩ := bind_eq_ok_iff.mp h
      obtain ⟨later, hlater, hresult⟩ := bind_eq_ok_iff.mp h
      obtain ⟨symbols, hsymbols, rfl⟩ := thunksAt_of_thunkLoop hfunctions
      obtain ⟨libraries, hlibraries, rfl⟩ := ih hlater
      refine ⟨⟨dll_name, symbols, (descriptorAt pe.raw_bytes dir_offset).first_thunk⟩ :: libraries,
        ⟨_, hholds, hmore, ⟨⟨name_offset, located_of_offsetOr hname_offset, hname⟩, hsymbols, rfl⟩, hlibraries⟩,
        (Except.ok.inj hresult).symm⟩

/-- Imports that are returned are those of the directory behind the 64-bit
    layout. -/
theorem importDirectory_of_get_imports {imports : List ImportEntry} (h : pe.get_imports .dev = .ok imports) :
    ∃ libraries, (pe.reading .dev .PE32Plus).ImportDirectory libraries ∧
      imports = libraries.map (Library.entry .PE32Plus) := by
  unfold PeFile.get_imports at h
  obtain ⟨⟨dir_rva, dir_size⟩, hentry, h⟩ := bind_eq_ok_iff.mp h
  have hdirectory := get_data_directory_eq_ok_iff.mp hentry
  simp only at h
  split at h
  · rename_i hempty
    exact ⟨[], ⟨dir_rva, dir_size, hdirectory, .inl ⟨hempty, rfl⟩⟩, (Except.ok.inj h).symm⟩
  · rename_i hpresent
    obtain ⟨offset, hoffset, hloop⟩ := bind_eq_ok_iff.mp h
    obtain ⟨libraries, hlibraries, himports⟩ := librariesAt_of_descriptorLoop hloop
    exact ⟨libraries, ⟨dir_rva, dir_size, hdirectory, .inr ⟨hpresent, offset, located_of_offsetOr hoffset, hlibraries⟩⟩,
      himports⟩

/-- A lookup table that is read without a fault stays in the address range. -/
theorem inRange_of_survives {fuel rva iat_rva : Nat} {symbols : List Symbol}
    (h : (pe.reading .dev .PE32Plus).ThunksAt rva symbols) (hrva : rva < 2 ^ 32) (hiat : iat_rva < 2 ^ 32)
    (hsurvives : Survives (pe.thunkLoop .dev fuel (UInt32.ofNat rva) (UInt32.ofNat iat_rva))) :
    rva + 8 * symbols.length < 2 ^ 32 ∧ iat_rva + 8 * symbols.length < 2 ^ 32 := by
  have hword : ∀ {value : Nat}, value < 2 ^ 32 → (UInt32.ofNat value).toNat = value := by
    intro value hvalue
    rw [UInt32.toNat_ofNat']
    exact Nat.mod_eq_of_lt hvalue
  induction symbols generalizing fuel rva iat_rva with
  | nil => exact ⟨hrva, hiat⟩
  | cons symbol rest ih =>
    obtain ⟨word, hnonzero, hthunk, himports, hrest⟩ := h
    cases fuel with
    | zero => exact absurd hsurvives not_survives_diverge
    | succ fuel =>
      rw [thunkLoop_of_thunkAt hthunk hnonzero himports, Profile.survives_add32_bind_iff,
        Profile.survives_add32_bind_iff, survives_bind_pure_iff, hword hrva, hword hiat] at hsurvives
      obtain ⟨hrva8, hiat8, hloop⟩ := hsurvives
      simp only [UInt32.reduceToNat] at hrva8 hiat8
      have hloop : Survives (pe.thunkLoop .dev fuel (UInt32.ofNat (rva + 8)) (UInt32.ofNat (iat_rva + 8))) := by
        rw [UInt32.ofNat_add, UInt32.ofNat_add]
        exact hloop
      have hlater := @ih fuel (rva + 8) (iat_rva + 8) hrest hrva8 hiat8 hloop
      rw [List.length_cons]
      omega

/-- Descriptors that are read without a fault give the libraries that they stand
    for. -/
theorem descriptorLoop_of_librariesAt {fuel dir_offset : Nat} {libraries : List Library}
    (h : (pe.reading .dev .PE32Plus).LibrariesAt dir_offset libraries)
    (hsurvives : Survives (pe.descriptorLoop .dev fuel dir_offset)) :
    pe.descriptorLoop .dev fuel dir_offset = .ok (libraries.map (Library.entry .PE32Plus)) := by
  induction libraries generalizing fuel dir_offset with
  | nil =>
    cases fuel with
    | zero => exact absurd hsurvives not_survives_diverge
    | succ fuel =>
      obtain ⟨descriptor, hholds, hlast⟩ := h
      rw [descriptorLoop_of_holdsAt hholds, if_pos hlast]
      rfl
  | cons library rest ih =>
    cases fuel with
    | zero => exact absurd hsurvives not_survives_diverge
    | succ fuel =>
      obtain ⟨descriptor, hholds, hmore, hdescribes, hrest⟩ := h
      obtain ⟨⟨name_offset, hlocated, htext⟩, hthunks, hfirst⟩ := hdescribes
      simp only [PeFile.reading, UInt32.ofNat_toNat] at hlocated htext
      rw [descriptorLoop_of_holdsAt hholds, if_neg hmore, offsetOr_eq_ok_iff.mpr hlocated, ok_bind, htext, ok_bind]
        at hsurvives ⊢
      have hthunks_survive := (survives_bind_iff.mp hsurvives).1
      rw [hfirst, ← @UInt32.ofNat_toNat descriptor.lookup, ← @UInt32.ofNat_toNat library.first_thunk]
        at hthunks_survive
      have hrange := inRange_of_survives hthunks descriptor.lookup.toNat_lt library.first_thunk.toNat_lt hthunks_survive
      rw [thunkLoop_of_describes ⟨⟨name_offset, by simpa [PeFile.reading] using hlocated, htext⟩, hthunks, hfirst⟩
        hrange, ok_bind] at hsurvives ⊢
      rw [ih hrest (survives_bind_pure_iff.mp hsurvives), ok_bind]
      rfl

/-- An import reader that survives returns what the directory behind the 64-bit
    layout stands for. -/
theorem get_imports_of_importDirectory {libraries : List Library}
    (h : (pe.reading .dev .PE32Plus).ImportDirectory libraries) (hsurvives : Survives (pe.get_imports .dev)) :
    pe.get_imports .dev = .ok (libraries.map (Library.entry .PE32Plus)) := by
  obtain ⟨dir_rva, dir_size, hentry, htables⟩ := h
  unfold PeFile.get_imports at hsurvives ⊢
  rw [get_data_directory_eq_ok_iff.mpr hentry, ok_bind] at hsurvives ⊢
  simp only at hsurvives ⊢
  rcases htables with ⟨rfl, rfl⟩ | ⟨hpresent, offset, hlocated, hlibraries⟩
  · rw [if_pos rfl]
    rfl
  · simp only [PeFile.reading, UInt32.ofNat_toNat] at hlocated
    rw [if_neg hpresent, offsetOr_eq_ok_iff.mpr hlocated, ok_bind] at hsurvives ⊢
    exact descriptorLoop_of_librariesAt hlibraries hsurvives

end Imports

/-- The entry of a slot in any file: a forwarder without a byte in the file has no
    text. -/
structure Reading.Decodes (reading : Reading) (exports : Exports) (dir_rva dir_size : UInt32) (slot : UInt32 × Nat)
    (entry : ExportEntry) : Prop where
  rva : entry.rva = slot.1
  ordinal : entry.ordinal = exports.ordinal slot.2
  name : entry.name = exports.label slot.2
  forwarder : reading.ForwarderAt dir_rva dir_size slot.1 entry.forwarder ∨
    ((∀ offset, ¬ reading.Located slot.1.toNat offset) ∧ entry.forwarder = none)

/-- The export directory of a file stands for the entries. -/
def Reading.ExportEntries (reading : Reading) (entries : List ExportEntry) : Prop :=
  ∃ dir_rva dir_size, DirectoryAt reading.magic reading.bytes 0 dir_rva dir_size ∧
    ((dir_rva = 0 ∧ entries = []) ∨ (dir_rva ≠ 0 ∧ ∃ offset exports, reading.Located dir_rva.toNat offset ∧
      reading.ExportsAt offset exports ∧
      List.Forall₂ (reading.Decodes exports dir_rva dir_size) exports.slots entries))

section Exports

variable {pe : PeFile}

theorem decodes_of_forwarderOf {dir_rva dir_size rva : UInt32} {forwarder : Option String}
    (h : pe.forwarderOf .dev dir_rva dir_size rva = .ok forwarder) :
    (pe.reading .dev .PE32Plus).ForwarderAt dir_rva dir_size rva forwarder ∨
      ((∀ offset, ¬ (pe.reading .dev .PE32Plus).Located rva.toNat offset) ∧ forwarder = none) := by
  obtain ⟨hend, _⟩ := survives_forwarderOf_iff.mp (h ▸ survives_ok forwarder)
  unfold Reading.ForwarderAt
  unfold PeFile.forwarderOf at h
  by_cases hlow : rva ≥ dir_rva
  · have hend := hend (UInt32.le_iff_toNat_le.mp hlow)
    rw [if_pos hlow, Profile.dev.add32_of_lt hend, ok_bind] at h
    by_cases hin : InDirectory dir_rva dir_size rva
    · rw [if_pos ((dirEnd_iff hlow hend).mpr hin)] at h
      rw [if_pos hin]
      obtain ⟨found, hfound, h⟩ := bind_eq_ok_iff.mp h
      cases found with
      | none =>
        refine .inr ⟨fun offset hlocated => ?_, (Except.ok.inj h).symm⟩
        simp only [PeFile.reading, UInt32.ofNat_toNat] at hlocated
        rw [hfound] at hlocated
        cases hlocated
      | some offset =>
        obtain ⟨text, htext, h⟩ := bind_eq_ok_iff.mp h
        refine .inl ⟨offset, text, ?_, htext, (Except.ok.inj h).symm⟩
        simpa only [PeFile.reading, UInt32.ofNat_toNat] using hfound
    · rw [if_neg fun hhigh => hin ((dirEnd_iff hlow hend).mp hhigh)] at h
      rw [if_neg hin]
      exact .inl (Except.ok.inj h).symm
  · have hout : ¬ InDirectory dir_rva dir_size rva := fun hin => hlow (UInt32.le_iff_toNat_le.mpr hin.1)
    rw [if_neg hlow] at h
    rw [if_neg hout]
    exact .inl (Except.ok.inj h).symm

/-- What a round of the loop over the address table returns for a slot. -/
theorem decodes_of_exportAt {exports : Exports} {dir_rva dir_size : UInt32} {addr_offset i : Nat} {rva : UInt32}
    {value : Option ExportEntry} (hrvas : ItemsAt pe.raw_bytes 4 ofUInt32 addr_offset exports.rvas)
    (hrva : exports.rvas[i]? = some rva) (hi : i < 2 ^ 32)
    (h : pe.exportAt .dev dir_rva dir_size exports.base addr_offset (nameMap exports.names) i = .ok value) :
    Option.Rel ((pe.reading .dev .PE32Plus).Decodes exports dir_rva dir_size)
      (Option.guard (fun slot => slot.1 ≠ 0) (rva, i)) value := by
  by_cases hused : rva = 0
  · subst hused
    rw [exportAt_unused hrvas hrva] at h
    cases h
    exact .none
  · have hround := h
    unfold PeFile.exportAt at hround
    rw [readU32_eq_ok_iff.mpr (hrvas.of_getElem? hrva), ok_bind, if_neg hused] at hround
    obtain ⟨sum, hsum, hround⟩ := bind_eq_ok_iff.mp hround
    obtain ⟨forwarder, hforwarder, _⟩ := bind_eq_ok_iff.mp hround
    have hordinal : exports.base.toNat + i < 2 ^ 32 := by
      have hlt := (Profile.add32_eq_ok_iff.mp hsum).1 rfl
      rw [UInt32.toNat_ofNat', Nat.mod_eq_of_lt hi] at hlt
      omega
    rw [exportAt_eq hrvas hrva hused (fun _ => hordinal) hforwarder] at h
    cases h
    rw [Option.guard, if_pos (by simpa using hused)]
    exact .some ⟨rfl, rfl, rfl, decodes_of_forwarderOf hforwarder⟩

/-- What the loop over the address table returns. -/
theorem decodes_of_exportsAt {exports : Exports} {dir_rva dir_size : UInt32} {addr_offset : Nat}
    {values : List (Option ExportEntry)} (hrvas : ItemsAt pe.raw_bytes 4 ofUInt32 addr_offset exports.rvas)
    (hlength : exports.rvas.length < 2 ^ 32)
    (h : (List.range exports.rvas.length).mapM
      (pe.exportAt .dev dir_rva dir_size exports.base addr_offset (nameMap exports.names)) = .ok values) :
    List.Forall₂ ((pe.reading .dev .PE32Plus).Decodes exports dir_rva dir_size) exports.slots
      (values.filterMap id) := by
  rw [range_length_eq, List.mapM_map, mapM_eq_ok_iff] at h
  have hmem : ∀ slot ∈ exports.rvas.zipIdx, exports.rvas[slot.2]? = some slot.1 := fun _ hslot =>
    List.mem_zipIdx_iff_getElem?.mp hslot
  have hpairs : List.Forall₂ (fun slot value => Option.Rel
      ((pe.reading .dev .PE32Plus).Decodes exports dir_rva dir_size) (Option.guard (fun slot => slot.1 ≠ 0) slot) value)
      exports.rvas.zipIdx values := by
    refine ((List.forall₂_and_left _ _).mpr ⟨hmem, h⟩).imp fun slot value hslot => ?_
    have hi := (List.getElem?_eq_some_iff.mp hslot.1).1
    exact decodes_of_exportAt hrvas hslot.1 (Nat.lt_trans hi hlength) hslot.2
  unfold Exports.slots
  rw [← List.filterMap_eq_filter]
  exact List.rel_filterMap (fun _ _ hrel => hrel) hpairs

/-- A loop over the names that returns has read names that stand in the file. -/
theorem namesAt_of_insertNames {name_offset ordinal_offset first count : Nat} {start name_map : NameMap}
    (h : (List.range' first count).foldlM (pe.insertName .dev name_offset ordinal_offset) start = .ok name_map) :
    ∃ names, names.length = count ∧
      (pe.reading .dev .PE32Plus).NamesAt (name_offset + first * 4) (ordinal_offset + first * 2) names ∧
      name_map = nameMap names ++ start := by
  induction count generalizing first start with
  | zero =>
    cases h
    exact ⟨[], rfl, ⟨[], trivial, .nil, trivial⟩, rfl⟩
  | succ count ih =>
    rw [List.range'_succ, List.foldlM_cons] at h
    obtain ⟨next, hnext, hrest⟩ := bind_eq_ok_iff.mp h
    obtain ⟨pointer, hpointer, hnext⟩ := bind_eq_ok_iff.mp hnext
    obtain ⟨offset, hoffset, hnext⟩ := bind_eq_ok_iff.mp hnext
    obtain ⟨name, hname, hnext⟩ := bind_eq_ok_iff.mp hnext
    obtain ⟨slot, hslot, hnext⟩ := bind_eq_ok_iff.mp hnext
    cases hnext
    obtain ⟨names, hlength, ⟨pointers, hpointers, htexts, hslots⟩, rfl⟩ := ih hrest
    rw [Nat.succ_mul, ← Nat.add_assoc] at hpointers hslots
    refine ⟨(name, slot) :: names, by rw [List.length_cons, hlength], ⟨pointer :: pointers,
      ⟨readU32_eq_ok_iff.mp hpointer, hpointers⟩, .cons ⟨offset, located_of_offsetOr hoffset, hname⟩ htexts,
      ⟨readU16_eq_ok_iff.mp hslot, hslots⟩⟩, ?_⟩
    simp [nameMap]

/-- A loop over the address table that returns has read its addresses. -/
theorem itemsAt_of_exportsAt {dir_rva dir_size base : UInt32} {addr_offset first count : Nat} {name_map : NameMap}
    {values : List (Option ExportEntry)}
    (h : (List.range' first count).mapM (pe.exportAt .dev dir_rva dir_size base addr_offset name_map) = .ok values) :
    ∃ rvas, rvas.length = count ∧ ItemsAt pe.raw_bytes 4 ofUInt32 (addr_offset + first * 4) rvas := by
  induction count generalizing first values with
  | zero => exact ⟨[], rfl, trivial⟩
  | succ count ih =>
    rw [List.range'_succ, List.mapM_cons] at h
    obtain ⟨value, hvalue, h⟩ := bind_eq_ok_iff.mp h
    obtain ⟨later, hlater, _⟩ := bind_eq_ok_iff.mp h
    obtain ⟨rva, hrva, _⟩ := bind_eq_ok_iff.mp hvalue
    obtain ⟨rvas, hlength, hrvas⟩ := ih hlater
    rw [Nat.succ_mul, ← Nat.add_assoc] at hrvas
    exact ⟨rva :: rvas, by rw [List.length_cons, hlength], readU32_eq_ok_iff.mp hrva, hrvas⟩

/-- The words that are read of an export directory stand in the file. -/
theorem exportDirectory_holdsAt {bytes : List UInt8} {offset : Nat} {directory : ExportDirectory}
    (hbase : readU32 bytes (offset + 16) = .ok directory.base)
    (hfuncs : readU32 bytes (offset + 20) = .ok directory.num_funcs)
    (hnames : readU32 bytes (offset + 24) = .ok directory.num_names)
    (haddr : readU32 bytes (offset + 28) = .ok directory.addr_table_rva)
    (hname : readU32 bytes (offset + 32) = .ok directory.name_table_rva)
    (hordinal : readU32 bytes (offset + 36) = .ok directory.ordinal_table_rva) :
    HoldsAt bytes (offset + 16) directory.encode := by
  simp only [ExportDirectory.encode, holdsAt_append, List.length_append, length_ofUInt32]
  exact ⟨⟨⟨⟨⟨readU32_eq_ok_iff.mp hbase, readU32_eq_ok_iff.mp hfuncs⟩, readU32_eq_ok_iff.mp hnames⟩,
    readU32_eq_ok_iff.mp haddr⟩, readU32_eq_ok_iff.mp hname⟩, readU32_eq_ok_iff.mp hordinal⟩

/-- Exports that are returned are those of the directory behind the 64-bit
    layout. -/
theorem exportEntries_of_get_exports {entries : List ExportEntry} (h : pe.get_exports .dev = .ok entries) :
    (pe.reading .dev .PE32Plus).ExportEntries entries := by
  unfold PeFile.get_exports at h
  obtain ⟨⟨dir_rva, dir_size⟩, hentry, h⟩ := bind_eq_ok_iff.mp h
  have hdirectory := get_data_directory_eq_ok_iff.mp hentry
  simp only at h
  split at h
  · rename_i hempty
    exact ⟨dir_rva, dir_size, hdirectory, .inl ⟨hempty, (Except.ok.inj h).symm⟩⟩
  rename_i hpresent
  obtain ⟨dir_offset, hdir, h⟩ := bind_eq_ok_iff.mp h
  obtain ⟨base, hbase, h⟩ := bind_eq_ok_iff.mp h
  obtain ⟨num_funcs, hfuncs, h⟩ := bind_eq_ok_iff.mp h
  obtain ⟨num_names, hnames, h⟩ := bind_eq_ok_iff.mp h
  obtain ⟨addr_table_rva, haddr, h⟩ := bind_eq_ok_iff.mp h
  obtain ⟨name_table_rva, hname, h⟩ := bind_eq_ok_iff.mp h
  obtain ⟨ordinal_table_rva, hordinal, h⟩ := bind_eq_ok_iff.mp h
  obtain ⟨addr_offset, haddr_offset, h⟩ := bind_eq_ok_iff.mp h
  obtain ⟨name_offset, hname_offset, h⟩ := bind_eq_ok_iff.mp h
  obtain ⟨ordinal_offset, hordinal_offset, h⟩ := bind_eq_ok_iff.mp h
  obtain ⟨name_map, hname_map, h⟩ := bind_eq_ok_iff.mp h
  obtain ⟨values, hvalues, h⟩ := bind_eq_ok_iff.mp h
  cases h
  have hname_loop := hname_map
  have haddr_loop := hvalues
  rw [List.range_eq_range'] at hname_loop haddr_loop
  obtain ⟨names, hnames_length, hnames_at, rfl⟩ := namesAt_of_insertNames hname_loop
  obtain ⟨rvas, hrvas_length, hrvas⟩ := itemsAt_of_exportsAt haddr_loop
  simp only [Nat.zero_mul, Nat.add_zero] at hrvas hnames_at
  rw [List.append_nil, ← hrvas_length] at hvalues
  have hentries := @decodes_of_exportsAt pe ⟨base, rvas, names⟩ dir_rva dir_size addr_offset values hrvas
    (by rw [hrvas_length]; exact num_funcs.toNat_lt) hvalues
  refine ⟨dir_rva, dir_size, hdirectory, .inr ⟨hpresent, dir_offset, ⟨base, rvas, names⟩, located_of_offsetOr hdir,
    ⟨⟨base, num_funcs, num_names, addr_table_rva, name_table_rva, ordinal_table_rva⟩,
      exportDirectory_holdsAt hbase hfuncs hnames haddr hname hordinal, rfl, hrvas_length.symm, hnames_length.symm,
      addr_offset, name_offset, ordinal_offset, located_of_offsetOr haddr_offset, located_of_offsetOr hname_offset,
      located_of_offsetOr hordinal_offset, (Reading.itemsAt_iff rfl).mpr hrvas, hnames_at⟩, hentries⟩⟩

theorem forwarder_unique {dir_rva dir_size rva : UInt32} {first second : Option String}
    (hfirst : (pe.reading .dev .PE32Plus).ForwarderAt dir_rva dir_size rva first ∨
      ((∀ offset, ¬ (pe.reading .dev .PE32Plus).Located rva.toNat offset) ∧ first = none))
    (hsecond : (pe.reading .dev .PE32Plus).ForwarderAt dir_rva dir_size rva second ∨
      ((∀ offset, ¬ (pe.reading .dev .PE32Plus).Located rva.toNat offset) ∧ second = none)) : first = second := by
  unfold Reading.ForwarderAt at hfirst hsecond
  by_cases hin : InDirectory dir_rva dir_size rva
  · rw [if_pos hin] at hfirst hsecond
    rcases hfirst with ⟨offset, text, hlocated, htext, rfl⟩ | ⟨hmissing, rfl⟩
    · rcases hsecond with ⟨other, text', hlocated', htext', rfl⟩ | ⟨hmissing, rfl⟩
      · simp only [PeFile.reading] at hlocated hlocated' htext htext'
        rw [hlocated] at hlocated'
        cases hlocated'
        rw [htext] at htext'
        cases htext'
        rfl
      · exact absurd hlocated (hmissing offset)
    · rcases hsecond with ⟨other, text', hlocated', _⟩ | ⟨_, rfl⟩
      · exact absurd hlocated' (hmissing other)
      · rfl
  · rw [if_neg hin] at hfirst hsecond
    rcases hfirst with rfl | ⟨_, rfl⟩ <;> rcases hsecond with rfl | ⟨_, rfl⟩ <;> rfl

theorem decodes_rightUnique (exports : Exports) (dir_rva dir_size : UInt32) :
    Relator.RightUnique ((pe.reading .dev .PE32Plus).Decodes exports dir_rva dir_size) := by
  rintro slot ⟨name, rva, ordinal, forwarder⟩ ⟨name', rva', ordinal', forwarder'⟩ hfirst hsecond
  have hname : name = name' := hfirst.name.trans hsecond.name.symm
  have hrva : rva = rva' := hfirst.rva.trans hsecond.rva.symm
  have hordinal : ordinal = ordinal' := hfirst.ordinal.trans hsecond.ordinal.symm
  have hforwarder : forwarder = forwarder' := forwarder_unique hfirst.forwarder hsecond.forwarder
  rw [hname, hrva, hordinal, hforwarder]

/-- An export reader that survives returns the entries that the directory behind
    the 64-bit layout stands for. -/
theorem get_exports_of_exportEntries {entries : List ExportEntry}
    (h : (pe.reading .dev .PE32Plus).ExportEntries entries) (hsurvives : Survives (pe.get_exports .dev)) :
    pe.get_exports .dev = .ok entries := by
  obtain ⟨dir_rva, dir_size, hdirectory, ⟨rfl, rfl⟩ | ⟨hpresent, offset, exports, hlocated, hexports, hentries⟩⟩ := h
  · unfold PeFile.get_exports
    rw [get_data_directory_eq_ok_iff.mpr hdirectory, ok_bind]
    rfl
  · have hlength := hexports.length_lt
    obtain ⟨addr_offset, hrvas, hread⟩ :=
      get_exports_of_exportsAt (Reading.Le.refl _) hdirectory hpresent hlocated hexports
    rw [hread] at hsurvives ⊢
    have hslots : ∀ i ∈ List.range exports.rvas.length, i < 2 ^ 32 := fun i hi =>
      Nat.lt_trans (List.mem_range.mp hi) hlength
    have hrounds := (survives_mapM_iff fun i hi => exportAt_returns (hslots i hi)).mp
      (survives_bind_pure_iff.mp hsurvives)
    obtain ⟨values, hvalues, _⟩ := mapM_of_forall fun i hi =>
      (exportAt_returns (hslots i hi) (hrounds i hi)).imp fun value hvalue => And.intro hvalue hvalue
    rw [hvalues, ok_bind]
    have hreturned := decodes_of_exportsAt hrvas hlength hvalues
    exact congrArg Except.ok ((decodes_rightUnique exports dir_rva dir_size).forall₂ hreturned hentries)

end Exports

end vwfl.pe
