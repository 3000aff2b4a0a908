import Vwfl.Pe.Crate

open Rust LittleEndian

namespace vwfl.pe

/-- A file that the parser accepts, with its PDB record. -/
structure Identified (object : ObjectCrate) (bytes : List UInt8) (pe : PeFile) (info : CodeView) : Prop where
  parsed : PeFile.from_bytes object bytes = .ok pe
  record : ∃ file, object bytes = some file ∧ file.pdb_info = some info

/-- The strings of two files are equal only for equal GUIDs and ages. -/
def IdentityUnambiguous (first second : PeFile) (info other : CodeView) : Prop :=
  first.pdb_guid_age = second.pdb_guid_age → info.guid = other.guid ∧ info.age = other.age

/-- What the format string takes of a record: the age and the first eleven
    bytes of the GUID. -/
def SameFields (info other : CodeView) : Prop :=
  info.age = other.age ∧ ∀ index : Fin 16, index.val < 11 → info.guid index = other.guid index

def SameTail (info other : CodeView) : Prop := ∀ index : Fin 16, 11 ≤ index.val → info.guid index = other.guid index

theorem length_upperHex {width value : Nat} (hwidth : 0 < width) (hvalue : value < 16 ^ width) :
    (upperHex width value).toList.length = width := by
  have hdigits := (Nat.length_toDigits_le_iff (show 1 < 16 by decide) hwidth).mpr hvalue
  simp only [upperHex, String.toList_ofList, List.length_append, List.length_replicate, List.length_map]
  omega

theorem hexValue_upperHex (width value : Nat) : hexValue (upperHex width value).toList = value := by
  unfold upperHex
  rw [String.toList_ofList, hexValue_replicate_append, hexValue_toDigits]

theorem upperHex_inj {width value other : Nat} (h : upperHex width value = upperHex width other) : value = other := by
  rw [← hexValue_upperHex width value, h, hexValue_upperHex]

/-- A byte in a field wide enough for it is told from what follows. -/
theorem upperHex_append_inj {width : Nat} {byte other : UInt8} {rest tail : String} (hwidth : 2 ≤ width)
    (h : upperHex width byte.toNat ++ rest = upperHex width other.toNat ++ tail) : byte = other ∧ rest = tail := by
  have hfits : ∀ value : UInt8, value.toNat < 16 ^ width := fun value =>
    Nat.lt_of_lt_of_le value.toNat_lt (Nat.pow_le_pow_right (show 0 < 16 by decide) hwidth)
  have hchars := congrArg String.toList h
  rw [String.toList_append, String.toList_append] at hchars
  have hlength : (upperHex width byte.toNat).toList.length = (upperHex width other.toNat).toList.length := by
    rw [length_upperHex (by omega) (hfits byte), length_upperHex (by omega) (hfits other)]
  obtain ⟨hfield, hrest⟩ := List.append_inj hchars hlength
  exact ⟨UInt8.toNat_inj.mp (upperHex_inj (String.toList_inj.mp hfield)), String.toList_inj.mp hrest⟩

/-- The string determines the age and the first eleven bytes, and nothing else
    goes into it. -/
theorem pdbGuidAge_eq_iff (info other : CodeView) : pdbGuidAge info = pdbGuidAge other ↔ SameFields info other := by
  constructor
  · intro h
    unfold pdbGuidAge at h
    simp only [String.append_assoc] at h
    obtain ⟨h0, h⟩ := upperHex_append_inj (by decide) h
    obtain ⟨h1, h⟩ := upperHex_append_inj (by decide) h
    obtain ⟨h2, h⟩ := upperHex_append_inj (by decide) h
    obtain ⟨h3, h⟩ := upperHex_append_inj (by decide) h
    obtain ⟨h4, h⟩ := upperHex_append_inj (by decide) h
    obtain ⟨h5, h⟩ := upperHex_append_inj (by decide) h
    obtain ⟨h6, h⟩ := upperHex_append_inj (by decide) h
    obtain ⟨h7, h⟩ := upperHex_append_inj (by decide) h
    obtain ⟨h8, h⟩ := upperHex_append_inj (by decide) h
    obtain ⟨h9, h⟩ := upperHex_append_inj (by decide) h
    obtain ⟨h10, h⟩ := upperHex_append_inj (by decide) h
    refine ⟨UInt32.toNat_inj.mp (upperHex_inj h), fun index hindex => ?_⟩
    fin_cases index <;> first | assumption | exact absurd hindex (by decide)
  · rintro ⟨hage, hguid⟩
    unfold pdbGuidAge
    rw [hage, hguid 0 (by decide), hguid 1 (by decide), hguid 2 (by decide), hguid 3 (by decide), hguid 4 (by decide),
      hguid 5 (by decide), hguid 6 (by decide), hguid 7 (by decide), hguid 8 (by decide), hguid 9 (by decide),
      hguid 10 (by decide)]

theorem Identified.pdb_guid_age {object : ObjectCrate} {bytes : List UInt8} {pe : PeFile} {info : CodeView}
    (h : Identified object bytes pe info) : pe.pdb_guid_age = pdbGuidAge info := by
  obtain ⟨hparsed, file, hfile, hinfo⟩ := h
  obtain ⟨found, hfound, hparsed⟩ := bind_eq_ok_iff.mp hparsed
  rw [hfile] at hfound
  cases hfound
  simp only [hinfo] at hparsed
  cases hformat : file.format with
  | Pe32 image_base | Pe64 image_base =>
    simp only [hformat] at hparsed
    obtain ⟨sections, _, hparsed⟩ := bind_eq_ok_iff.mp hparsed
    cases hparsed
    rfl
  | Other =>
    simp only [hformat] at hparsed
    cases hparsed

/-- The strings of two files identify their records exactly when records that
    agree in the age and the first eleven bytes of the GUID agree in the last
    five. -/
theorem identityUnambiguous_iff (object : ObjectCrate) (bytes otherBytes : List UInt8) (first second : PeFile)
    (info other : CodeView) (hfirst : Identified object bytes first info)
    (hsecond : Identified object otherBytes second other) :
    IdentityUnambiguous first second info other ↔ (SameFields info other → SameTail info other) := by
  unfold IdentityUnambiguous
  rw [hfirst.pdb_guid_age, hsecond.pdb_guid_age, pdbGuidAge_eq_iff]
  constructor
  · intro h hfields index _
    rw [(h hfields).1]
  · intro h hfields
    refine ⟨funext fun index => ?_, hfields.1⟩
    by_cases hindex : index.val < 11
    · exact hfields.2 index hindex
    · exact h hfields index (Nat.not_lt.mp hindex)

/-- Place of the CodeView record, in images whose debug directory has one entry
    and lies in their first section. -/
def codeViewOffset (bytes : List UInt8) : Result Nat := do
  let e_lfanew ← readU32 bytes 0x3C
  let nt_header := e_lfanew.toNat
  let opt_size ← readU16 bytes (nt_header + 20)
  let directory ← readU32 bytes (nt_header + 24 + 160)
  let row := nt_header + 24 + opt_size.toNat
  let virtual_address ← readU32 bytes (row + 12)
  let pointer_to_raw_data ← readU32 bytes (row + 20)
  let entry := pointer_to_raw_data.toNat + (directory.toNat - virtual_address.toNat)
  let typ ← readU32 bytes (entry + 12)
  let pointer ← readU32 bytes (entry + 24)
  let signature ← readU32 bytes pointer.toNat
  if typ = 2 ∧ signature = 0x53445352 then return pointer.toNat else throw (.err "No CodeView record")

def codeViewAt (bytes : List UInt8) (offset : Nat) : CodeView where
  guid index := (bytes[offset + 4 + index]?).getD 0
  path := (bytes.drop (offset + 24)).takeWhile (· != 0)
  age := toUInt32 ((bytes.drop (offset + 20)).take 4)

/-- The object crate on such images. -/
def signedCrate : ObjectCrate := fun bytes =>
  (peCrate bytes).map fun file => { file with pdb_info := (codeViewOffset bytes).toOption.map (codeViewAt bytes) }

/-- An image with one section, which holds a debug entry and its record. -/
def signedFile (guid : List UInt8) (age : UInt32) : List UInt8 :=
  splice (peImage 0x180000000 0 (0, 0) (0, 0)
      [⟨[0x2E, 0x72, 0x64, 0x61, 0x74, 0x61], 54, 0x1000, 54, 368⟩]
      (List.replicate 12 0 ++ ofUInt32 2 ++ ofUInt32 26 ++ ofUInt32 0x101C ++ ofUInt32 396 ++
        [0x52, 0x53, 0x44, 0x53] ++ guid ++ ofUInt32 age ++ [0x61, 0]))
    248 (ofUInt32 0x1000 ++ ofUInt32 28)

theorem exists_identified {bytes : List UInt8} (hparsed : (PeFile.from_bytes signedCrate bytes).toOption.isSome)
    (hoffset : codeViewOffset bytes = .ok 396) : ∃ pe, Identified signedCrate bytes pe (codeViewAt bytes 396) := by
  cases hfrom : PeFile.from_bytes signedCrate bytes with
  | error fault =>
    rw [hfrom] at hparsed
    cases hparsed
  | ok pe =>
    refine ⟨pe, hfrom, ?_⟩
    obtain ⟨file, hfile, _⟩ := bind_eq_ok_iff.mp hfrom
    have haccepted : signedCrate bytes = some file := by
      unfold ok_or at hfile
      split at hfile
      · cases hfile
        assumption
      · cases hfile
    refine ⟨file, haccepted, ?_⟩
    obtain ⟨plain, _, rfl⟩ := Option.map_eq_some_iff.mp haccepted
    simp only [hoffset]
    rfl

/-- The GUID of the two files below but for its last byte. -/
def guidFront : List UInt8 := [0x3D, 0x2A, 0x01, 0x10, 0xC4, 0x0B, 0x7F, 0x42, 0x91, 0x00, 0xE5, 0x33, 0x08, 0xAC, 0x5E]

/-- Two builds of one file differ in their age. -/
theorem identityUnambiguous_iff_age : ∃ first second,
    Identified signedCrate (signedFile (guidFront ++ [1]) 1) first (codeViewAt (signedFile (guidFront ++ [1]) 1) 396) ∧
      Identified signedCrate (signedFile (guidFront ++ [1]) 2) second
        (codeViewAt (signedFile (guidFront ++ [1]) 2) 396) ∧
      IdentityUnambiguous first second (codeViewAt (signedFile (guidFront ++ [1]) 1) 396)
        (codeViewAt (signedFile (guidFront ++ [1]) 2) 396) := by
  obtain ⟨first, hfirst⟩ := exists_identified (show (PeFile.from_bytes signedCrate
    (signedFile (guidFront ++ [1]) 1)).toOption.isSome by decide +kernel) (by decide +kernel)
  obtain ⟨second, hsecond⟩ := exists_identified (show (PeFile.from_bytes signedCrate
    (signedFile (guidFront ++ [1]) 2)).toOption.isSome by decide +kernel) (by decide +kernel)
  refine ⟨first, second, hfirst, hsecond, (identityUnambiguous_iff _ _ _ _ _ _ _ hfirst hsecond).mpr ?_⟩
  rintro ⟨hage, _⟩
  exact absurd hage (by decide +kernel)

/-- Two GUIDs that differ in the last byte give one string. -/
theorem not_identityUnambiguous_lastByte : ∃ first second,
    Identified signedCrate (signedFile (guidFront ++ [1]) 1) first (codeViewAt (signedFile (guidFront ++ [1]) 1) 396) ∧
      Identified signedCrate (signedFile (guidFront ++ [2]) 1) second
        (codeViewAt (signedFile (guidFront ++ [2]) 1) 396) ∧
      ¬ IdentityUnambiguous first second (codeViewAt (signedFile (guidFront ++ [1]) 1) 396)
        (codeViewAt (signedFile (guidFront ++ [2]) 1) 396) := by
  obtain ⟨first, hfirst⟩ := exists_identified (show (PeFile.from_bytes signedCrate
    (signedFile (guidFront ++ [1]) 1)).toOption.isSome by decide +kernel) (by decide +kernel)
  obtain ⟨second, hsecond⟩ := exists_identified (show (PeFile.from_bytes signedCrate
    (signedFile (guidFront ++ [2]) 1)).toOption.isSome by decide +kernel) (by decide +kernel)
  refine ⟨first, second, hfirst, hsecond, fun h => ?_⟩
  have hfields : SameFields (codeViewAt (signedFile (guidFront ++ [1]) 1) 396)
      (codeViewAt (signedFile (guidFront ++ [2]) 1) 396) := by
    unfold SameFields
    decide +kernel
  have hstrings : first.pdb_guid_age = second.pdb_guid_age := by
    rw [hfirst.pdb_guid_age, hsecond.pdb_guid_age, pdbGuidAge_eq_iff]
    exact hfields
  have hlast : (codeViewAt (signedFile (guidFront ++ [1]) 1) 396).guid 15 ≠
      (codeViewAt (signedFile (guidFront ++ [2]) 1) 396).guid 15 := by decide +kernel
  exact hlast (congrFun (h hstrings).1 15)

end vwfl.pe
