import Vwfl.Pe.Table
import Vwfl.Rust.Utf8Text

open Rust LittleEndian

namespace vwfl.pe

/-- The two layouts of the optional header, told apart by its magic. -/
inductive Magic where
  | PE32
  | PE32Plus
  deriving Repr, DecidableEq

namespace Magic

def value : Magic → UInt16
  | PE32 => 0x10B
  | PE32Plus => 0x20B

/-- The offset of the data directories in the optional header. -/
def directories : Magic → Nat
  | PE32 => 96
  | PE32Plus => 112

/-- The bytes of a word of the import lookup table. -/
def thunkSize : Magic → Nat
  | PE32 => 4
  | PE32Plus => 8

end Magic

/-- The entry of a data directory. -/
def DirectoryAt (magic : Magic) (bytes : List UInt8) (index : Nat) (rva size : UInt32) : Prop :=
  ∃ e_lfanew : UInt32, HoldsAt bytes 0x3C (ofUInt32 e_lfanew) ∧
    HoldsAt bytes (e_lfanew.toNat + 24 + magic.directories + index * 8) (ofUInt32 rva ++ ofUInt32 size)

/-- A text with its zero byte, in UTF-8. -/
def Utf8At (bytes : List UInt8) (offset : Nat) (text : String) : Prop :=
  '\x00' ∉ text.toList ∧ HoldsAt bytes offset (as_bytes text ++ [0])

/-- The text of the bytes in front of a zero byte. -/
def CStringAt (bytes : List UInt8) (offset : Nat) (text : String) : Prop :=
  ∃ content, 0 ∉ content ∧ HoldsAt bytes offset (content ++ [0]) ∧ text = from_utf8_lossy content

/-- How the tables of an image are read: its layout and the file with its headers,
    the places of addresses, and the bytes and texts at places. -/
structure Reading where
  magic : Magic
  bytes : List UInt8
  Located : Nat → Nat → Prop
  Holds : Nat → List UInt8 → Prop
  TextAt : Nat → String → Prop

/-- A table of items of a fixed width. -/
def Reading.ItemsAt (reading : Reading) {α : Type} (width : Nat) (encode : α → List UInt8) : Nat → List α → Prop
  | _, [] => True
  | place, item :: rest => reading.Holds place (encode item) ∧ reading.ItemsAt width encode (place + width) rest

/-- The reading of a parsed file through its own translation of addresses. -/
def PeFile.reading (pe : PeFile) (profile : Profile) (magic : Magic) : Reading where
  magic
  bytes := pe.raw_bytes
  Located rva offset := pe.rva_to_offset profile (UInt32.ofNat rva) = .ok (some offset)
  Holds := HoldsAt pe.raw_bytes
  TextAt offset text := pe.read_cstring offset = .ok text

/-- The tables in the file-backed parts of the sections. -/
def SectionTable.reading {bytes : List UInt8} (table : SectionTable bytes) (magic : Magic)
    (TextAt : List UInt8 → Nat → String → Prop) : Reading where
  magic
  bytes
  Located := FileBacked table.rows
  Holds := HoldsAt bytes
  TextAt := TextAt bytes

/-- Readings of a file place their items at its offsets. -/
theorem Reading.itemsAt_iff {reading : Reading} (hfile : reading.Holds = HoldsAt reading.bytes) {α : Type} {width : Nat}
    {encode : α → List UInt8} {place : Nat} {items : List α} :
    reading.ItemsAt width encode place items ↔ Rust.ItemsAt reading.bytes width encode place items := by
  induction items generalizing place with
  | nil => exact Iff.rfl
  | cons item rest ih => exact and_congr (by rw [hfile]) ih

/-- Two readings of the same bytes, where one locates and spells whatever the
    other does. -/
structure Reading.Le (first second : Reading) : Prop where
  magic : first.magic = second.magic
  bytes : first.bytes = second.bytes
  located : ∀ {rva offset}, first.Located rva offset → second.Located rva offset
  holds : ∀ {place item}, first.Holds place item → second.Holds place item
  text : ∀ {offset text}, first.TextAt offset text → second.TextAt offset text

theorem offsetOr_eq_ok_iff {profile : Profile} {pe : PeFile} {rva : UInt32} {message : String} {offset : Nat} :
    pe.offsetOr profile rva message = .ok offset ↔ pe.rva_to_offset profile rva = .ok (some offset) := by
  unfold PeFile.offsetOr
  rw [bind_eq_ok_iff]
  constructor
  · rintro ⟨found, htranslated, hfound⟩
    cases found with
    | none => cases hfound
    | some found =>
      cases hfound
      exact htranslated
  · intro h
    exact ⟨some offset, h, rfl⟩

theorem get_data_directory_eq_ok_iff {pe : PeFile} {index : Nat} {rva size : UInt32} :
    pe.get_data_directory index = .ok (rva, size) ↔ DirectoryAt .PE32Plus pe.raw_bytes index rva size := by
  unfold PeFile.get_data_directory
  constructor
  · intro h
    obtain ⟨e_lfanew, hlfanew, h⟩ := bind_eq_ok_iff.mp h
    refine ⟨e_lfanew, readU32_eq_ok_iff.mp hlfanew, ?_⟩
    dsimp only at h
    split at h
    · cases h
    · obtain ⟨_, hrva, h⟩ := bind_eq_ok_iff.mp h
      obtain ⟨_, hsize, h⟩ := bind_eq_ok_iff.mp h
      cases h
      rw [holdsAt_append, length_ofUInt32]
      exact ⟨readU32_eq_ok_iff.mp hrva, readU32_eq_ok_iff.mp hsize⟩
  · rintro ⟨e_lfanew, hlfanew, hentry⟩
    have hinside := hentry.inside
    rw [List.length_append, length_ofUInt32, length_ofUInt32] at hinside
    rw [holdsAt_append, length_ofUInt32] at hentry
    obtain ⟨hrva, hsize⟩ := hentry
    simp only [Magic.directories] at hinside hrva hsize
    simp only [readU32_eq_ok_iff.mpr hlfanew, ok_bind]
    rw [if_neg (by omega), readU32_eq_ok_iff.mpr hrva, ok_bind, readU32_eq_ok_iff.mpr hsize, ok_bind]
    rfl

/-- A text ends at the first zero byte. -/
theorem read_cstring_eq {pe : PeFile} {offset : Nat} {text : String} (h : CStringAt pe.raw_bytes offset text) :
    pe.read_cstring offset = .ok text := by
  obtain ⟨content, hzero, hholds, rfl⟩ := h
  obtain ⟨hcontent, hend⟩ := holdsAt_append.mp hholds
  have hdrop : pe.raw_bytes.drop offset = content ++ 0 :: (pe.raw_bytes.drop (offset + content.length)).drop 1 := by
    have hhead := hend.content
    rw [← List.take_append_drop content.length (pe.raw_bytes.drop offset), hcontent.content, List.drop_drop]
    congr 1
    rw [← List.take_append_drop 1 (pe.raw_bytes.drop (offset + content.length))]
    rw [show ([0] : List UInt8).length = 1 from rfl] at hhead
    rw [hhead]
    simp
  have hspelled : (pe.raw_bytes.drop offset).takeWhile (· != 0) = content := by
    rw [hdrop, List.takeWhile_append_of_pos, List.takeWhile_cons_of_neg (by simp), List.append_nil]
    intro byte hbyte
    rw [bne_iff_ne]
    rintro rfl
    exact hzero hbyte
  unfold PeFile.read_cstring
  simp only [hspelled, slice_eq_ok_iff.mpr ⟨rfl, hcontent⟩, ok_bind]
  rfl

theorem Utf8At.cstringAt {bytes : List UInt8} {offset : Nat} {text : String} (h : Utf8At bytes offset text) :
    CStringAt bytes offset text :=
  ⟨as_bytes text, zero_notMem_as_bytes h.1, h.2, (from_utf8_lossy_as_bytes text).symm⟩

end vwfl.pe
