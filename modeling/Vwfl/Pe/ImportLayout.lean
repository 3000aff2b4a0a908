import Vwfl.Pe.Crate
import Vwfl.Pe.Imports
import Vwfl.Pe.Layout
import Vwfl.BitField

open Rust LittleEndian

namespace vwfl.pe

/-- What a library is asked for: a function by its ordinal or by its name. -/
inductive Symbol where
  | ordinal (number : UInt16)
  | name (text : String)
  deriving Repr, DecidableEq

def Symbol.label : Symbol → String
  | .ordinal number => "#" ++ toString number.toNat
  | .name text => text

/-- A library with the functions it is asked for and the table that receives
    their addresses. -/
structure Library where
  name : String
  symbols : List Symbol
  first_thunk : UInt32
  deriving Repr, DecidableEq

def Library.entry (magic : Magic) (library : Library) : ImportEntry where
  dll_name := library.name
  functions := library.symbols.mapIdx fun j symbol =>
    { name := symbol.label, iat_rva := UInt32.ofNat (library.first_thunk.toNat + magic.thunkSize * j) }

structure ImportDescriptor where
  original_first_thunk : UInt32
  time_date : UInt32
  forwarder_chain : UInt32
  name_rva : UInt32
  first_thunk : UInt32

namespace ImportDescriptor

def encode (descriptor : ImportDescriptor) : List UInt8 :=
  ofUInt32 descriptor.original_first_thunk ++ ofUInt32 descriptor.time_date ++ ofUInt32 descriptor.forwarder_chain ++
    ofUInt32 descriptor.name_rva ++ ofUInt32 descriptor.first_thunk

def IsTerminator (descriptor : ImportDescriptor) : Prop :=
  descriptor.original_first_thunk = 0 ∧ descriptor.name_rva = 0

instance (descriptor : ImportDescriptor) : Decidable descriptor.IsTerminator := inferInstanceAs (Decidable (_ ∧ _))

/-- The table that names the functions: without a lookup table, the one that
    receives their addresses. -/
def lookup (descriptor : ImportDescriptor) : UInt32 :=
  if descriptor.original_first_thunk ≠ 0 then descriptor.original_first_thunk else descriptor.first_thunk

end ImportDescriptor

namespace Reading

variable (reading : Reading)

/-- A word of the lookup table stands for a function: with the top bit for the
    ordinal in its low half-word, without it for the name behind a hint. -/
def Imports (word : Nat) : Symbol → Prop
  | .ordinal number => 2 ^ (8 * reading.magic.thunkSize - 1) ≤ word ∧ word % 2 ^ 16 = number.toNat
  | .name text => word < 2 ^ (8 * reading.magic.thunkSize - 1) ∧
      ∃ offset, reading.Located (word % 2 ^ 31) offset ∧ reading.TextAt (offset + 2) text

def ThunkAt (rva word : Nat) : Prop :=
  word < 2 ^ (8 * reading.magic.thunkSize) ∧
    ∃ offset, reading.Located rva offset ∧
      reading.Holds offset (LittleEndian.bytes reading.magic.thunkSize word)

/-- A lookup table: one word for each function, then a zero word. -/
def ThunksAt : Nat → List Symbol → Prop
  | rva, [] => reading.ThunkAt rva 0
  | rva, symbol :: rest =>
    ∃ word, word ≠ 0 ∧ reading.ThunkAt rva word ∧ reading.Imports word symbol ∧
      ThunksAt (rva + reading.magic.thunkSize) rest

/-- A descriptor stands for a library. -/
def Describes (descriptor : ImportDescriptor) (library : Library) : Prop :=
  (∃ offset, reading.Located descriptor.name_rva.toNat offset ∧ reading.TextAt offset library.name) ∧
    reading.ThunksAt descriptor.lookup.toNat library.symbols ∧ descriptor.first_thunk = library.first_thunk

/-- A table of descriptors: one for each library, then the terminator. -/
def LibrariesAt : Nat → List Library → Prop
  | offset, [] =>
    ∃ descriptor : ImportDescriptor, reading.Holds offset descriptor.encode ∧ descriptor.IsTerminator
  | offset, library :: rest =>
    ∃ descriptor : ImportDescriptor, reading.Holds offset descriptor.encode ∧ ¬ descriptor.IsTerminator ∧
      reading.Describes descriptor library ∧ LibrariesAt (offset + 20) rest

/-- The import directory of a file. -/
def ImportDirectory (libraries : List Library) : Prop :=
  ∃ dir_rva dir_size, DirectoryAt reading.magic reading.bytes 1 dir_rva dir_size ∧
    ((dir_rva = 0 ∧ libraries = []) ∨
      (dir_rva ≠ 0 ∧ ∃ offset, reading.Located dir_rva.toNat offset ∧ reading.LibrariesAt offset libraries))

end Reading

section Mono

variable {first second : Reading}

theorem Reading.Imports.mono (hle : first.Le second) {word : Nat} {symbol : Symbol} (h : first.Imports word symbol) :
    second.Imports word symbol := by
  cases symbol with
  | ordinal number =>
    rw [Reading.Imports, ← hle.magic]
    exact h
  | name text =>
    obtain ⟨hword, offset, hlocated, htext⟩ := h
    rw [hle.magic] at hword
    exact ⟨hword, offset, hle.located hlocated, hle.text htext⟩

theorem Reading.ThunkAt.mono (hle : first.Le second) {rva word : Nat} (h : first.ThunkAt rva word) :
    second.ThunkAt rva word := by
  obtain ⟨hword, offset, hlocated, hholds⟩ := h
  rw [hle.magic] at hword hholds
  exact ⟨hword, offset, hle.located hlocated, hle.holds hholds⟩

theorem Reading.ThunksAt.mono (hle : first.Le second) {rva : Nat} {symbols : List Symbol}
    (h : first.ThunksAt rva symbols) : second.ThunksAt rva symbols := by
  induction symbols generalizing rva with
  | nil => exact Reading.ThunkAt.mono hle h
  | cons symbol rest ih =>
    obtain ⟨word, hword, hthunk, himports, hrest⟩ := h
    refine ⟨word, hword, hthunk.mono hle, himports.mono hle, ?_⟩
    rw [← hle.magic]
    exact ih hrest

theorem Reading.Describes.mono (hle : first.Le second) {descriptor : ImportDescriptor} {library : Library}
    (h : first.Describes descriptor library) : second.Describes descriptor library := by
  obtain ⟨⟨offset, hlocated, htext⟩, hthunks, hfirst⟩ := h
  exact ⟨⟨offset, hle.located hlocated, hle.text htext⟩, hthunks.mono hle, hfirst⟩

theorem Reading.LibrariesAt.mono (hle : first.Le second) {offset : Nat} {libraries : List Library}
    (h : first.LibrariesAt offset libraries) : second.LibrariesAt offset libraries := by
  induction libraries generalizing offset with
  | nil =>
    obtain ⟨descriptor, hholds, hlast⟩ := h
    exact ⟨descriptor, hle.holds hholds, hlast⟩
  | cons library rest ih =>
    obtain ⟨descriptor, hholds, hmore, hdescribes, hrest⟩ := h
    exact ⟨descriptor, hle.holds hholds, hmore, hdescribes.mono hle, ih hrest⟩

theorem Reading.ImportDirectory.mono (hle : first.Le second) {libraries : List Library}
    (h : first.ImportDirectory libraries) : second.ImportDirectory libraries := by
  obtain ⟨dir_rva, dir_size, hentry, htables⟩ := h
  rw [hle.magic, hle.bytes] at hentry
  refine ⟨dir_rva, dir_size, hentry, htables.imp_right ?_⟩
  rintro ⟨hpresent, offset, hlocated, hlibraries⟩
  exact ⟨hpresent, offset, hle.located hlocated, hlibraries.mono hle⟩

end Mono

private theorem toUInt64_bytes {word : Nat} (h : word < 2 ^ 64) : bytes 8 word = ofUInt64 (UInt64.ofNat word) := by
  rw [ofUInt64, UInt64.toNat_ofNat_of_lt' h]

private theorem add32_eight (profile : Profile) {rva : Nat} (h : rva + 8 < 2 ^ 32) :
    profile.add32 (UInt32.ofNat rva) 8 = .ok (UInt32.ofNat (rva + 8)) := by
  have hrva : (UInt32.ofNat rva).toNat = rva := UInt32.toNat_ofNat_of_lt' (Nat.lt_of_add_right_lt h)
  rw [profile.add32_of_lt (by rw [hrva]; exact h), UInt32.ofNat_add]
  rfl

/-- The top bit of a word tells ordinals from names. -/
theorem topBit_eq_zero_iff (word : UInt64) : word &&& ((1 : UInt64) <<< 63) = 0 ↔ word.toNat < 2 ^ 63 := by
  have hmask : ((1 : UInt64) <<< 63).toNat = (2 ^ 1 - 1) * 2 ^ 63 := by decide
  have hfield := BitField.toNat_and_field word _ 63 1 hmask
  have hlt := word.toNat_lt
  rw [← UInt64.toNat_inj, hfield, UInt64.toNat_zero]
  omega

theorem thunkName_eq {profile : Profile} {pe : PeFile} {word : Nat} {symbol : Symbol} (hword : word < 2 ^ 64)
    (h : (pe.reading profile .PE32Plus).Imports word symbol) :
    pe.thunkName profile (UInt64.ofNat word) = .ok symbol.label := by
  have hnat : (UInt64.ofNat word).toNat = word := UInt64.toNat_ofNat_of_lt' hword
  unfold PeFile.thunkName
  cases symbol with
  | ordinal number =>
    obtain ⟨htop, hnumber⟩ := h
    have hflag : UInt64.ofNat word &&& ((1 : UInt64) <<< 63) ≠ 0 := by
      rw [Ne, topBit_eq_zero_iff, hnat]
      exact Nat.not_lt.mpr htop
    rw [if_pos hflag, BitField.toNat_and_low _ _ 16 rfl, hnat, hnumber]
    rfl
  | name text =>
    obtain ⟨htop, offset, hlocated, htext⟩ := h
    have hflag : ¬ UInt64.ofNat word &&& ((1 : UInt64) <<< 63) ≠ 0 := by
      rw [not_not, topBit_eq_zero_iff, hnat]
      exact htop
    have hrva : (UInt64.ofNat word &&& 0x7FFFFFFF).toUInt32 = UInt32.ofNat (word % 2 ^ 31) := by
      apply UInt32.toNat.inj
      rw [UInt64.toNat_toUInt32, BitField.toNat_and_low _ _ 31 rfl, hnat, UInt32.toNat_ofNat']
    rw [if_neg hflag]
    simp only [hrva, offsetOr_eq_ok_iff.mpr hlocated, ok_bind]
    exact htext

/-- One round of the loop over a lookup table. -/
theorem thunkLoop_of_word {profile : Profile} {pe : PeFile} {fuel rva word : Nat} {iat_rva : UInt32}
    (h : (pe.reading profile .PE32Plus).ThunkAt rva word) (hnonzero : word ≠ 0) :
    pe.thunkLoop profile (fuel + 1) (UInt32.ofNat rva) iat_rva =
      (pe.thunkName profile (UInt64.ofNat word) >>= fun name => profile.add32 (UInt32.ofNat rva) 8 >>= fun next_thunk =>
        profile.add32 iat_rva 8 >>= fun next_iat => pe.thunkLoop profile fuel next_thunk next_iat >>= fun functions =>
          return { name, iat_rva } :: functions) := by
  obtain ⟨hlt, offset, hlocated, hholds⟩ := h
  have hholds : HoldsAt pe.raw_bytes offset (ofUInt64 (UInt64.ofNat word)) := toUInt64_bytes hlt ▸ hholds
  have hzero : UInt64.ofNat word ≠ 0 := by
    rw [Ne, ← UInt64.toNat_inj, UInt64.toNat_ofNat_of_lt' hlt]
    exact hnonzero
  rw [PeFile.thunkLoop, offsetOr_eq_ok_iff.mpr hlocated, ok_bind, readU64_eq_ok_iff.mpr hholds, ok_bind,
    if_neg hzero]

theorem thunkLoop_of_zero {profile : Profile} {pe : PeFile} {fuel rva : Nat} {iat_rva : UInt32}
    (h : (pe.reading profile .PE32Plus).ThunkAt rva 0) :
    pe.thunkLoop profile (fuel + 1) (UInt32.ofNat rva) iat_rva = .ok [] := by
  obtain ⟨_, offset, hlocated, hholds⟩ := h
  rw [PeFile.thunkLoop, offsetOr_eq_ok_iff.mpr hlocated, ok_bind,
    readU64_eq_ok_iff.mpr (show HoldsAt pe.raw_bytes offset (ofUInt64 0) from hholds), ok_bind, if_pos rfl]
  rfl

/-- A round for a word that stands for a function. -/
theorem thunkLoop_of_thunkAt {profile : Profile} {pe : PeFile} {fuel rva word : Nat} {iat_rva : UInt32}
    {symbol : Symbol} (h : (pe.reading profile .PE32Plus).ThunkAt rva word) (hnonzero : word ≠ 0)
    (himports : (pe.reading profile .PE32Plus).Imports word symbol) :
    pe.thunkLoop profile (fuel + 1) (UInt32.ofNat rva) iat_rva =
      (profile.add32 (UInt32.ofNat rva) 8 >>= fun next_thunk => profile.add32 iat_rva 8 >>= fun next_iat =>
        pe.thunkLoop profile fuel next_thunk next_iat >>= fun functions =>
          return { name := symbol.label, iat_rva } :: functions) := by
  rw [thunkLoop_of_word h hnonzero, thunkName_eq h.1 himports, ok_bind]

/-- The loop over a lookup table that stays in the address range. -/
theorem thunkLoop_eq {profile : Profile} {pe : PeFile} {symbols : List Symbol} {fuel rva iat_rva : Nat}
    (h : (pe.reading profile .PE32Plus).ThunksAt rva symbols) (hrva : rva + 8 * symbols.length < 2 ^ 32)
    (hiat : iat_rva + 8 * symbols.length < 2 ^ 32) (hfuel : symbols.length < fuel) :
    pe.thunkLoop profile fuel (UInt32.ofNat rva) (UInt32.ofNat iat_rva) =
      .ok (symbols.mapIdx fun j symbol => { name := symbol.label, iat_rva := UInt32.ofNat (iat_rva + 8 * j) }) := by
  induction symbols generalizing fuel rva iat_rva with
  | nil =>
    obtain ⟨fuel, rfl⟩ := Nat.exists_eq_succ_of_ne_zero (show fuel ≠ 0 by omega)
    exact thunkLoop_of_zero h
  | cons symbol rest ih =>
    obtain ⟨fuel, rfl⟩ := Nat.exists_eq_succ_of_ne_zero (show fuel ≠ 0 by omega)
    obtain ⟨word, hnonzero, hthunk, himports, hrest⟩ := h
    rw [List.length_cons] at hrva hiat hfuel
    have hloop := @ih fuel (rva + 8) (iat_rva + 8) hrest (by omega) (by omega) (by omega)
    rw [thunkLoop_of_thunkAt hthunk hnonzero himports, add32_eight profile (show rva + 8 < 2 ^ 32 by omega), ok_bind,
      add32_eight profile (show iat_rva + 8 < 2 ^ 32 by omega), ok_bind, hloop, ok_bind, List.mapIdx_cons]
    simp only [Nat.mul_succ, Nat.mul_zero, Nat.add_zero, Nat.add_assoc, Nat.add_comm 8]
    rfl

theorem Reading.ThunksAt.last {reading : Reading} {rva : Nat} {symbols : List Symbol}
    (h : reading.ThunksAt rva symbols) :
    ∃ offset, reading.Located (rva + reading.magic.thunkSize * symbols.length) offset := by
  induction symbols generalizing rva with
  | nil =>
    obtain ⟨_, offset, hlocated, _⟩ := h
    exact ⟨offset, hlocated⟩
  | cons symbol rest ih =>
    obtain ⟨_, _, _, _, hrest⟩ := h
    rw [List.length_cons, Nat.mul_succ, Nat.add_comm (reading.magic.thunkSize * _), ← Nat.add_assoc]
    exact ih hrest

/-- A table of descriptors takes twenty bytes of the file for each library. -/
theorem Reading.LibrariesAt.length_le {reading : Reading} (hfile : reading.Holds = HoldsAt reading.bytes) {offset : Nat}
    {libraries : List Library} (h : reading.LibrariesAt offset libraries) :
    offset + 20 * libraries.length ≤ reading.bytes.length := by
  induction libraries generalizing offset with
  | nil =>
    obtain ⟨descriptor, hholds, _⟩ := h
    rw [hfile] at hholds
    have hinside := hholds.inside
    rw [List.length_nil]
    omega
  | cons library rest ih =>
    obtain ⟨_, _, _, _, hrest⟩ := h
    have hinside := ih hrest
    rw [List.length_cons]
    omega

/-- The words of a descriptor. -/
theorem readDescriptor {bytes : List UInt8} {offset : Nat} {descriptor : ImportDescriptor}
    (h : HoldsAt bytes offset descriptor.encode) :
    readU32 bytes offset = .ok descriptor.original_first_thunk ∧
      readU32 bytes (offset + 4) = .ok descriptor.time_date ∧
      readU32 bytes (offset + 8) = .ok descriptor.forwarder_chain ∧
      readU32 bytes (offset + 12) = .ok descriptor.name_rva ∧
      readU32 bytes (offset + 16) = .ok descriptor.first_thunk := by
  simp only [ImportDescriptor.encode, holdsAt_append, List.length_append, length_ofUInt32] at h
  obtain ⟨⟨⟨⟨horiginal, htime⟩, hchain⟩, hname⟩, hfirst⟩ := h
  exact ⟨readU32_eq_ok_iff.mpr horiginal, readU32_eq_ok_iff.mpr htime, readU32_eq_ok_iff.mpr hchain,
    readU32_eq_ok_iff.mpr hname, readU32_eq_ok_iff.mpr hfirst⟩

/-- One round of the loop over the descriptors. -/
theorem descriptorLoop_of_holdsAt {profile : Profile} {pe : PeFile} {fuel offset : Nat} {descriptor : ImportDescriptor}
    (hholds : HoldsAt pe.raw_bytes offset descriptor.encode) :
    pe.descriptorLoop profile (fuel + 1) offset =
      if descriptor.IsTerminator then .ok []
      else do
        let dll_name_offset ← pe.offsetOr profile descriptor.name_rva "Invalid Import Name RVA"
        let dll_name ← pe.read_cstring dll_name_offset
        let functions ← pe.thunkLoop profile THUNK_ROUNDS descriptor.lookup descriptor.first_thunk
        let imports ← pe.descriptorLoop profile fuel (offset + 20)
        return { dll_name, functions } :: imports := by
  obtain ⟨horiginal, htime, hchain, hname, hfirst_thunk⟩ := readDescriptor hholds
  rw [PeFile.descriptorLoop, horiginal, ok_bind, htime, ok_bind, hchain, ok_bind, hname, ok_bind, hfirst_thunk, ok_bind]
  rfl

/-- A library whose tables stay in the address range. -/
def InRange (descriptor : ImportDescriptor) (library : Library) : Prop :=
  descriptor.lookup.toNat + 8 * library.symbols.length < 2 ^ 32 ∧
    library.first_thunk.toNat + 8 * library.symbols.length < 2 ^ 32

theorem thunkLoop_of_describes {profile : Profile} {pe : PeFile} {descriptor : ImportDescriptor} {library : Library}
    (h : (pe.reading profile .PE32Plus).Describes descriptor library) (hrange : InRange descriptor library) :
    pe.thunkLoop profile THUNK_ROUNDS descriptor.lookup descriptor.first_thunk =
      .ok (library.entry .PE32Plus).functions := by
  obtain ⟨_, hthunks, hfirst⟩ := h
  have hrounds : library.symbols.length < THUNK_ROUNDS := by
    have hlt := hrange.1
    unfold THUNK_ROUNDS
    omega
  have hloop := thunkLoop_eq hthunks hrange.1 hrange.2 hrounds
  simp only [UInt32.ofNat_toNat] at hloop
  rw [hfirst]
  exact hloop

/-- The libraries of a table are read one after the other, when the reader
    locates and spells whatever the table says. -/
theorem descriptorLoop_eq {profile : Profile} {pe : PeFile} {reading : Reading}
    (hle : reading.Le (pe.reading profile .PE32Plus)) {libraries : List Library} {fuel offset : Nat}
    (h : reading.LibrariesAt offset libraries)
    (hrange : ∀ descriptor, ∀ library ∈ libraries, reading.Describes descriptor library → InRange descriptor library)
    (hfuel : libraries.length < fuel) :
    pe.descriptorLoop profile fuel offset = .ok (libraries.map (Library.entry .PE32Plus)) := by
  induction libraries generalizing fuel offset with
  | nil =>
    obtain ⟨fuel, rfl⟩ := Nat.exists_eq_succ_of_ne_zero (show fuel ≠ 0 by omega)
    obtain ⟨descriptor, hholds, hterminator⟩ := h
    rw [descriptorLoop_of_holdsAt (hle.holds hholds), if_pos hterminator]
    rfl
  | cons library rest ih =>
    obtain ⟨fuel, rfl⟩ := Nat.exists_eq_succ_of_ne_zero (show fuel ≠ 0 by omega)
    obtain ⟨descriptor, hholds, hmore, hdescribes, hrest⟩ := h
    have hloop := thunkLoop_of_describes (hdescribes.mono hle)
      (hrange descriptor library List.mem_cons_self hdescribes)
    obtain ⟨⟨name_offset, hlocated, htext⟩, _, _⟩ := hdescribes.mono hle
    simp only [PeFile.reading, UInt32.ofNat_toNat] at hlocated htext
    have hlater := ih hrest (fun descriptor later hlater => hrange descriptor later (List.mem_cons_of_mem _ hlater))
      (Nat.lt_of_succ_lt_succ hfuel)
    rw [descriptorLoop_of_holdsAt (hle.holds hholds), if_neg hmore, offsetOr_eq_ok_iff.mpr hlocated, ok_bind, htext,
      ok_bind, hloop, ok_bind, hlater, ok_bind]
    rfl

end vwfl.pe
