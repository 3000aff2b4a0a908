import Vwfl.Pe.ExportLayout
import Vwfl.Pe.ImportLayout
import Vwfl.Pe.Locate

open Rust LittleEndian

namespace vwfl.pe

section Exports

variable (pe : PeFile)

/-- The pointer, the text and the slot of a name lie in the file. -/
def PeFile.NameFits (name_offset ordinal_offset i : Nat) : Prop :=
  name_offset + i * 4 + 4 ≤ pe.raw_bytes.length ∧ pe.TranslationFits (u32At pe.raw_bytes (name_offset + i * 4)) ∧
    ∀ offset, pe.locate (u32At pe.raw_bytes (name_offset + i * 4)) = some offset →
      offset ≤ pe.raw_bytes.length ∧ ordinal_offset + i * 2 + 2 ≤ pe.raw_bytes.length

/-- A name whose text has no byte in the file, which ends the reader with an
    `Err`. -/
def PeFile.NameMissing (name_offset i : Nat) : Prop :=
  pe.locate (u32At pe.raw_bytes (name_offset + i * 4)) = none

/-- The address of a slot lies in the file, its ordinal and the end of the export
    directory stay below 2^32, and so does the text of a forwarder. -/
def PeFile.SlotFits (dir_rva dir_size base : UInt32) (addr_offset i : Nat) : Prop :=
  addr_offset + i * 4 + 4 ≤ pe.raw_bytes.length ∧
    (u32At pe.raw_bytes (addr_offset + i * 4) ≠ 0 → i + base.toNat < 2 ^ 32 ∧
      (dir_rva.toNat ≤ (u32At pe.raw_bytes (addr_offset + i * 4)).toNat → dir_rva.toNat + dir_size.toNat < 2 ^ 32) ∧
      (InDirectory dir_rva dir_size (u32At pe.raw_bytes (addr_offset + i * 4)) →
        pe.TranslationFits (u32At pe.raw_bytes (addr_offset + i * 4)) ∧
          ∀ offset, pe.locate (u32At pe.raw_bytes (addr_offset + i * 4)) = some offset → offset ≤ pe.raw_bytes.length))

/-- The words of the export directory at an offset. -/
def exportDirectoryAt (data : List UInt8) (dir_offset : Nat) : ExportDirectory where
  base := u32At data (dir_offset + 16)
  num_funcs := u32At data (dir_offset + 20)
  num_names := u32At data (dir_offset + 24)
  addr_table_rva := u32At data (dir_offset + 28)
  name_table_rva := u32At data (dir_offset + 32)
  ordinal_table_rva := u32At data (dir_offset + 36)

/-- The three tables of an export directory fit, as far as they are visited: a
    name without a text ends the reader, and slots come after all names. -/
def PeFile.ExportTablesFit (dir_rva dir_size : UInt32) (directory : ExportDirectory) : Prop :=
  pe.TranslationFits directory.addr_table_rva ∧ ∀ addr_offset, pe.locate directory.addr_table_rva = some addr_offset →
    pe.TranslationFits directory.name_table_rva ∧ ∀ name_offset, pe.locate directory.name_table_rva = some name_offset →
      pe.TranslationFits directory.ordinal_table_rva ∧
        ∀ ordinal_offset, pe.locate directory.ordinal_table_rva = some ordinal_offset →
          UpTo (pe.NameFits name_offset ordinal_offset) (pe.NameMissing name_offset)
            (List.range directory.num_names.toNat) ∧
          ((∀ i < directory.num_names.toNat, ¬ pe.NameMissing name_offset i) →
            ∀ i < directory.num_funcs.toNat, pe.SlotFits dir_rva dir_size directory.base addr_offset i)

/-- The export directory and its tables fit. -/
def PeFile.ExportsFit : Prop :=
  0x40 ≤ pe.raw_bytes.length ∧ ∀ dir_rva dir_size, pe.directory 0 = some (dir_rva, dir_size) → dir_rva ≠ 0 →
    pe.TranslationFits dir_rva ∧ ∀ dir_offset, pe.locate dir_rva = some dir_offset →
      dir_offset + 40 ≤ pe.raw_bytes.length ∧
        pe.ExportTablesFit dir_rva dir_size (exportDirectoryAt pe.raw_bytes dir_offset)

end Exports

section Exports

variable {pe : PeFile}

theorem survives_insertName_iff {name_offset ordinal_offset : Nat} (name_map : NameMap) (i : Nat) :
    Survives (pe.insertName .dev name_offset ordinal_offset name_map i) ↔ pe.NameFits name_offset ordinal_offset i := by
  unfold PeFile.insertName PeFile.NameFits
  rw [survives_readU32_bind_iff, survives_offsetOr_bind_iff]
  refine and_congr_right fun _ => and_congr_right fun _ => forall₂_congr fun offset _ => ?_
  rw [survives_read_cstring_bind_iff, survives_readU16_bind_iff]
  exact and_congr_right fun _ => ⟨fun h => h.1, fun h => ⟨h, survives_ok _⟩⟩

theorem insertName_returns_iff {name_offset ordinal_offset : Nat} (name_map : NameMap) (i : Nat)
    (hfits : pe.NameFits name_offset ordinal_offset i) :
    (∃ next, pe.insertName .dev name_offset ordinal_offset name_map i = .ok next) ↔ ¬ pe.NameMissing name_offset i := by
  obtain ⟨hpointer, htranslation, htext⟩ := hfits
  unfold PeFile.insertName PeFile.NameMissing PeFile.offsetOr
  rw [readU32_eq_u32At hpointer, ok_bind, rva_to_offset_eq_locate htranslation, ok_bind]
  cases hlocate : pe.locate (u32At pe.raw_bytes (name_offset + i * 4)) with
  | none => simp [ok_or]
  | some offset =>
    obtain ⟨hstart, hslot⟩ := htext offset hlocate
    simp [ok_or, read_cstring_eq_cstring hstart, readU16_eq_u16At hslot, pure, Except.pure]

theorem dirEnd_iff {dir_rva dir_size rva : UInt32} (hlow : rva ≥ dir_rva)
    (hend : dir_rva.toNat + dir_size.toNat < 2 ^ 32) :
    rva < dir_rva + dir_size ↔ InDirectory dir_rva dir_size rva := by
  rw [UInt32.lt_iff_toNat_lt, UInt32.toNat_add, Nat.mod_eq_of_lt hend]
  exact ⟨fun h => ⟨UInt32.le_iff_toNat_le.mp hlow, h⟩, fun h => h.2⟩

/-- The end of the directory is formed for addresses from its start on, and only
    the text of a forwarder is looked up. -/
theorem survives_forwarderOf_iff {dir_rva dir_size rva : UInt32} :
    Survives (pe.forwarderOf .dev dir_rva dir_size rva) ↔
      (dir_rva.toNat ≤ rva.toNat → dir_rva.toNat + dir_size.toNat < 2 ^ 32) ∧
        (InDirectory dir_rva dir_size rva →
          pe.TranslationFits rva ∧ ∀ offset, pe.locate rva = some offset → offset ≤ pe.raw_bytes.length) := by
  unfold PeFile.forwarderOf
  by_cases hlow : rva ≥ dir_rva
  · have hlow' := UInt32.le_iff_toNat_le.mp hlow
    rw [if_pos hlow, Profile.survives_add32_bind_iff, forall_prop_of_true hlow']
    refine and_congr_right fun hend => ?_
    rw [← dirEnd_iff hlow hend]
    split
    · rename_i hhigh
      rw [forall_prop_of_true hhigh, survives_rva_to_offset_bind_iff]
      refine and_congr_right fun _ => ?_
      cases pe.locate rva with
      | none => exact ⟨fun _ _ h => absurd h (by simp), fun _ => survives_ok _⟩
      | some offset =>
        simp only [survives_read_cstring_bind_iff]
        exact ⟨fun h _ hother => Option.some.inj hother ▸ h.1, fun h => ⟨h offset rfl, survives_ok _⟩⟩
    · rename_i hhigh
      exact ⟨fun _ h => absurd h hhigh, fun _ => survives_ok _⟩
  · have hnot : ¬ dir_rva.toNat ≤ rva.toNat := fun h => hlow (UInt32.le_iff_toNat_le.mpr h)
    rw [if_neg hlow]
    exact ⟨fun _ => ⟨fun h => absurd h hnot, fun h => absurd h.1 hnot⟩, fun _ => survives_ok _⟩

theorem forwarderOf_returns {dir_rva dir_size rva : UInt32}
    (h : Survives (pe.forwarderOf .dev dir_rva dir_size rva)) :
    ∃ forwarder, pe.forwarderOf .dev dir_rva dir_size rva = .ok forwarder := by
  obtain ⟨hend, htext⟩ := survives_forwarderOf_iff.mp h
  unfold PeFile.forwarderOf
  by_cases hlow : rva ≥ dir_rva
  · have hend := hend (UInt32.le_iff_toNat_le.mp hlow)
    rw [if_pos hlow, Profile.dev.add32_of_lt hend, ok_bind]
    by_cases hhigh : rva < dir_rva + dir_size
    · obtain ⟨htranslation, hstart⟩ := htext ((dirEnd_iff hlow hend).mp hhigh)
      rw [if_pos hhigh, rva_to_offset_eq_locate htranslation, ok_bind]
      cases hlocate : pe.locate rva with
      | none => exact ⟨none, rfl⟩
      | some offset =>
        simp only [read_cstring_eq_cstring (hstart offset hlocate), ok_bind]
        exact ⟨_, rfl⟩
    · rw [if_neg hhigh]
      exact ⟨none, rfl⟩
  · rw [if_neg hlow]
    exact ⟨none, rfl⟩

theorem survives_exportAt_iff {dir_rva dir_size base : UInt32} {addr_offset : Nat} {name_map : NameMap} {i : Nat}
    (hi : i < 2 ^ 32) :
    Survives (pe.exportAt .dev dir_rva dir_size base addr_offset name_map i) ↔
      pe.SlotFits dir_rva dir_size base addr_offset i := by
  have hword : (UInt32.ofNat i).toNat = i := by
    rw [UInt32.toNat_ofNat']
    exact Nat.mod_eq_of_lt hi
  unfold PeFile.exportAt PeFile.SlotFits
  rw [survives_readU32_bind_iff]
  refine and_congr_right fun _ => ?_
  by_cases hused : u32At pe.raw_bytes (addr_offset + i * 4) = 0
  · rw [if_pos hused]
    exact ⟨fun _ h => absurd hused h, fun _ => survives_ok _⟩
  · rw [if_neg hused, forall_prop_of_true hused, Profile.survives_add32_bind_iff, hword]
    refine and_congr_right fun _ => ?_
    rw [← survives_forwarderOf_iff]
    simp only [survives_bind_iff]
    exact ⟨fun h => h.1, fun h => ⟨h, fun _ _ => survives_ok _⟩⟩

theorem exportAt_returns {dir_rva dir_size base : UInt32} {addr_offset : Nat} {name_map : NameMap} {i : Nat}
    (hi : i < 2 ^ 32) (h : Survives (pe.exportAt .dev dir_rva dir_size base addr_offset name_map i)) :
    ∃ value, pe.exportAt .dev dir_rva dir_size base addr_offset name_map i = .ok value := by
  obtain ⟨haddr, hslot⟩ := (survives_exportAt_iff hi).mp h
  have hword : (UInt32.ofNat i).toNat = i := by
    rw [UInt32.toNat_ofNat']
    exact Nat.mod_eq_of_lt hi
  unfold PeFile.exportAt
  rw [readU32_eq_u32At haddr, ok_bind]
  by_cases hused : u32At pe.raw_bytes (addr_offset + i * 4) = 0
  · rw [if_pos hused]
    exact ⟨none, rfl⟩
  · obtain ⟨hordinal, hforwarder⟩ := hslot hused
    obtain ⟨forwarder, hforwarder⟩ := forwarderOf_returns (survives_forwarderOf_iff.mpr hforwarder)
    rw [if_neg hused, Profile.dev.add32_of_lt (by rw [hword]; exact hordinal), ok_bind]
    simp only [hforwarder, ok_bind]
    exact ⟨_, rfl⟩

/-- The part of the export reader behind the words of the directory. -/
private theorem survives_exportTables_iff {dir_rva dir_size : UInt32} {directory : ExportDirectory} :
    Survives (do
      let addr_offset ← pe.offsetOr .dev directory.addr_table_rva "Invalid Address Table RVA"
      let name_offset ← pe.offsetOr .dev directory.name_table_rva "Invalid Name Table RVA"
      let ordinal_offset ← pe.offsetOr .dev directory.ordinal_table_rva "Invalid Ordinal Table RVA"
      let name_map ← (List.range directory.num_names.toNat).foldlM (pe.insertName .dev name_offset ordinal_offset) []
      let exports ← (List.range directory.num_funcs.toNat).mapM
        (pe.exportAt .dev dir_rva dir_size directory.base addr_offset name_map)
      return exports.filterMap id) ↔ pe.ExportTablesFit dir_rva dir_size directory := by
  unfold PeFile.ExportTablesFit
  rw [survives_offsetOr_bind_iff]
  refine and_congr_right fun _ => forall₂_congr fun addr_offset _ => ?_
  rw [survives_offsetOr_bind_iff]
  refine and_congr_right fun _ => forall₂_congr fun name_offset _ => ?_
  rw [survives_offsetOr_bind_iff]
  refine and_congr_right fun _ => forall₂_congr fun ordinal_offset _ => ?_
  rw [survives_bind_iff, survives_foldlM_iff survives_insertName_iff insertName_returns_iff]
  refine and_congr_right fun hnames => ?_
  have hfuncs := directory.num_funcs.toNat_lt
  have hslots : ∀ name_map, Survives ((List.range directory.num_funcs.toNat).mapM
      (pe.exportAt .dev dir_rva dir_size directory.base addr_offset name_map) >>= fun exports =>
        return exports.filterMap id) ↔
      ∀ i < directory.num_funcs.toNat, pe.SlotFits dir_rva dir_size directory.base addr_offset i := by
    intro name_map
    have hlt : ∀ i ∈ List.range directory.num_funcs.toNat, i < 2 ^ 32 := fun i hi =>
      Nat.lt_trans (List.mem_range.mp hi) hfuncs
    rw [survives_bind_pure_iff, survives_mapM_iff fun i hi => exportAt_returns (hlt i hi)]
    constructor
    · exact fun h i hi => (survives_exportAt_iff (Nat.lt_trans hi hfuncs)).mp (h i (List.mem_range.mpr hi))
    · exact fun h i hi => (survives_exportAt_iff (hlt i hi)).mpr (h i (List.mem_range.mp hi))
  have hreturns := foldlM_returns_iff insertName_returns_iff hnames []
  simp only [hslots]
  constructor
  · intro h hnamed
    obtain ⟨name_map, hname_map⟩ := hreturns.mpr fun i hi => hnamed i (List.mem_range.mp hi)
    exact h name_map hname_map
  · intro h name_map hname_map
    exact h fun i hi => hreturns.mp ⟨name_map, hname_map⟩ i (List.mem_range.mpr hi)

/-- The export reader survives exactly when its tables fit. -/
theorem survives_get_exports_iff : Survives (pe.get_exports .dev) ↔ pe.ExportsFit := by
  unfold PeFile.get_exports PeFile.ExportsFit
  rw [survives_get_data_directory_bind_iff, Prod.forall]
  refine and_congr_right fun _ => forall₂_congr fun dir_rva dir_size => forall_congr' fun _ => ?_
  simp only
  by_cases hempty : dir_rva = 0
  · rw [if_pos hempty]
    exact ⟨fun _ h => absurd hempty h, fun _ => survives_ok _⟩
  rw [if_neg hempty, forall_prop_of_true hempty, survives_offsetOr_bind_iff]
  refine and_congr_right fun _ => forall₂_congr fun dir_offset _ => ?_
  rw [← survives_exportTables_iff, survives_readU32_bind_iff, survives_readU32_bind_iff, survives_readU32_bind_iff,
    survives_readU32_bind_iff, survives_readU32_bind_iff, survives_readU32_bind_iff]
  constructor
  · rintro ⟨_, _, _, _, _, hinside, h⟩
    exact ⟨hinside, h⟩
  · rintro ⟨hinside, h⟩
    exact ⟨by omega, by omega, by omega, by omega, by omega, hinside, h⟩

end Exports

/-- The address of the hint and the name in a word of a lookup table. -/
def nameRva (word : UInt64) : UInt32 := (word &&& 0x7FFFFFFF).toUInt32

/-- Words without the top bit import by name. -/
def ByName (word : UInt64) : Prop := word &&& ((1 : UInt64) <<< 63) = 0

instance (word : UInt64) : Decidable (ByName word) := inferInstanceAs (Decidable (_ = _))

section Imports

variable (pe : PeFile)

/-- A text `skip` bytes behind an address starts in the file. -/
def PeFile.TextFits (rva : UInt32) (skip : Nat) : Prop :=
  pe.TranslationFits rva ∧ ∃ offset, pe.locate rva = some offset ∧ offset + skip ≤ pe.raw_bytes.length

/-- An address without a byte in the file, which ends the reader with an
    `Err`. -/
def PeFile.Unlocated (rva : UInt32) : Prop := pe.TranslationFits rva ∧ pe.locate rva = none

/-- A word of a lookup table lies in the file. -/
def PeFile.WordFits (thunk_rva : UInt32) (word : UInt64) : Prop :=
  pe.TranslationFits thunk_rva ∧ ∃ offset, pe.locate thunk_rva = some offset ∧ offset + 8 ≤ pe.raw_bytes.length ∧
    u64At pe.raw_bytes offset = word

/-- A lookup table fits from an address on, with the addresses of the slots beside
    it: up to its zero word, or up to the first address without a byte in the
    file. The flag tells the first from the second. -/
inductive PeFile.ThunksFit : UInt32 → UInt32 → Bool → Prop
  | unlocated {thunk_rva iat_rva : UInt32} (hthunk : pe.Unlocated thunk_rva) : ThunksFit thunk_rva iat_rva false
  | zero {thunk_rva iat_rva : UInt32} (hword : pe.WordFits thunk_rva 0) : ThunksFit thunk_rva iat_rva true
  | unnamed {thunk_rva iat_rva : UInt32} {word : UInt64} (hword : pe.WordFits thunk_rva word) (hnonzero : word ≠ 0)
      (hbyname : ByName word) (hname : pe.Unlocated (nameRva word)) : ThunksFit thunk_rva iat_rva false
  | next {thunk_rva iat_rva : UInt32} {word : UInt64} {complete : Bool} (hword : pe.WordFits thunk_rva word)
      (hnonzero : word ≠ 0) (hname : ByName word → pe.TextFits (nameRva word) 2)
      (hthunk : thunk_rva.toNat + 8 < 2 ^ 32) (hiat : iat_rva.toNat + 8 < 2 ^ 32)
      (hrest : ThunksFit (thunk_rva + 8) (iat_rva + 8) complete) : ThunksFit thunk_rva iat_rva complete

/-- The descriptor at an offset. -/
def descriptorAt (data : List UInt8) (dir_offset : Nat) : ImportDescriptor where
  original_first_thunk := u32At data dir_offset
  time_date := u32At data (dir_offset + 4)
  forwarder_chain := u32At data (dir_offset + 8)
  name_rva := u32At data (dir_offset + 12)
  first_thunk := u32At data (dir_offset + 16)

/-- The descriptors fit from an offset on, up to the terminator or the first
    address without a byte in the file. -/
inductive PeFile.DescriptorsFit : Nat → Prop
  | last {dir_offset : Nat} (hinside : dir_offset + 20 ≤ pe.raw_bytes.length)
      (hlast : (descriptorAt pe.raw_bytes dir_offset).IsTerminator) : DescriptorsFit dir_offset
  | unnamed {dir_offset : Nat} (hinside : dir_offset + 20 ≤ pe.raw_bytes.length)
      (hmore : ¬ (descriptorAt pe.raw_bytes dir_offset).IsTerminator)
      (hname : pe.Unlocated (descriptorAt pe.raw_bytes dir_offset).name_rva) : DescriptorsFit dir_offset
  | rejected {dir_offset : Nat} (hinside : dir_offset + 20 ≤ pe.raw_bytes.length)
      (hmore : ¬ (descriptorAt pe.raw_bytes dir_offset).IsTerminator)
      (hname : pe.TextFits (descriptorAt pe.raw_bytes dir_offset).name_rva 0)
      (hthunks : pe.ThunksFit (descriptorAt pe.raw_bytes dir_offset).lookup
        (descriptorAt pe.raw_bytes dir_offset).first_thunk false) : DescriptorsFit dir_offset
  | next {dir_offset : Nat} (hinside : dir_offset + 20 ≤ pe.raw_bytes.length)
      (hmore : ¬ (descriptorAt pe.raw_bytes dir_offset).IsTerminator)
      (hname : pe.TextFits (descriptorAt pe.raw_bytes dir_offset).name_rva 0)
      (hthunks : pe.ThunksFit (descriptorAt pe.raw_bytes dir_offset).lookup
        (descriptorAt pe.raw_bytes dir_offset).first_thunk true)
      (hrest : DescriptorsFit (dir_offset + 20)) : DescriptorsFit dir_offset

/-- The import directory and its tables fit. -/
def PeFile.ImportsFit : Prop :=
  0x40 ≤ pe.raw_bytes.length ∧ ∀ dir_rva dir_size, pe.directory 1 = some (dir_rva, dir_size) → dir_rva ≠ 0 →
    pe.TranslationFits dir_rva ∧ ∀ dir_offset, pe.locate dir_rva = some dir_offset → pe.DescriptorsFit dir_offset

end Imports

section Imports

variable {pe : PeFile}

theorem offsetOr_of_unlocated {rva : UInt32} (h : pe.Unlocated rva) (message : String) :
    pe.offsetOr .dev rva message = .error (.err message) := by
  unfold PeFile.offsetOr
  rw [rva_to_offset_eq_locate h.1, ok_bind, h.2]
  rfl

theorem offsetOr_of_locate {rva : UInt32} {offset : Nat} (hfits : pe.TranslationFits rva)
    (hlocate : pe.locate rva = some offset) (message : String) : pe.offsetOr .dev rva message = .ok offset := by
  unfold PeFile.offsetOr
  rw [rva_to_offset_eq_locate hfits, ok_bind, hlocate]
  rfl

theorem readWord {thunk_rva : UInt32} {word : UInt64} (h : pe.WordFits thunk_rva word) (message : String) :
    ∃ offset, pe.offsetOr .dev thunk_rva message = .ok offset ∧ readU64 pe.raw_bytes offset = .ok word := by
  obtain ⟨hfits, offset, hlocate, hinside, rfl⟩ := h
  exact ⟨offset, offsetOr_of_locate hfits hlocate message, readU64_eq_u64At hinside⟩

theorem thunkName_eq_ite (profile : Profile) (word : UInt64) :
    pe.thunkName profile word = if ByName word then
        pe.offsetOr profile (nameRva word) "Invalid Hint/Name RVA" >>= fun name_offset =>
          pe.read_cstring (name_offset + 2)
      else .ok ("#" ++ toString (word &&& 0xFFFF).toNat) := by
  unfold PeFile.thunkName
  simp only [ne_eq, ite_not]
  rfl

theorem thunkName_returns {word : UInt64} (h : ByName word → pe.TextFits (nameRva word) 2) :
    ∃ name, pe.thunkName .dev word = .ok name := by
  rw [thunkName_eq_ite]
  split
  · rename_i hbyname
    obtain ⟨hfits, offset, hlocate, hstart⟩ := h hbyname
    rw [offsetOr_of_locate hfits hlocate, ok_bind, read_cstring_eq_cstring hstart]
    exact ⟨_, rfl⟩
  · exact ⟨_, rfl⟩

/-- A name that is read and survives has a text, or no byte in the file. -/
theorem textFits_of_survives_thunkName {word : UInt64} (h : Survives (pe.thunkName .dev word)) (hbyname : ByName word) :
    pe.TextFits (nameRva word) 2 ∨ pe.Unlocated (nameRva word) := by
  rw [thunkName_eq_ite, if_pos hbyname, survives_offsetOr_bind_iff] at h
  obtain ⟨hfits, htext⟩ := h
  cases hlocate : pe.locate (nameRva word) with
  | none => exact .inr ⟨hfits, hlocate⟩
  | some offset =>
    have hread := htext offset hlocate
    rw [← bind_pure (pe.read_cstring _), survives_read_cstring_bind_iff] at hread
    exact .inl ⟨hfits, offset, hlocate, hread.1⟩

/-- A lookup table that fits is read: up to its zero word, or to an `Err`. -/
theorem thunkLoop_of_thunksFit {thunk_rva iat_rva : UInt32} {complete : Bool}
    (h : pe.ThunksFit thunk_rva iat_rva complete) {fuel : Nat} (hfuel : 2 ^ 32 ≤ thunk_rva.toNat + 8 * fuel) :
    (complete = true → ∃ functions, pe.thunkLoop .dev fuel thunk_rva iat_rva = .ok functions) ∧
      (complete = false → ∃ message, pe.thunkLoop .dev fuel thunk_rva iat_rva = .error (.err message)) := by
  induction h generalizing fuel with
  | @unlocated thunk_rva iat_rva hthunk =>
    have hlt := thunk_rva.toNat_lt
    obtain ⟨fuel, rfl⟩ := Nat.exists_eq_succ_of_ne_zero (show fuel ≠ 0 by omega)
    rw [PeFile.thunkLoop, offsetOr_of_unlocated hthunk]
    exact ⟨fun h => absurd h (by decide), fun _ => ⟨_, rfl⟩⟩
  | @zero thunk_rva iat_rva hword =>
    have hlt := thunk_rva.toNat_lt
    obtain ⟨fuel, rfl⟩ := Nat.exists_eq_succ_of_ne_zero (show fuel ≠ 0 by omega)
    obtain ⟨offset, hoffset, hread⟩ := readWord hword "Invalid Thunk RVA"
    rw [PeFile.thunkLoop, hoffset, ok_bind, hread, ok_bind, if_pos rfl]
    exact ⟨fun _ => ⟨[], rfl⟩, fun h => absurd h (by decide)⟩
  | @unnamed thunk_rva iat_rva word hword hnonzero hbyname hname =>
    have hlt := thunk_rva.toNat_lt
    obtain ⟨fuel, rfl⟩ := Nat.exists_eq_succ_of_ne_zero (show fuel ≠ 0 by omega)
    obtain ⟨offset, hoffset, hread⟩ := readWord hword "Invalid Thunk RVA"
    rw [PeFile.thunkLoop, hoffset, ok_bind, hread, ok_bind, if_neg hnonzero, thunkName_eq_ite, if_pos hbyname,
      offsetOr_of_unlocated hname]
    exact ⟨fun h => absurd h (by decide), fun _ => ⟨_, rfl⟩⟩
  | @next thunk_rva iat_rva word complete hword hnonzero hname hthunk hiat _ ih =>
    have hlt := thunk_rva.toNat_lt
    obtain ⟨fuel, rfl⟩ := Nat.exists_eq_succ_of_ne_zero (show fuel ≠ 0 by omega)
    obtain ⟨offset, hoffset, hread⟩ := readWord hword "Invalid Thunk RVA"
    obtain ⟨name, hname⟩ := thunkName_returns hname
    have hnext : (thunk_rva + 8).toNat = thunk_rva.toNat + 8 := by
      rw [UInt32.toNat_add]
      exact Nat.mod_eq_of_lt hthunk
    obtain ⟨hcomplete, hrejected⟩ := @ih fuel (by omega)
    rw [PeFile.thunkLoop, hoffset, ok_bind, hread, ok_bind, if_neg hnonzero, hname, ok_bind,
      Profile.dev.add32_of_lt hthunk, ok_bind, Profile.dev.add32_of_lt hiat, ok_bind]
    constructor
    · intro hdone
      obtain ⟨functions, hfunctions⟩ := hcomplete hdone
      rw [hfunctions]
      exact ⟨_, rfl⟩
    · intro hdone
      obtain ⟨message, hmessage⟩ := hrejected hdone
      rw [hmessage]
      exact ⟨message, rfl⟩

/-- A lookup table that is read without a fault fits. -/
theorem thunksFit_of_survives {fuel : Nat} {thunk_rva iat_rva : UInt32}
    (h : Survives (pe.thunkLoop .dev fuel thunk_rva iat_rva)) :
    ∃ complete, pe.ThunksFit thunk_rva iat_rva complete := by
  induction fuel generalizing thunk_rva iat_rva with
  | zero => exact absurd h not_survives_diverge
  | succ fuel ih =>
    rw [PeFile.thunkLoop, survives_offsetOr_bind_iff] at h
    obtain ⟨hfits, h⟩ := h
    cases hlocate : pe.locate thunk_rva with
    | none => exact ⟨false, .unlocated ⟨hfits, hlocate⟩⟩
    | some offset =>
      have hloop := h offset hlocate
      rw [survives_readU64_bind_iff] at hloop
      obtain ⟨hinside, hloop⟩ := hloop
      have hword : pe.WordFits thunk_rva (u64At pe.raw_bytes offset) := ⟨hfits, offset, hlocate, hinside, rfl⟩
      by_cases hzero : u64At pe.raw_bytes offset = 0
      · rw [hzero] at hword
        exact ⟨true, .zero hword⟩
      rw [if_neg hzero, survives_bind_iff] at hloop
      obtain ⟨hname, hloop⟩ := hloop
      by_cases hunnamed : ByName (u64At pe.raw_bytes offset) ∧ pe.Unlocated (nameRva (u64At pe.raw_bytes offset))
      · exact ⟨false, .unnamed hword hzero hunnamed.1 hunnamed.2⟩
      · have htext : ByName (u64At pe.raw_bytes offset) → pe.TextFits (nameRva (u64At pe.raw_bytes offset)) 2 :=
          fun hbyname => (textFits_of_survives_thunkName hname hbyname).resolve_right fun hmissing =>
            hunnamed ⟨hbyname, hmissing⟩
        obtain ⟨name, hname⟩ := thunkName_returns htext
        have hrest := hloop name hname
        rw [Profile.survives_add32_bind_iff, Profile.survives_add32_bind_iff, survives_bind_pure_iff] at hrest
        obtain ⟨hthunk, hiat, hrest⟩ := hrest
        obtain ⟨complete, hcomplete⟩ := ih hrest
        exact ⟨complete, .next hword hzero htext hthunk hiat hcomplete⟩

theorem descriptorAt_holdsAt {dir_offset : Nat} (hinside : dir_offset + 20 ≤ pe.raw_bytes.length) :
    HoldsAt pe.raw_bytes dir_offset (descriptorAt pe.raw_bytes dir_offset).encode := by
  have hword : ∀ skip ≤ 16,
      HoldsAt pe.raw_bytes (dir_offset + skip) (ofUInt32 (u32At pe.raw_bytes (dir_offset + skip))) :=
    fun skip hskip => readU32_eq_ok_iff.mp (readU32_eq_u32At (by omega))
  simp only [ImportDescriptor.encode, holdsAt_append, List.length_append, length_ofUInt32]
  exact ⟨⟨⟨⟨hword 0 (by decide), hword 4 (by decide)⟩, hword 8 (by decide)⟩, hword 12 (by decide)⟩,
    hword 16 (by decide)⟩

/-- The rest of a round, behind the words of a descriptor. -/
def describe (pe : PeFile) (profile : Profile) (descriptor : ImportDescriptor) (next : Result (List ImportEntry)) :
    Result (List ImportEntry) := do
  let dll_name_offset ← pe.offsetOr profile descriptor.name_rva "Invalid Import Name RVA"
  let dll_name ← pe.read_cstring dll_name_offset
  let functions ← pe.thunkLoop profile THUNK_ROUNDS descriptor.lookup descriptor.first_thunk
  let imports ← next
  return { dll_name, functions } :: imports

theorem survives_descriptorLoop_succ_iff {fuel dir_offset : Nat} :
    Survives (pe.descriptorLoop .dev (fuel + 1) dir_offset) ↔ dir_offset + 20 ≤ pe.raw_bytes.length ∧
      (¬ (descriptorAt pe.raw_bytes dir_offset).IsTerminator →
        Survives (describe pe .dev (descriptorAt pe.raw_bytes dir_offset)
          (pe.descriptorLoop .dev fuel (dir_offset + 20)))) := by
  constructor
  · intro h
    have hinside : dir_offset + 20 ≤ pe.raw_bytes.length := by
      rw [PeFile.descriptorLoop, survives_readU32_bind_iff, survives_readU32_bind_iff, survives_readU32_bind_iff,
        survives_readU32_bind_iff, survives_readU32_bind_iff] at h
      exact h.2.2.2.2.1
    refine ⟨hinside, fun hmore => ?_⟩
    rwa [descriptorLoop_of_holdsAt (descriptorAt_holdsAt hinside), if_neg hmore] at h
  · rintro ⟨hinside, h⟩
    rw [descriptorLoop_of_holdsAt (descriptorAt_holdsAt hinside)]
    split
    · exact survives_ok _
    · rename_i hmore
      exact h hmore

private theorem rounds_enough (thunk_rva : UInt32) : 2 ^ 32 ≤ thunk_rva.toNat + 8 * THUNK_ROUNDS := by
  unfold THUNK_ROUNDS
  omega

/-- Descriptors that fit are read without a fault. -/
theorem survives_of_descriptorsFit {dir_offset : Nat} (h : pe.DescriptorsFit dir_offset) {fuel : Nat}
    (hfuel : pe.raw_bytes.length < dir_offset + 20 * fuel) : Survives (pe.descriptorLoop .dev fuel dir_offset) := by
  induction h generalizing fuel with
  | @last dir_offset hinside hlast =>
    obtain ⟨fuel, rfl⟩ := Nat.exists_eq_succ_of_ne_zero (show fuel ≠ 0 by omega)
    exact survives_descriptorLoop_succ_iff.mpr ⟨hinside, fun hmore => absurd hlast hmore⟩
  | @unnamed dir_offset hinside hmore hname =>
    obtain ⟨fuel, rfl⟩ := Nat.exists_eq_succ_of_ne_zero (show fuel ≠ 0 by omega)
    refine survives_descriptorLoop_succ_iff.mpr ⟨hinside, fun _ => ?_⟩
    rw [describe, offsetOr_of_unlocated hname]
    exact survives_err _
  | @rejected dir_offset hinside hmore hname hthunks =>
    obtain ⟨fuel, rfl⟩ := Nat.exists_eq_succ_of_ne_zero (show fuel ≠ 0 by omega)
    obtain ⟨hfits, offset, hlocate, hstart⟩ := hname
    rw [Nat.add_zero] at hstart
    obtain ⟨message, hmessage⟩ := (thunkLoop_of_thunksFit hthunks (rounds_enough _)).2 rfl
    refine survives_descriptorLoop_succ_iff.mpr ⟨hinside, fun _ => ?_⟩
    rw [describe, offsetOr_of_locate hfits hlocate, ok_bind, read_cstring_eq_cstring hstart, ok_bind, hmessage]
    exact survives_err _
  | @next dir_offset hinside hmore hname hthunks _ ih =>
    obtain ⟨fuel, rfl⟩ := Nat.exists_eq_succ_of_ne_zero (show fuel ≠ 0 by omega)
    obtain ⟨hfits, offset, hlocate, hstart⟩ := hname
    rw [Nat.add_zero] at hstart
    obtain ⟨functions, hfunctions⟩ := (thunkLoop_of_thunksFit hthunks (rounds_enough _)).1 rfl
    refine survives_descriptorLoop_succ_iff.mpr ⟨hinside, fun _ => ?_⟩
    rw [describe, offsetOr_of_locate hfits hlocate, ok_bind, read_cstring_eq_cstring hstart, ok_bind, hfunctions,
      ok_bind, survives_bind_pure_iff]
    exact ih (by omega)

/-- Descriptors that are read without a fault fit. -/
theorem descriptorsFit_of_survives {fuel dir_offset : Nat} (h : Survives (pe.descriptorLoop .dev fuel dir_offset)) :
    pe.DescriptorsFit dir_offset := by
  induction fuel generalizing dir_offset with
  | zero => exact absurd h not_survives_diverge
  | succ fuel ih =>
    obtain ⟨hinside, hround⟩ := survives_descriptorLoop_succ_iff.mp h
    by_cases hlast : (descriptorAt pe.raw_bytes dir_offset).IsTerminator
    · exact .last hinside hlast
    have hround := hround hlast
    rw [describe, survives_offsetOr_bind_iff] at hround
    obtain ⟨hfits, hround⟩ := hround
    cases hlocate : pe.locate (descriptorAt pe.raw_bytes dir_offset).name_rva with
    | none => exact .unnamed hinside hlast ⟨hfits, hlocate⟩
    | some offset =>
      have hnamed := hround offset hlocate
      rw [survives_read_cstring_bind_iff, survives_bind_iff] at hnamed
      obtain ⟨hstart, hthunks, hrest⟩ := hnamed
      have hname : pe.TextFits (descriptorAt pe.raw_bytes dir_offset).name_rva 0 := ⟨hfits, offset, hlocate, hstart⟩
      obtain ⟨complete, hcomplete⟩ := thunksFit_of_survives hthunks
      cases complete with
      | false => exact .rejected hinside hlast hname hcomplete
      | true =>
        obtain ⟨functions, hfunctions⟩ := (thunkLoop_of_thunksFit hcomplete (rounds_enough _)).1 rfl
        exact .next hinside hlast hname hcomplete (ih (survives_bind_pure_iff.mp (hrest functions hfunctions)))

/-- The import reader survives exactly when its tables fit. -/
theorem survives_get_imports_iff : Survives (pe.get_imports .dev) ↔ pe.ImportsFit := by
  unfold PeFile.get_imports PeFile.ImportsFit
  rw [survives_get_data_directory_bind_iff, Prod.forall]
  refine and_congr_right fun _ => forall₂_congr fun dir_rva dir_size => forall_congr' fun _ => ?_
  simp only
  by_cases hempty : dir_rva = 0
  · rw [if_pos hempty]
    exact ⟨fun _ h => absurd hempty h, fun _ => survives_ok _⟩
  rw [if_neg hempty, forall_prop_of_true hempty, survives_offsetOr_bind_iff]
  refine and_congr_right fun _ => forall₂_congr fun dir_offset _ => ?_
  exact ⟨descriptorsFit_of_survives, fun h => survives_of_descriptorsFit h (by omega)⟩

end Imports

section Profiles

variable (profile : Profile) (pe : PeFile)

theorem findSection_agrees (data : List UInt8) (rva : UInt32) (count sect_ptr : Nat) :
    Agrees (findSection .dev data rva count sect_ptr) (findSection profile data rva count sect_ptr) := by
  induction count generalizing sect_ptr with
  | zero => exact .refl _
  | succ count ih =>
    rw [findSection, findSection]
    refine .bind (.refl _) fun v_addr => .bind (.refl _) fun v_size => .bind (.refl _) fun r_ptr =>
      .bind (.refl _) fun r_size => ?_
    simp only
    split
    · refine .bind (.checked _ _ _ _) fun v_end => ?_
      split
      · exact .bind (.checked _ _ _ _) fun delta => .bind (.checked _ _ _ _) fun offset => .refl _
      · exact ih _
    · exact ih _

theorem rva_to_offset_agrees (rva : UInt32) : Agrees (pe.rva_to_offset .dev rva) (pe.rva_to_offset profile rva) := by
  unfold PeFile.rva_to_offset
  induction pe.sections with
  | nil => exact .refl _
  | cons found rest ih =>
    rw [PeFile.offsetIn, PeFile.offsetIn]
    refine .bind (.checked _ _ _ _) fun section_rva => .bind (.checked _ _ _ _) fun stop => ?_
    split
    · exact .bind (.refl _) fun _ => .bind (.refl _) fun _ => .bind (.refl _) fun _ =>
        findSection_agrees profile _ _ _ _
    · exact ih

theorem offsetOr_agrees (rva : UInt32) (message : String) :
    Agrees (pe.offsetOr .dev rva message) (pe.offsetOr profile rva message) :=
  (rva_to_offset_agrees profile pe rva).bind fun _ => .refl _

theorem forwarderOf_agrees (dir_rva dir_size func_rva : UInt32) :
    Agrees (pe.forwarderOf .dev dir_rva dir_size func_rva) (pe.forwarderOf profile dir_rva dir_size func_rva) := by
  unfold PeFile.forwarderOf
  split
  · refine .bind (.checked _ _ _ _) fun dir_end => ?_
    split
    · exact (rva_to_offset_agrees profile pe func_rva).bind fun _ => .refl _
    · exact .refl _
  · exact .refl _

theorem exportAt_agrees (dir_rva dir_size base : UInt32) (addr_offset : Nat) (name_map : NameMap) (i : Nat) :
    Agrees (pe.exportAt .dev dir_rva dir_size base addr_offset name_map i)
      (pe.exportAt profile dir_rva dir_size base addr_offset name_map i) := by
  unfold PeFile.exportAt
  refine .bind (.refl _) fun func_rva => ?_
  split
  · exact .refl _
  · exact .bind (.checked _ _ _ _) fun _ => (forwarderOf_agrees profile pe _ _ _).bind fun _ => .refl _

theorem get_exports_agrees : Agrees (pe.get_exports .dev) (pe.get_exports profile) := by
  unfold PeFile.get_exports
  refine .bind (.refl _) fun entry => ?_
  simp only
  split
  · exact .refl _
  refine (offsetOr_agrees profile pe _ _).bind fun dir_offset => .bind (.refl _) fun base => .bind (.refl _) fun _ =>
    .bind (.refl _) fun _ => .bind (.refl _) fun _ => .bind (.refl _) fun _ => .bind (.refl _) fun _ =>
    (offsetOr_agrees profile pe _ _).bind fun addr_offset => (offsetOr_agrees profile pe _ _).bind fun name_offset =>
    (offsetOr_agrees profile pe _ _).bind fun ordinal_offset => ?_
  have hname : ∀ name_map i, Agrees (pe.insertName .dev name_offset ordinal_offset name_map i)
      (pe.insertName profile name_offset ordinal_offset name_map i) := fun _ _ =>
    .bind (.refl _) fun _ => (offsetOr_agrees profile pe _ _).bind fun _ => .refl _
  exact (Agrees.foldlM hname _ _).bind fun name_map =>
    (Agrees.mapM (fun i => exportAt_agrees profile pe _ _ _ _ _ i) _).bind fun _ => .refl _

theorem thunkLoop_agrees (fuel : Nat) (thunk_rva iat_rva : UInt32) :
    Agrees (pe.thunkLoop .dev fuel thunk_rva iat_rva) (pe.thunkLoop profile fuel thunk_rva iat_rva) := by
  induction fuel generalizing thunk_rva iat_rva with
  | zero => exact .refl _
  | succ fuel ih =>
    rw [PeFile.thunkLoop, PeFile.thunkLoop]
    refine (offsetOr_agrees profile pe _ _).bind fun offset => .bind (.refl _) fun thunk_data => ?_
    split
    · exact .refl _
    · have hname : Agrees (pe.thunkName .dev thunk_data) (pe.thunkName profile thunk_data) := by
        rw [thunkName_eq_ite, thunkName_eq_ite]
        split
        · exact (offsetOr_agrees profile pe _ _).bind fun _ => .refl _
        · exact .refl _
      exact hname.bind fun _ => .bind (.checked _ _ _ _) fun _ => .bind (.checked _ _ _ _) fun _ =>
        (ih _ _).bind fun _ => .refl _

theorem get_imports_agrees : Agrees (pe.get_imports .dev) (pe.get_imports profile) := by
  have hloop : ∀ fuel dir_offset, Agrees (pe.descriptorLoop .dev fuel dir_offset)
      (pe.descriptorLoop profile fuel dir_offset) := by
    intro fuel
    induction fuel with
    | zero => exact fun _ => .refl _
    | succ fuel ih =>
      intro dir_offset
      rw [PeFile.descriptorLoop, PeFile.descriptorLoop]
      refine .bind (.refl _) fun _ => .bind (.refl _) fun _ => .bind (.refl _) fun _ => .bind (.refl _) fun _ =>
        .bind (.refl _) fun _ => ?_
      split
      · exact .refl _
      · exact (offsetOr_agrees profile pe _ _).bind fun _ => .bind (.refl _) fun _ =>
          (thunkLoop_agrees profile pe _ _ _).bind fun _ => (ih _).bind fun _ => .refl _
  unfold PeFile.get_imports
  refine .bind (.refl _) fun entry => ?_
  simp only
  split
  · exact .refl _
  · exact (offsetOr_agrees profile pe _ _).bind fun _ => hloop _ _

end Profiles

/-- The readers of the export and the import directory end with a value or an
    `Err`, in builds with and without overflow checks, exactly when the tables
    fit that they visit. -/
theorem readers_survive_iff (pe : PeFile) :
    (∀ profile, Survives (pe.get_exports profile) ∧ Survives (pe.get_imports profile)) ↔
      pe.ExportsFit ∧ pe.ImportsFit := by
  rw [← survives_get_exports_iff, ← survives_get_imports_iff]
  constructor
  · exact fun h => h .dev
  · rintro ⟨hexports, himports⟩ profile
    rw [get_exports_agrees profile pe hexports, get_imports_agrees profile pe himports]
    exact ⟨hexports, himports⟩

/-- A file whose import directory starts in its last eight bytes. -/
def shortImportFile : List UInt8 :=
  peImage 0x180000000 0x1000 (0, 0) (0x1000, 20)
    [⟨[0x2E, 0x69, 0x64, 0x61, 0x74, 0x61], 0x1000, 0x1000, 8, 368⟩] (List.replicate 8 0)

def shortImportPe : PeFile where
  entry_point := 0x180001000
  image_base := 0x180000000
  sections := [⟨".idata", 0x180001000, 0x1000, List.replicate 8 0⟩]
  header_data := shortImportFile
  pdb_name := "Unknown"
  pdb_guid_age := "Unknown"
  raw_bytes := shortImportFile

/-- An accepted file makes the import reader panic. -/
theorem not_readers_survive_short_imports :
    parse peCrate shortImportFile = .ok shortImportPe ∧
      shortImportPe.get_imports .release = .error (.panic "range out of range for slice") ∧
      ¬ ∀ profile, Survives (shortImportPe.get_exports profile) ∧ Survives (shortImportPe.get_imports profile) := by
  have hpanic : shortImportPe.get_imports .release = .error (.panic "range out of range for slice") := by
    decide +kernel
  refine ⟨by decide +kernel, hpanic, fun h => ?_⟩
  have hsurvives := (h .release).2
  rw [hpanic] at hsurvives
  exact not_survives_panic _ hsurvives

end vwfl.pe
