import Vwfl.Pe.Fixups
import Vwfl.Pe.Table
import Mathlib.Logic.Relation

open Rust LittleEndian ByteStore
open vwfl.vm

namespace vwfl.pe

/-- A page and a declared size at the front of a relocation block. -/
def HeaderAt (data : List UInt8) (offset : Nat) (page_rva block_size : UInt32) : Prop :=
  HoldsAt data offset (ofUInt32 page_rva ++ ofUInt32 block_size)

/-- The declared size of a block leads to the next one. A size of zero ends the
    table. -/
def NextBlock (data : List UInt8) (offset next : Nat) : Prop :=
  ∃ page_rva block_size, HeaderAt data offset page_rva block_size ∧ block_size ≠ 0 ∧
    next = offset + block_size.toNat

/-- Blocks from the given one on declare a size that holds their header. -/
def BlocksSized (data : List UInt8) (start : Nat) : Prop :=
  ∀ offset, Relation.ReflTransGen (NextBlock data) start offset →
    ∀ page_rva block_size, HeaderAt data offset page_rva block_size → block_size = 0 ∨ 8 ≤ block_size.toNat

/-- A word that an entry names inside the declared bytes of a block. -/
def NamedFrom (data : List UInt8) (start target : Nat) : Prop :=
  ∃ offset page_rva block_size i entry, Relation.ReflTransGen (NextBlock data) start offset ∧
    HeaderAt data offset page_rva block_size ∧ 8 + (i + 1) * 2 ≤ block_size.toNat ∧
    HoldsAt data (offset + 8 + i * 2) (ofUInt16 entry) ∧ target ∈ entryTargets page_rva entry

theorem headerAt_iff {data : List UInt8} {offset : Nat} {page_rva block_size : UInt32} :
    HeaderAt data offset page_rva block_size ↔
      readU32 data offset = .ok page_rva ∧ readU32 data (offset + 4) = .ok block_size := by
  rw [HeaderAt, holdsAt_append, length_ofUInt32, readU32_eq_ok_iff, readU32_eq_ok_iff]

theorem HeaderAt.inside {data : List UInt8} {offset : Nat} {page_rva block_size : UInt32}
    (h : HeaderAt data offset page_rva block_size) : offset + 8 ≤ data.length := by
  have hinside := HoldsAt.inside h
  rwa [List.length_append, length_ofUInt32, length_ofUInt32] at hinside

theorem HeaderAt.unique {data : List UInt8} {offset : Nat} {page_rva block_size page_rva' block_size' : UInt32}
    (h : HeaderAt data offset page_rva block_size) (h' : HeaderAt data offset page_rva' block_size') :
    page_rva = page_rva' ∧ block_size = block_size' := by
  obtain ⟨hpage, hsize⟩ := headerAt_iff.mp h
  obtain ⟨hpage', hsize'⟩ := headerAt_iff.mp h'
  exact ⟨Except.ok.inj (hpage.symm.trans hpage'), Except.ok.inj (hsize.symm.trans hsize')⟩

theorem exists_headerAt {data : List UInt8} {offset : Nat} (h : offset + 8 ≤ data.length) :
    ∃ page_rva block_size, HeaderAt data offset page_rva block_size := by
  have hread : ∀ start, start + 4 ≤ data.length → ∃ value, readU32 data start = .ok value := by
    intro start hstart
    unfold readU32
    rw [slice_of_le ⟨Nat.le_add_right _ _, hstart⟩]
    exact ⟨_, rfl⟩
  obtain ⟨page_rva, hpage⟩ := hread offset (by omega)
  obtain ⟨block_size, hsize⟩ := hread (offset + 4) (by omega)
  exact ⟨page_rva, block_size, headerAt_iff.mpr ⟨hpage, hsize⟩⟩

/-- The words that lie in guest memory. -/
def inMemory (p_base : UInt64) (targets : List Nat) : List Nat :=
  targets.filter fun target => p_base.toNat + target + 8 ≤ MEM_SIZE.toNat

theorem inMemory_append (p_base : UInt64) (first second : List Nat) :
    inMemory p_base (first ++ second) = inMemory p_base first ++ inMemory p_base second := List.filter_append ..

section Runs

variable (profile : Profile) {p_base : UInt64} (hbase : p_base.toNat ≤ MEM_SIZE.toNat) (delta : UInt64)

include hbase

/-- An entry moves the word that it names, if that lies in guest memory. -/
theorem applyEntry_run_inMemory (page_rva : UInt32) (entry : UInt16) (self : Vm) :
    (applyEntry profile p_base delta page_rva entry).run self = .ok ()
      { self with mem := relocated p_base delta self.mem (inMemory p_base (entryTargets page_rva entry)) } := by
  by_cases hfits : ∀ target ∈ entryTargets page_rva entry, p_base.toNat + target + 8 ≤ MEM_SIZE.toNat
  · rw [applyEntry_run profile p_base delta self hfits, inMemory, List.filter_eq_self.mpr (by simpa using hfits)]
  · have htype : entry >>> 12 = 10 := by
      by_contra hother
      exact hfits (by simp [entryTargets, hother])
    have htargets : entryTargets page_rva entry = [page_rva.toNat + (entry &&& 0x0FFF).toNat] := if_pos htype
    rw [htargets, List.forall_mem_singleton] at hfits
    have hsize := MEM_SIZE_toNat
    have hpage := page_rva.toNat_lt
    have hoffset := (entry &&& 0x0FFF).toNat_lt
    have hrva : (page_rva.toUInt64 + (entry &&& 0x0FFF).toUInt64).toNat =
        page_rva.toNat + (entry &&& 0x0FFF).toNat := by
      rw [BitField.toNat_add_of_lt (by rw [UInt32.toNat_toUInt64, UInt16.toNat_toUInt64]; omega), UInt32.toNat_toUInt64,
        UInt16.toNat_toUInt64]
    have hpaddr : (p_base + (page_rva.toUInt64 + (entry &&& 0x0FFF).toUInt64)).toNat =
        p_base.toNat + (page_rva.toNat + (entry &&& 0x0FFF).toNat) := by
      rw [BitField.toNat_add_of_lt (by omega), hrva]
    have height : (8 : UInt64).toNat = 8 := rfl
    have hcheck : ¬ p_base + (page_rva.toUInt64 + (entry &&& 0x0FFF).toUInt64) + 8 ≤ MEM_SIZE := by
      rw [UInt64.le_iff_toNat_le, BitField.toNat_add_of_lt (by omega), hpaddr, height]
      exact hfits
    have hnone : inMemory p_base (entryTargets page_rva entry) = [] := by
      rw [htargets, inMemory, List.filter_cons_of_neg (by simpa using hfits)]
      rfl
    rw [hnone]
    unfold applyEntry
    simp only [if_pos htype]
    rw [profile.add64_of_lt (by omega), Stateful.bind_run, Stateful.lift_ok_run]
    simp only []
    rw [profile.add64_of_lt (by omega), Stateful.bind_run, Stateful.lift_ok_run]
    simp only [if_neg hcheck]
    rfl

/-- The entry loop returns on any data. -/
theorem entryLoop_run_inMemory (page_rva : UInt32) (data : List UInt8) (offset count i : Nat) (self : Vm) :
    (entryLoop profile p_base delta page_rva data offset count i).run self = .ok ()
      { self with
        mem := relocated p_base delta self.mem (inMemory p_base (entryFixups page_rva data offset count i)) } := by
  induction count generalizing i self with
  | zero => rfl
  | succ count ih =>
    rw [entryLoop, entryFixups]
    by_cases hroom : offset + 8 + i * 2 + 2 ≤ data.length
    · obtain ⟨entry, hentry⟩ : ∃ entry, readU16 data (offset + 8 + i * 2) = .ok entry := by
        unfold readU16
        rw [slice_of_le ⟨Nat.le_add_right _ _, hroom⟩]
        exact ⟨_, rfl⟩
      simp only [if_neg (Nat.not_lt.mpr hroom), hentry]
      rw [Stateful.bind_run, Stateful.lift_ok_run]
      simp only []
      rw [Stateful.bind_run, applyEntry_run_inMemory profile hbase delta page_rva entry self]
      simp only []
      rw [ih, inMemory_append, relocated_append]
    · have hnone : ∀ entry, readU16 data (offset + 8 + i * 2) ≠ .ok entry := by
        intro entry hentry
        have hinside := (readU16_eq_ok_iff.mp hentry).inside
        rw [length_ofUInt16] at hinside
        exact hroom hinside
      simp only [if_pos (Nat.lt_of_not_le hroom)]
      cases hread : readU16 data (offset + 8 + i * 2) with
      | ok entry => exact absurd hread (hnone entry)
      | error fault => rfl

omit hbase in
theorem mem_entryFixups {page_rva : UInt32} {data : List UInt8} {offset count i target : Nat}
    (h : target ∈ entryFixups page_rva data offset count i) :
    ∃ j entry, j < i + count ∧ HoldsAt data (offset + 8 + j * 2) (ofUInt16 entry) ∧
      target ∈ entryTargets page_rva entry := by
  induction count generalizing i with
  | zero => cases h
  | succ count ih =>
    rw [entryFixups] at h
    cases hread : readU16 data (offset + 8 + i * 2) with
    | error fault =>
      rw [hread] at h
      cases h
    | ok entry =>
      rw [hread] at h
      rcases List.mem_append.mp h with hhere | hlater
      · exact ⟨i, entry, by omega, readU16_eq_ok_iff.mp hread, hhere⟩
      · obtain ⟨j, found, hj, hholds, htarget⟩ := ih hlater
        exact ⟨j, found, by omega, hholds, htarget⟩

/-- The block loop returns on data whose blocks have a size, and moves only words
    that entries inside the blocks name. -/
theorem blockLoop_run_inMemory {data : List UInt8} {fuel offset : Nat} (hpositive : 0 < fuel)
    (hfuel : data.length < offset + fuel) (hsized : BlocksSized data offset) (self : Vm) :
    ∃ targets, (∀ target ∈ targets, NamedFrom data offset target) ∧
      (blockLoop profile p_base delta data fuel offset).run self = .ok ()
        { self with mem := relocated p_base delta self.mem (inMemory p_base targets) } := by
  induction fuel generalizing offset self with
  | zero => cases hpositive
  | succ fuel ih =>
    rw [blockLoop]
    by_cases hroom : offset + 8 ≤ data.length
    · obtain ⟨page_rva, block_size, hheader⟩ := exists_headerAt hroom
      obtain ⟨hpage, hsize⟩ := headerAt_iff.mp hheader
      simp only [if_pos hroom, hpage, hsize]
      rw [Stateful.bind_run, Stateful.lift_ok_run]
      simp only []
      rw [Stateful.bind_run, Stateful.lift_ok_run]
      simp only []
      by_cases hzero : block_size = 0
      · rw [if_pos hzero]
        exact ⟨[], by simp, rfl⟩
      · have hlarge := (hsized offset .refl page_rva block_size hheader).resolve_left hzero
        have hnext : NextBlock data offset (offset + block_size.toNat) :=
          ⟨page_rva, block_size, hheader, hzero, rfl⟩
        have hsub : profile.sub32 block_size 8 = .ok (block_size - 8) := profile.sub32_of_le hlarge
        have hcount : ((block_size - 8) / 2).toNat = (block_size.toNat - 8) / 2 := by
          have hle : 8 ≤ block_size := UInt32.le_iff_toNat_le.mpr hlarge
          rw [UInt32.toNat_div, UInt32.toNat_sub_of_le _ _ hle]
          rfl
        obtain ⟨targets, hnamed, hrest⟩ := ih (show 0 < fuel by omega)
          (show data.length < offset + block_size.toNat + fuel by omega)
          (fun later hlater => hsized later (.head hnext hlater))
          ⟨relocated p_base delta self.mem (inMemory p_base
            (entryFixups page_rva data offset ((block_size.toNat - 8) / 2) 0))⟩
        rw [if_neg hzero, hsub, Stateful.bind_run, Stateful.lift_ok_run]
        simp only []
        rw [hcount, Stateful.bind_run, entryLoop_run_inMemory profile hbase delta]
        simp only []
        refine ⟨entryFixups page_rva data offset ((block_size.toNat - 8) / 2) 0 ++ targets, ?_, ?_⟩
        · intro target htarget
          rcases List.mem_append.mp htarget with hhere | hlater
          · obtain ⟨i, entry, hi, hholds, hentry⟩ := mem_entryFixups hhere
            exact ⟨offset, page_rva, block_size, i, entry, .refl, hheader, by omega, hholds, hentry⟩
          · obtain ⟨later, page, size, i, entry, hreach, hrest⟩ := hnamed target hlater
            exact ⟨later, page, size, i, entry, .head hnext hreach, hrest⟩
        · rw [hrest, inMemory_append, relocated_append]
    · rw [if_neg hroom]
      exact ⟨[], by simp, rfl⟩

omit hbase in
/-- Under overflow checks, a block loop that returns has met only blocks with a
    size. -/
theorem blocksSized_of_blockLoop {data : List UInt8} {fuel offset : Nat} {before after : Vm}
    (h : (blockLoop .dev p_base delta data fuel offset).run before = .ok () after) : BlocksSized data offset := by
  induction fuel generalizing offset before with
  | zero => cases h
  | succ fuel ih =>
    intro later hlater page_rva block_size hheader
    rw [blockLoop] at h
    -- The first header stands in the data, as the block itself or in front of it.
    obtain ⟨page_here, size_here, hhere⟩ : ∃ page_rva block_size, HeaderAt data offset page_rva block_size := by
      rcases hlater.cases_head with rfl | ⟨next, ⟨page, size, hfirst, _⟩, _⟩
      · exact ⟨_, _, hheader⟩
      · exact ⟨_, _, hfirst⟩
    obtain ⟨hpage, hsize⟩ := headerAt_iff.mp hhere
    simp only [if_pos hhere.inside, hpage, hsize] at h
    obtain ⟨_, _, hread_page, h⟩ := Stateful.bind_run_eq_ok_iff.mp h
    obtain ⟨_, _, hread_size, h⟩ := Stateful.bind_run_eq_ok_iff.mp h
    obtain ⟨hread_page, rfl⟩ := Stateful.lift_run_eq_ok_iff.mp hread_page
    obtain ⟨hread_size, rfl⟩ := Stateful.lift_run_eq_ok_iff.mp hread_size
    cases hread_page
    cases hread_size
    by_cases hzero : size_here = 0
    · rcases hlater.cases_head with rfl | ⟨next, ⟨page, size, hfirst, hpositive, _⟩, _⟩
      · exact .inl ((hheader.unique hhere).2.trans hzero)
      · exact absurd ((hfirst.unique hhere).2.trans hzero) hpositive
    · rw [if_neg hzero] at h
      obtain ⟨_, _, hsub, h⟩ := Stateful.bind_run_eq_ok_iff.mp h
      obtain ⟨_, _, _, hrest⟩ := Stateful.bind_run_eq_ok_iff.mp h
      have hlarge := (Profile.sub32_eq_ok_iff.mp (Stateful.lift_run_eq_ok_iff.mp hsub).1).1 rfl
      rcases hlater.cases_head with rfl | ⟨next, ⟨page, size, hfirst, _, rfl⟩, hreach⟩
      · rw [(hheader.unique hhere).2]
        exact .inr hlarge
      · rw [(hfirst.unique hhere).2] at hreach
        exact ih hrest later hreach page_rva block_size hheader

end Runs

/-- Relocation returns, in builds with and without overflow checks, and all that
    it changes are words named inside the blocks, moved by the distance. -/
def PeFile.RelocatesSafely (pe : PeFile) (data : List UInt8) (p_base v_new : UInt64) : Prop :=
  ∀ profile before, ∃ targets, (∀ target ∈ targets, NamedFrom data 0 target) ∧
    (pe.apply_relocation profile p_base v_new).run before =
      .ok () { before with mem := relocated p_base (v_new - pe.image_base) before.mem targets }

/-- Relocation is safe exactly at the preferred address and on data without a
    block that declares one to seven bytes. -/
theorem relocatesSafely_iff (pe : PeFile) (reloc_section : Section)
    (hfound : pe.sections.find? (·.name == ".reloc") = some reloc_section) (p_base v_new : UInt64)
    (hbase : p_base < MEM_SIZE) :
    pe.RelocatesSafely reloc_section.raw_data p_base v_new ↔
      v_new = pe.image_base ∨ BlocksSized reloc_section.raw_data 0 := by
  have hbase : p_base.toNat ≤ MEM_SIZE.toNat := Nat.le_of_lt (UInt64.lt_iff_toNat_lt.mp hbase)
  have hdelta : v_new - pe.image_base = 0 ↔ v_new = pe.image_base := by
    rw [UInt64.sub_eq_iff_eq_add, UInt64.zero_add]
  unfold PeFile.RelocatesSafely PeFile.apply_relocation
  rw [hfound]
  by_cases hsame : v_new = pe.image_base
  · refine iff_of_true (fun profile before => ⟨[], by simp, ?_⟩) (.inl hsame)
    simp only [if_pos (hdelta.mpr hsame)]
    rfl
  · simp only [if_neg (mt hdelta.mp hsame), hsame, false_or]
    constructor
    · intro h
      obtain ⟨targets, _, hrun⟩ := h .dev ⟨fun _ => 0⟩
      exact blocksSized_of_blockLoop _ hrun
    · intro hsized profile before
      obtain ⟨targets, hnamed, hrun⟩ := blockLoop_run_inMemory profile hbase (v_new - pe.image_base)
        (Nat.succ_pos _) (show reloc_section.raw_data.length < 0 + (reloc_section.raw_data.length + 1) by omega) hsized
        before
      exact ⟨inMemory p_base targets, fun target htarget => hnamed target (List.mem_filter.mp htarget).1, hrun⟩

/-- A file with a relocation section alone. -/
def relocFile (data : List UInt8) : List UInt8 :=
  peImage 0x180000000 0x1000 (0, 0) (0, 0)
    [⟨[0x2E, 0x72, 0x65, 0x6C, 0x6F, 0x63], UInt32.ofNat data.length, 0x1000, UInt32.ofNat data.length, 368⟩] data

def relocFilePe (data : List UInt8) : PeFile where
  entry_point := 0x180001000
  image_base := 0x180000000
  sections := [⟨".reloc", 0x180001000, UInt64.ofNat data.length, data⟩]
  header_data := relocFile data
  pdb_name := "Unknown"
  pdb_guid_age := "Unknown"
  raw_bytes := relocFile data

/-- One block with a DIR64 entry and padding. -/
def oneBlock : List UInt8 := [0x00, 0x10, 0x00, 0x00, 0x0C, 0x00, 0x00, 0x00, 0x02, 0xA0, 0x00, 0x00]

/-- A block that declares four bytes. -/
def shortBlock : List UInt8 := [0x00, 0x10, 0x00, 0x00, 0x04, 0x00, 0x00, 0x00]

theorem relocatesSafely_iff_oneBlock :
    (relocFilePe oneBlock).RelocatesSafely oneBlock 0x2000000 0xFFFFF80002000000 := by
  refine (relocatesSafely_iff (relocFilePe oneBlock) _ rfl 0x2000000 0xFFFFF80002000000 (by decide)).mpr (.inr ?_)
  obtain ⟨⟨⟩, after, hrun, _⟩ := Stateful.of_returns
    (show Stateful.returns (blockLoop .dev 0x2000000 1 oneBlock (oneBlock.length + 1) 0) ⟨fun _ => 0⟩
      (fun _ => true) = true by decide +kernel)
  exact blocksSized_of_blockLoop 1 hrun

/-- The entries of an accepted file are counted from a negative length. -/
theorem not_relocatesSafely_shortBlock :
    parse peCrate (relocFile shortBlock) = .ok (relocFilePe shortBlock) ∧
      ¬ (relocFilePe shortBlock).RelocatesSafely shortBlock 0x2000000 0xFFFFF80002000000 := by
  refine ⟨by decide +kernel, fun h => ?_⟩
  obtain ⟨targets, _, hrun⟩ := h .dev ⟨fun _ => 0⟩
  have hfails : Stateful.returns ((relocFilePe shortBlock).apply_relocation .dev 0x2000000 0xFFFFF80002000000)
      ⟨fun _ => 0⟩ (fun _ => true) = false := by decide +kernel
  rw [Stateful.returns, hrun] at hfails
  cases hfails

end vwfl.pe
