import Vwfl.Pe.BlockWalk

open Rust LittleEndian ByteStore
open vwfl.vm

namespace vwfl.pe

/-- The entries of a block, as many of them as lie in the data. -/
structure EntriesAt (data : List UInt8) (offset : Nat) (block_size : UInt32) (entries : List UInt16) : Prop where
  items : ItemsAt data 2 ofUInt16 (offset + 8) entries
  length : entries.length = min ((block_size.toNat - 8) / 2) ((data.length - (offset + 8)) / 2)
  types : ∀ entry ∈ entries, entry >>> 12 = 0 ∨ entry >>> 12 = 10

/-- A relocation table and the words that it names: blocks of padding and DIR64
    entries, up to a block of size zero or the end of the data. -/
inductive TableAt (data : List UInt8) : Nat → List Nat → Prop
  | last {offset : Nat} (hend : data.length < offset + 8) : TableAt data offset []
  | padding {offset : Nat} {page_rva : UInt32} (hheader : HeaderAt data offset page_rva 0) : TableAt data offset []
  | block {offset : Nat} {page_rva block_size : UInt32} {entries : List UInt16} {targets : List Nat}
      (hheader : HeaderAt data offset page_rva block_size) (hsize : 8 ≤ block_size.toNat)
      (hentries : EntriesAt data offset block_size entries)
      (hrest : TableAt data (offset + block_size.toNat) targets) :
      TableAt data offset (entries.flatMap (entryTargets page_rva) ++ targets)

/-- Blocks and zero padding up to the end of the data form a table. -/
theorem TableAt.of_relocData {data : List UInt8} {offset padding : Nat} {blocks : List RelocBlock}
    (hdata : HoldsAt data offset (relocData blocks padding))
    (hend : data.length = offset + (relocData blocks padding).length) : TableAt data offset (relocTargets blocks) := by
  induction blocks generalizing offset with
  | nil =>
    rw [relocData, List.flatMap_nil, List.nil_append] at hdata hend
    rw [List.length_replicate] at hend
    by_cases hroom : 8 ≤ padding
    · obtain ⟨rest, rfl⟩ := Nat.exists_eq_add_of_le hroom
      rw [List.replicate_add, holdsAt_append] at hdata
      have hheader : HeaderAt data offset 0 0 := hdata.1
      exact .padding hheader
    · exact .last (by omega)
  | cons block blocks ih =>
    have hsplit : relocData (block :: blocks) padding = block.encode ++ relocData blocks padding := by
      rw [relocData, List.flatMap_cons, List.append_assoc]
      rfl
    rw [hsplit] at hdata hend
    obtain ⟨hblock, hrest⟩ := holdsAt_append.mp hdata
    have hsize := block.block_size_toNat
    rw [RelocBlock.encode, ← List.append_assoc] at hblock
    obtain ⟨hheader, hentries⟩ := holdsAt_append.mp hblock
    rw [List.length_append, block.length_encode] at hend
    rw [block.length_encode, ← hsize] at hrest
    have hitems : EntriesAt data offset block.block_size block.entries :=
      { items := .of_flatMap length_ofUInt16 hentries
        length := by omega
        types := block.types }
    exact .block hheader (by omega) hitems (ih hrest (by omega))

section Runs

variable (profile : Profile) (p_base delta : UInt64)

/-- The entry loop moves the words of the entries that lie in the data. -/
theorem entryLoop_run_of_items {page_rva : UInt32} {data : List UInt8} {entries : List UInt16} {offset count i : Nat}
    (hitems : ItemsAt data 2 ofUInt16 (offset + 8 + i * 2) entries)
    (hlength : entries.length = min count ((data.length - (offset + 8 + i * 2)) / 2)) (self : Vm)
    (hfits : ∀ target ∈ entries.flatMap (entryTargets page_rva), p_base.toNat + target + 8 ≤ MEM_SIZE.toNat) :
    (entryLoop profile p_base delta page_rva data offset count i).run self =
      .ok () { self with mem := relocated p_base delta self.mem (entries.flatMap (entryTargets page_rva)) } := by
  induction entries generalizing count i self with
  | nil =>
    cases count with
    | zero => rfl
    | succ count =>
      rw [List.length_nil] at hlength
      have hend : offset + 8 + i * 2 + 2 > data.length := by omega
      simp only [entryLoop, if_pos hend]
      rfl
  | cons entry entries ih =>
    obtain ⟨hentry, hitems⟩ := hitems
    have hinside := hentry.inside
    rw [length_ofUInt16] at hinside
    rw [List.length_cons] at hlength
    obtain ⟨count, rfl⟩ := Nat.exists_eq_succ_of_ne_zero (show count ≠ 0 by omega)
    rw [List.flatMap_cons] at hfits ⊢
    have hhere := applyEntry_run profile p_base delta self
      fun target htarget => hfits target (List.mem_append_left _ htarget)
    have hrest := @ih count (i + 1) (by rw [Nat.succ_mul, ← Nat.add_assoc]; exact hitems) (by omega)
      ⟨relocated p_base delta self.mem (entryTargets page_rva entry)⟩
      fun target htarget => hfits target (List.mem_append_right _ htarget)
    simp only [entryLoop, if_neg (Nat.not_lt.mpr hinside)]
    rw [readU16_eq_ok_iff.mpr hentry, Stateful.bind_run, Stateful.lift_ok_run]
    simp only []
    rw [Stateful.bind_run, hhere]
    simp only []
    rw [hrest, relocated_append]

/-- The block loop moves the words of a table that lie in guest memory. -/
theorem blockLoop_run_of_table {data : List UInt8} {offset fuel : Nat} {targets : List Nat}
    (htable : TableAt data offset targets) (hpositive : 0 < fuel) (hfuel : data.length < offset + fuel)
    (hfits : ∀ target ∈ targets, p_base.toNat + target + 8 ≤ MEM_SIZE.toNat) (self : Vm) :
    (blockLoop profile p_base delta data fuel offset).run self =
      .ok () { self with mem := relocated p_base delta self.mem targets } := by
  obtain ⟨fuel, rfl⟩ := Nat.exists_eq_succ_of_ne_zero (Nat.pos_iff_ne_zero.mp hpositive)
  induction htable generalizing fuel self with
  | last hend =>
    rw [blockLoop, if_neg (Nat.not_le.mpr hend)]
    rfl
  | padding hheader =>
    obtain ⟨hpage, hsize⟩ := headerAt_iff.mp hheader
    simp only [blockLoop, if_pos hheader.inside, hpage, hsize]
    rfl
  | @block offset page_rva block_size entries targets hheader hsize hentries hrest ih =>
    obtain ⟨hpage, hread⟩ := headerAt_iff.mp hheader
    have hinside := hheader.inside
    obtain ⟨fuel, rfl⟩ := Nat.exists_eq_succ_of_ne_zero (show fuel ≠ 0 by omega)
    have hzero : block_size ≠ 0 := by
      rintro rfl
      exact absurd hsize (by decide)
    have hle : 8 ≤ block_size := UInt32.le_iff_toNat_le.mpr hsize
    have hsub : profile.sub32 block_size 8 = .ok (block_size - 8) := profile.sub32_of_le hsize
    have hcount : ((block_size - 8) / 2).toNat = (block_size.toNat - 8) / 2 := by
      rw [UInt32.toNat_div, UInt32.toNat_sub_of_le _ _ hle]
      rfl
    have hblock := entryLoop_run_of_items profile p_base delta (i := 0) hentries.items hentries.length self
      fun target htarget => hfits target (List.mem_append_left _ htarget)
    have hlater := ih (fun target htarget => hfits target (List.mem_append_right _ htarget))
      ⟨relocated p_base delta self.mem (entries.flatMap (entryTargets page_rva))⟩ fuel (Nat.succ_pos _) (by omega)
    rw [blockLoop]
    simp only [if_pos hinside, hpage, hread]
    rw [Stateful.bind_run, Stateful.lift_ok_run]
    simp only []
    rw [Stateful.bind_run, Stateful.lift_ok_run]
    simp only []
    rw [if_neg hzero, hsub, Stateful.bind_run, Stateful.lift_ok_run]
    simp only []
    rw [hcount, Stateful.bind_run, hblock]
    simp only []
    rw [hlater, relocated_append]

end Runs

end vwfl.pe
