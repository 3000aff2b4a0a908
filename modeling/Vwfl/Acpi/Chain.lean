import Vwfl.Acpi.Tables
import Vwfl.ByteStore.Patch

open Rust ByteStore LittleEndian
open vwfl.vm

namespace vwfl.acpi

/-- The length field of the table at an address. -/
def tableLength (mem : Nat → UInt8) (address : Nat) : Nat := (toUInt32 (load mem (address + 4) 4)).toNat

/-- A table with the given signature. As many bytes as its length says were
    stored there, and they sum to zero. -/
structure TableAt (mem : Nat → UInt8) (writes : List (Nat × List UInt8)) (address : Nat) (sig : List UInt8) : Prop where
  signature : load mem address 4 = sig
  written : (address, load mem address (tableLength mem address)) ∈ writes
  checksum : byteSum (load mem address (tableLength mem address)) = 0

/-- Entries that follow each other up to `stop`. Behind its type each holds its
    length. -/
inductive EntriesFill (mem : Nat → UInt8) (stop : Nat) : Nat → Prop
  | done : EntriesFill mem stop stop
  | entry {address : Nat} : 2 ≤ (mem (address + 1)).toNat →
      EntriesFill mem stop (address + (mem (address + 1)).toNat) → EntriesFill mem stop address

section Pointers

variable (mem : Nat → UInt8) (translate : UInt64 → Nat) (rsdp : Nat)

/-- The table that the RSDP points to. -/
def xsdtAddress : Nat := translate (word mem (rsdp + 24))

/-- The tables that the entries of the XSDT point to. -/
def entryAddress (i : Nat) : Nat := translate (word mem (xsdtAddress mem translate rsdp + 36 + 8 * i))

/-- The table that the FADT points to with 64 bits. -/
def dsdtAddress : Nat := translate (word mem (entryAddress mem translate rsdp 0 + 140))

end Pointers

/-- From the RSDP on, every pointer reaches a table of the expected kind. -/
structure ValidChain (mem : Nat → UInt8) (writes : List (Nat × List UInt8)) (translate : UInt64 → Nat) (rsdp : Nat) :
    Prop where
  signature : load mem rsdp 8 = [0x52, 0x53, 0x44, 0x20, 0x50, 0x54, 0x52, 0x20]
  written : (rsdp, load mem rsdp (toUInt32 (load mem (rsdp + 20) 4)).toNat) ∈ writes
  checksum : byteSum (load mem rsdp 20) = 0
  extended_checksum : byteSum (load mem rsdp 36) = 0
  xsdt : TableAt mem writes (xsdtAddress mem translate rsdp) [0x58, 0x53, 0x44, 0x54]
  entries : tableLength mem (xsdtAddress mem translate rsdp) = 36 + 8 * 3
  fadt : TableAt mem writes (entryAddress mem translate rsdp 0) [0x46, 0x41, 0x43, 0x50]
  madt : TableAt mem writes (entryAddress mem translate rsdp 1) [0x41, 0x50, 0x49, 0x43]
  hpet : TableAt mem writes (entryAddress mem translate rsdp 2) [0x48, 0x50, 0x45, 0x54]
  dsdt : TableAt mem writes (dsdtAddress mem translate rsdp) [0x44, 0x53, 0x44, 0x54]
  madt_entries : EntriesFill mem
    (entryAddress mem translate rsdp 1 + tableLength mem (entryAddress mem translate rsdp 1))
    (entryAddress mem translate rsdp 1 + 44)

variable {mem : Nat → UInt8} {writes : List (Nat × List UInt8)} {address : Nat} {table : List UInt8}

/-- A part of a table that memory holds. -/
theorem load_of_holdsAt {offset : Nat} {part : List UInt8} (hload : load mem address table.length = table)
    (hpart : HoldsAt table offset part) : load mem (address + offset) part.length = part := by
  rw [← take_drop_load mem address hpart.inside, hload]
  exact hpart.content

theorem tableAt_of_written {sig : List UInt8} (hwrite : (address, table) ∈ writes)
    (hload : load mem address table.length = table) (hvalid : ValidTable sig table) (hsig : sig.length = 4)
    (hshort : table.length < 2 ^ 32) : TableAt mem writes address sig ∧ tableLength mem address = table.length := by
  have hlength : tableLength mem address = table.length := by
    have hfield := load_of_holdsAt hload hvalid.length
    rw [length_ofUInt32] at hfield
    rw [tableLength, hfield, toUInt32_ofUInt32, UInt32.toNat_ofNat_of_lt' hshort]
  have hsignature := load_of_holdsAt hload hvalid.signature
  rw [hsig] at hsignature
  exact ⟨⟨hsignature, by rwa [hlength, hload], by rw [hlength, hload, hvalid.checksum]⟩, hlength⟩

/-- A pointer in a table that memory holds. -/
theorem word_of_holdsAt {offset : Nat} {pointer : UInt64} (hload : load mem address table.length = table)
    (hpart : HoldsAt table offset (ofUInt64 pointer)) : word mem (address + offset) = pointer := by
  have hfield := load_of_holdsAt hload hpart
  rw [length_ofUInt64] at hfield
  rw [word, hfield, toUInt64_ofUInt64]

theorem EntriesFill.of_length {stop length : Nat} (hlength : (mem (address + 1)).toNat = length) (hlong : 2 ≤ length)
    (hrest : EntriesFill mem stop (address + length)) : EntriesFill mem stop address := by
  subst hlength
  exact .entry hlong hrest

/-- The four entries of the MADT. -/
theorem entriesFill_madt (hload : load mem address madt.length = madt) :
    EntriesFill mem (address + 80) (address + 44) := by
  have hbyte : ∀ index (h : index < madt.length), (mem (address + index)).toNat = madt[index].toNat := by
    intro index hindex
    rw [(load_eq_iff _ _ _).mp hload index hindex]
  have hlapic : (mem (address + 45)).toNat = 8 := (hbyte 45 (by decide)).trans (by decide +kernel)
  have hioapic : (mem (address + 53)).toNat = 12 := (hbyte 53 (by decide)).trans (by decide +kernel)
  have hiso : (mem (address + 65)).toNat = 10 := (hbyte 65 (by decide)).trans (by decide +kernel)
  have hnmi : (mem (address + 75)).toNat = 6 := (hbyte 75 (by decide)).trans (by decide +kernel)
  refine .of_length hlapic (by decide) (.of_length hioapic (by decide) ?_)
  exact .of_length hiso (by decide) (.of_length hnmi (by decide) .done)

theorem tableWrites_pairwise (base_paddr : Nat) (base_vaddr : UInt64) :
    (tableWrites base_paddr base_vaddr).Pairwise fun first second =>
      Disjoint first.1 first.2.length second.1 second.2.length := by
  simp only [tableWrites, List.pairwise_cons, List.forall_mem_cons, List.not_mem_nil, false_implies, implies_true,
    and_true, List.Pairwise.nil, length_dsdt, length_madt, length_fadt, length_hpet, length_xsdt, length_rsdp,
    disjoint_iff]
  omega

/-- Guest memory behind a pointer to the tables. -/
def translate (base_paddr base_vaddr pointer : UInt64) : Nat := (pointer - (base_vaddr - base_paddr)).toNat

theorem translate_add {base_paddr : UInt64} (base_vaddr : UInt64) {offset : UInt64}
    (h : base_paddr.toNat + offset.toNat < 2 ^ 64) :
    translate base_paddr base_vaddr (base_vaddr + offset) = base_paddr.toNat + offset.toNat := by
  have hdistance : base_vaddr + offset - (base_vaddr - base_paddr) = base_paddr + offset := by grind
  rw [translate, hdistance, BitField.toNat_add_of_lt h]

/-- The stored tables form a valid chain. -/
theorem tableWrites_chain (mem : Nat → UInt8) {base_paddr : UInt64} (base_vaddr : UInt64)
    (hbase : base_paddr.toNat + 0x524 < 2 ^ 64) :
    ValidChain (storeAll mem (tableWrites base_paddr.toNat base_vaddr)) (tableWrites base_paddr.toNat base_vaddr)
      (translate base_paddr base_vaddr) base_paddr.toNat := by
  have hloads : ∀ address table, (address, table) ∈ tableWrites base_paddr.toNat base_vaddr →
      load (storeAll mem (tableWrites base_paddr.toNat base_vaddr)) address table.length = table :=
    fun address table => load_storeAll_of_mem mem (tableWrites_pairwise _ _)
  generalize storeAll mem (tableWrites base_paddr.toNat base_vaddr) = stored at hloads ⊢
  have hoffsets : (0x100 : UInt64).toNat = 0x100 ∧ (0x200 : UInt64).toNat = 0x200 ∧ (0x300 : UInt64).toNat = 0x300 ∧
      (0x450 : UInt64).toNat = 0x450 ∧ (0x500 : UInt64).toNat = 0x500 := by decide
  -- The stores of the six tables.
  have hdsdt : (base_paddr.toNat + 0x500, dsdt) ∈ tableWrites base_paddr.toNat base_vaddr := by simp [tableWrites]
  have hmadt : (base_paddr.toNat + 0x200, madt) ∈ tableWrites base_paddr.toNat base_vaddr := by simp [tableWrites]
  have hfadt : (base_paddr.toNat + 0x300, fadt (base_vaddr + 0x500)) ∈ tableWrites base_paddr.toNat base_vaddr := by
    simp [tableWrites]
  have hhpet : (base_paddr.toNat + 0x450, hpet) ∈ tableWrites base_paddr.toNat base_vaddr := by simp [tableWrites]
  have hxsdt : (base_paddr.toNat + 0x100, xsdt (base_vaddr + 0x300) (base_vaddr + 0x200) (base_vaddr + 0x450)) ∈
      tableWrites base_paddr.toNat base_vaddr := by simp [tableWrites]
  have hrsdp : (base_paddr.toNat, rsdp (base_vaddr + 0x100)) ∈ tableWrites base_paddr.toNat base_vaddr := by
    simp [tableWrites]
  have hrsdpLoad := hloads _ _ hrsdp
  have hxsdtLoad := hloads _ _ hxsdt
  obtain ⟨hsignature, hlength, hpointer⟩ := holdsAt_rsdp (base_vaddr + 0x100)
  obtain ⟨hfadt_v, hmadt_v, hhpet_v⟩ := holdsAt_xsdt (base_vaddr + 0x300) (base_vaddr + 0x200) (base_vaddr + 0x450)
  -- The pointers lead to them.
  have hxsdtAddress : xsdtAddress stored (translate base_paddr base_vaddr) base_paddr.toNat =
      base_paddr.toNat + 0x100 := by
    rw [xsdtAddress, word_of_holdsAt hrsdpLoad hpointer, translate_add _ (by omega), hoffsets.1]
  have hentries : entryAddress stored (translate base_paddr base_vaddr) base_paddr.toNat 0 = base_paddr.toNat + 0x300 ∧
      entryAddress stored (translate base_paddr base_vaddr) base_paddr.toNat 1 = base_paddr.toNat + 0x200 ∧
      entryAddress stored (translate base_paddr base_vaddr) base_paddr.toNat 2 = base_paddr.toNat + 0x450 := by
    rw [entryAddress, entryAddress, entryAddress, hxsdtAddress]
    refine ⟨?_, ?_, ?_⟩
    · rw [Nat.add_assoc, word_of_holdsAt hxsdtLoad hfadt_v, translate_add _ (by omega), hoffsets.2.2.1]
    · rw [Nat.add_assoc, word_of_holdsAt hxsdtLoad hmadt_v, translate_add _ (by omega), hoffsets.2.1]
    · rw [Nat.add_assoc, word_of_holdsAt hxsdtLoad hhpet_v, translate_add _ (by omega), hoffsets.2.2.2.1]
  have hdsdtAddress : dsdtAddress stored (translate base_paddr base_vaddr) base_paddr.toNat =
      base_paddr.toNat + 0x500 := by
    rw [dsdtAddress, hentries.1, word_of_holdsAt (hloads _ _ hfadt) (holdsAt_fadt _), translate_add _ (by omega),
      hoffsets.2.2.2.2]
  obtain ⟨hfadtEntry, hmadtEntry, hhpetEntry⟩ := hentries
  obtain ⟨hmadtTable, hmadtLength⟩ :=
    tableAt_of_written hmadt (hloads _ _ hmadt) validTable_madt rfl (by rw [length_madt]; decide)
  obtain ⟨hxsdtTable, hxsdtLength⟩ :=
    tableAt_of_written hxsdt hxsdtLoad (validTable_xsdt _ _ _) rfl (by rw [length_xsdt]; decide)
  have hrsdpLength : (toUInt32 (load stored (base_paddr.toNat + 20) 4)).toNat = 36 := by
    have hfield := load_of_holdsAt hrsdpLoad hlength
    rw [length_ofUInt32] at hfield
    rw [hfield, toUInt32_ofUInt32]
    rfl
  rw [length_rsdp] at hrsdpLoad
  constructor
  case signature => exact load_of_holdsAt (hloads _ _ hrsdp) hsignature
  case written => rwa [hrsdpLength, hrsdpLoad]
  case checksum =>
    have hfront := take_drop_load stored base_paddr.toNat (show 0 + 20 ≤ 36 by decide)
    rw [hrsdpLoad, Nat.add_zero, List.drop_zero] at hfront
    rw [← hfront, (byteSum_rsdp _).1]
  case extended_checksum => rw [hrsdpLoad, (byteSum_rsdp _).2]
  case xsdt => rwa [hxsdtAddress]
  case entries => rw [hxsdtAddress, hxsdtLength, length_xsdt]
  case fadt =>
    rw [hfadtEntry]
    exact (tableAt_of_written hfadt (hloads _ _ hfadt) (validTable_fadt _) rfl (by rw [length_fadt]; decide)).1
  case madt => rwa [hmadtEntry]
  case hpet =>
    rw [hhpetEntry]
    exact (tableAt_of_written hhpet (hloads _ _ hhpet) validTable_hpet rfl (by rw [length_hpet]; decide)).1
  case dsdt =>
    rw [hdsdtAddress]
    exact (tableAt_of_written hdsdt (hloads _ _ hdsdt) validTable_dsdt rfl (by rw [length_dsdt]; decide)).1
  case madt_entries =>
    rw [hmadtEntry, hmadtLength, length_madt]
    exact entriesFill_madt (hloads _ _ hmadt)

section Setup

variable {profile : Profile} {base_paddr base_vaddr rsdp_v : UInt64} {before after : Vm}

/-- When the setup returns, its tables lie in guest memory and nothing else was
    stored. -/
theorem setup_eq_ok (hsetup : (setup profile base_paddr base_vaddr).run before = .ok rsdp_v after) :
    rsdp_v = base_vaddr ∧ base_paddr.toNat + 0x524 ≤ MEM_SIZE.toNat ∧
      after.mem = storeAll before.mem (tableWrites base_paddr.toNat base_vaddr) := by
  obtain ⟨_, last, htables, hreturn⟩ := Stateful.bind_run_eq_ok_iff.mp hsetup
  injection hreturn with hvalue hstate
  subst hstate
  refine ⟨hvalue.symm, ?_⟩
  iterate 10 replace htables := add_then_eq_ok htables
  obtain ⟨hdsdt, htables⟩ := write_then_eq_ok htables
  obtain ⟨_, htables⟩ := write_then_eq_ok htables
  obtain ⟨_, htables⟩ := write_then_eq_ok htables
  obtain ⟨_, htables⟩ := write_then_eq_ok htables
  obtain ⟨_, htables⟩ := write_then_eq_ok htables
  obtain ⟨hrsdp, rfl⟩ := Vm.write_memory_eq_ok htables
  have hsize := MEM_SIZE_toNat
  -- The RSDP lies in guest memory, so no sum with its address wraps.
  have hplace : ∀ offset : UInt64, offset.toNat ≤ 0x500 →
      (base_paddr + offset).toNat = base_paddr.toNat + offset.toNat :=
    fun offset hoffset => BitField.toNat_add_of_lt (by omega)
  have hoffsets : (0x100 : UInt64).toNat = 0x100 ∧ (0x200 : UInt64).toNat = 0x200 ∧ (0x300 : UInt64).toNat = 0x300 ∧
      (0x450 : UInt64).toNat = 0x450 ∧ (0x500 : UInt64).toNat = 0x500 := by decide
  rw [hplace 0x500 (by decide), length_dsdt, hoffsets.2.2.2.2] at hdsdt
  refine ⟨by omega, ?_⟩
  simp only [hplace 0x100 (by decide), hplace 0x200 (by decide), hplace 0x300 (by decide), hplace 0x450 (by decide),
    hplace 0x500 (by decide), hoffsets]
  rfl

/-- Whenever the setup returns, at whatever base, the tables behind the returned
    address form a valid chain and nothing else has changed. -/
theorem setup_chain (hsetup : (setup profile base_paddr base_vaddr).run before = .ok rsdp_v after) :
    ValidChain after.mem (tableWrites base_paddr.toNat base_vaddr) (translate base_paddr base_vaddr)
        (translate base_paddr base_vaddr rsdp_v) ∧
      ∀ address, (∀ write ∈ tableWrites base_paddr.toNat base_vaddr, ¬ Within write.1 write.2.length address) →
        after.mem address = before.mem address := by
  obtain ⟨rfl, hbase, hmem⟩ := setup_eq_ok hsetup
  have hsize := MEM_SIZE_toNat
  have hrsdp := @translate_add base_paddr rsdp_v 0 (show base_paddr.toNat + 0 < 2 ^ 64 by omega)
  rw [UInt64.add_zero] at hrsdp
  rw [hmem, hrsdp]
  exact ⟨tableWrites_chain before.mem rsdp_v (by omega), fun address => storeAll_untouched before.mem _⟩

end Setup

theorem setup_chain_main : ∃ after,
    (setup .dev 0x5000000 0xFFFFF80005000000).run ⟨fun _ => 0⟩ = .ok 0xFFFFF80005000000 after ∧
      ValidChain after.mem (tableWrites 0x5000000 0xFFFFF80005000000) (translate 0x5000000 0xFFFFF80005000000)
        (translate 0x5000000 0xFFFFF80005000000 0xFFFFF80005000000) := by
  have hrun := setup_run .dev (show (0x5000000 : UInt64).toNat + 0x524 ≤ MEM_SIZE.toNat by decide)
    (show (0xFFFFF80005000000 : UInt64).toNat + 0x500 < 2 ^ 64 by decide) ⟨fun _ => 0⟩
  exact ⟨_, hrun, (setup_chain hrun).1⟩

end vwfl.acpi
