import Vwfl.Main.Paging.Devices
import Vwfl.Paging.Space

open Rust ByteStore Paging
open vwfl.vm vwfl.gdb

namespace vwfl.main

/-- Mapped for the kernel alone, data or code. -/
def kernelCode : Rights := ⟨false, true, true⟩

def kernelData : Rights := ⟨false, true, false⟩

def userCode : Rights := ⟨true, true, true⟩

theorem userCode_meet (rights : Rights) : userCode.meet rights = rights := by
  simp [userCode, Rights.meet]

/-- What the tables below a root entry of the high half map: the first
    gibibyte, the HAL window as far as its directory goes, and the pages of the
    two page tables for devices. The first of these is selected twice. -/
def highRegions (hal_index base : Nat) : List Region :=
  [⟨base, 2 ^ 30, 0, kernelCode⟩,
    ⟨base + 2 ^ 30 + hal_index * 2 ^ 21, min 32 (512 - hal_index) * 2 ^ 21, 0x02000000, kernelCode⟩,
    ⟨base + 0xFEC00000, 4096, 0xFEC00000, kernelData⟩, ⟨base + 0xFED00000, 4096, 0xFED00000, kernelData⟩,
    ⟨base + 0xFEE00000, 4096, 0xFEC00000, kernelData⟩, ⟨base + 0xFEF00000, 4096, 0xFED00000, kernelData⟩,
    ⟨base + 0xFF000000, 4096, 0xFEE00000, kernelData⟩]

/-- The shared page, and behind it the pages that the HAL entries become which
    run over the end of their directory. -/
def userRegions (hal_index : Nat) : List Region :=
  ⟨0xFFFFF78000000000, 4096, 0x09000000, userCode⟩ ::
    (List.range (hal_index - 481)).map fun j =>
      ⟨0xFFFFF78000001000 + j * 4096, 4096, (529 + j - hal_index) * 2 ^ 21, kernelCode⟩

def stackRegion : Region := ⟨0xFFFFFE8000000000, 2 ^ 30, 0x0A000000, kernelData⟩

def kernelRegions (hal_index : Nat) : List Region :=
  userRegions hal_index ++ highRegions hal_index 0xFFFFF80000000000 ++
    (stackRegion :: highRegions hal_index 0xFFFFFF8000000000)

private theorem highRegions_apart {hal_index : Nat} (hhal : hal_index < 512) (base : Nat) :
    (highRegions hal_index base).Pairwise Region.Apart := by
  unfold highRegions
  simp only [List.pairwise_cons, List.forall_mem_cons, List.not_mem_nil, false_implies, implies_true, and_true,
    List.Pairwise.nil, Region.Apart]
  omega

private theorem highRegions_within {hal_index : Nat} (hhal : hal_index < 512) (base : Nat) :
    ∀ region ∈ highRegions hal_index base, base ≤ region.start ∧ region.start + region.length ≤ base + 2 ^ 39 := by
  unfold highRegions
  simp only [List.forall_mem_cons, List.not_mem_nil, false_implies, implies_true, and_true]
  omega

private theorem userRegions_apart (hal_index : Nat) : (userRegions hal_index).Pairwise Region.Apart := by
  unfold userRegions
  rw [List.pairwise_cons]
  constructor
  · intro region hmem
    obtain ⟨j, _, rfl⟩ := List.mem_map.mp hmem
    unfold Region.Apart
    dsimp only
    omega
  · rw [List.pairwise_map]
    refine List.pairwise_lt_range.imp ?_
    intro j k hjk
    unfold Region.Apart
    dsimp only
    omega

private theorem userRegions_within {hal_index : Nat} (hhal : hal_index < 512) :
    ∀ region ∈ userRegions hal_index,
      0xFFFFF78000000000 ≤ region.start ∧ region.start + region.length ≤ 0xFFFFF78000000000 + 2 ^ 21 := by
  unfold userRegions
  rw [List.forall_mem_cons]
  refine ⟨by decide, ?_⟩
  intro region hmem
  obtain ⟨j, hj, rfl⟩ := List.mem_map.mp hmem
  have hlt := List.mem_range.mp hj
  dsimp only
  omega

/-- The address space that the boot code means to build, for any place of the
    HAL. -/
def kernelSpace (hal_index : Nat) (hhal : hal_index < 512) : Space where
  regions := kernelRegions hal_index
  apart := by
    have huser := userRegions_within hhal
    have hkernel := highRegions_within hhal 0xFFFFF80000000000
    have halias := highRegions_within hhal 0xFFFFFF8000000000
    unfold kernelRegions
    rw [List.pairwise_append, List.pairwise_append, List.pairwise_cons]
    refine ⟨⟨userRegions_apart hal_index, highRegions_apart hhal _, ?_⟩, ⟨?_, highRegions_apart hhal _⟩, ?_⟩
    · intro first hfirst second hsecond
      have := huser first hfirst
      have := hkernel second hsecond
      unfold Region.Apart
      omega
    · intro region hmem
      have := halias region hmem
      unfold Region.Apart stackRegion
      dsimp only
      omega
    · intro first hfirst second hsecond
      have hbelow : first.start + first.length ≤ 0xFFFFFE8000000000 := by
        rcases List.mem_append.mp hfirst with huserRegion | hkernelRegion
        · have := huser first huserRegion
          omega
        · have := hkernel first hkernelRegion
          omega
      unfold Region.Apart
      rcases List.mem_cons.mp hsecond with rfl | hmem
      · exact .inl hbelow
      · have := halias second hmem
        omega

/-- Slots that the tables use outside the directories of large pages. -/
def pagingSlots : List Nat :=
  [0x400, 0x5ED, 0x5EF, 0x5F0, 0x5FD, 0x5FF, 0x600, 0x601, 0x603, 0x800, 0xA00, 0x1800, 0xC1F6, 0xC1F7, 0xC1F8, 0xC200,
    0xC300, 0xC400]

theorem pagingTable_eq_zero {hal_index slot : Nat} (hhal : hal_index < 512) (hunused : slot ∉ pagingSlots)
    (hrange : slot < 0x1600 ∨ 0x1800 ≤ slot ∧ slot < 0x1A00 ∨ 0x2C00 ≤ slot) : pagingTable hal_index slot = 0 := by
  simp only [pagingSlots, List.mem_cons, List.not_mem_nil, or_false, not_or] at hunused
  unfold pagingTable
  repeat rw [if_neg (by omega)]

variable {mem : Nat → UInt8} {hal_index : Nat}

/-- One level of an access through a word of the area that points to a table. -/
theorem HoldsTables.access_descend (hholds : HoldsTables mem hal_index) {table level address : Nat}
    (first slot : Nat) {entry : UInt64} (hentry : pagingTable hal_index slot = entry)
    (htable : table = pagingBase + 8 * first) (hslot : first + index (level + 1) address = slot)
    (hrange : slot < 0x10000) (hbridge : slot ≠ 0xA000) (hpresent : Present entry.toNat)
    (hlarge : ¬ Large (level + 1) entry.toNat) :
    access (entryAt mem) (level + 1) table address =
      (access (entryAt mem) level (frame entry.toNat) address).map fun reached =>
        (reached.1, (entryRights entry.toNat).meet reached.2) := by
  subst hentry
  exact access_table (hholds.entryAt_eq first htable hslot hrange hbridge) hpresent hlarge

/-- Slots that nothing was written to end an access. -/
theorem HoldsTables.access_unused (hholds : HoldsTables mem hal_index) (hhal : hal_index < 512)
    {table level address : Nat} (first : Nat) (htable : table = pagingBase + 8 * first)
    (hunused : first + index level address ∉ pagingSlots) (hbridge : first + index level address ≠ 0xA000)
    (hrange : first + index level address < 0x1600 ∨
      0x1800 ≤ first + index level address ∧ first + index level address < 0x1A00 ∨
      0x2C00 ≤ first + index level address ∧ first + index level address < 0x10000) :
    access (entryAt mem) level table address = none := by
  have hentry := hholds.entryAt_eq first htable rfl (by omega) hbridge
  rw [pagingTable_eq_zero hhal hunused (by omega)] at hentry
  exact access_absent hentry (by decide)

/-- The directory of the high half's first gibibyte. -/
private theorem HoldsTables.access_first (hholds : HoldsTables mem hal_index) {address base offset : Nat}
    (haddress : address = base * 2 ^ 39 + offset) (hoffset : offset < 2 ^ 30) :
    access (entryAt mem) 1 (frame (0x810D003 : UInt64).toNat) address = some (offset, kernelCode) := by
  have hindex : offset / 2 ^ 21 < 512 := by omega
  have hentry : entryAt mem (frame (0x810D003 : UInt64).toNat + index 1 address * 8) =
      some (pagingTable hal_index (0x1A00 + offset / 2 ^ 21)).toNat :=
    hholds.entryAt_eq 0x1A00 rfl (by unfold index shift; omega) (by omega) (by omega)
  rw [pagingTable_kernel hal_index hindex, kernelEntry_toNat hindex] at hentry
  have hleaf : leaf 1 (offset / 2 ^ 21 * 2 ^ 21 + 0x83) address = offset := by
    unfold leaf shift
    omega
  have hrights : entryRights (offset / 2 ^ 21 * 2 ^ 21 + 0x83) = kernelCode := by
    apply entryRights_eq <;> simp only [kernelCode, Bool.toNat_true, Bool.toNat_false] <;> omega
  rw [access_large hentry (by unfold Present; omega) (by unfold Large; omega), hleaf, hrights]

/-- The directory of the high half's second gibibyte. -/
private theorem HoldsTables.access_second (hholds : HoldsTables mem hal_index) {address base offset : Nat}
    (haddress : address = base * 2 ^ 39 + 2 ^ 30 + offset) (hoffset : offset < 2 ^ 30) :
    access (entryAt mem) 1 (frame (0x8114003 : UInt64).toNat) address =
      if hal_index * 2 ^ 21 ≤ offset ∧ offset < (hal_index + 32) * 2 ^ 21 then
        some (0x02000000 + (offset - hal_index * 2 ^ 21), kernelCode)
      else none := by
  have hindex : offset / 2 ^ 21 < 512 := by omega
  have hentry : entryAt mem (frame (0x8114003 : UInt64).toNat + index 1 address * 8) =
      some (pagingTable hal_index (0x2800 + offset / 2 ^ 21)).toNat :=
    hholds.entryAt_eq 0x2800 rfl (by unfold index shift; omega) (by omega) (by omega)
  rw [pagingTable_hal hal_index hindex] at hentry
  by_cases hwindow : hal_index * 2 ^ 21 ≤ offset ∧ offset < (hal_index + 32) * 2 ^ 21
  · rw [if_pos (by omega), halEntry_toNat (by omega)] at hentry
    have hleaf : leaf 1 ((16 + (offset / 2 ^ 21 - hal_index)) * 2 ^ 21 + 0x83) address =
        0x02000000 + (offset - hal_index * 2 ^ 21) := by
      unfold leaf shift
      omega
    have hrights : entryRights ((16 + (offset / 2 ^ 21 - hal_index)) * 2 ^ 21 + 0x83) = kernelCode := by
      apply entryRights_eq <;> simp only [kernelCode, Bool.toNat_true, Bool.toNat_false] <;> omega
    rw [if_pos hwindow, access_large hentry (by unfold Present; omega) (by unfold Large; omega), hleaf, hrights]
  · rw [if_neg (by omega)] at hentry
    rw [if_neg hwindow]
    exact access_absent hentry (by decide)

/-- The page a device's slot of a page table maps. -/
private theorem HoldsTables.access_device (hholds : HoldsTables mem hal_index) {table address : Nat}
    (first slot page : Nat) {entry : UInt64} (hentry : pagingTable hal_index slot = entry)
    (hword : entry.toNat = page * 2 ^ 12 + 0x1B + 2 ^ 63) (hpage : page < 2 ^ 40)
    (htable : table = pagingBase + 8 * first) (hslot : first + index 0 address = slot) (hrange : slot < 0x10000)
    (hbridge : slot ≠ 0xA000) :
    access (entryAt mem) 0 table address = some (page * 2 ^ 12 + address % 2 ^ 12, kernelData) := by
  have hread := hholds.entryAt_eq first htable hslot hrange hbridge
  rw [hentry, hword] at hread
  have hleaf : leaf 0 (page * 2 ^ 12 + 0x1B + 2 ^ 63) address = page * 2 ^ 12 + address % 2 ^ 12 := by
    unfold leaf shift
    omega
  have hrights : entryRights (page * 2 ^ 12 + 0x1B + 2 ^ 63) = kernelData := by
    apply entryRights_eq <;> simp only [kernelData, Bool.toNat_true, Bool.toNat_false] <;> omega
  rw [access_page hread (by unfold Present; omega), hleaf, hrights]

theorem pagingTable_local_apic (hal_index : Nat) :
    pagingTable hal_index 0xC1F8 = 0x8162003 ∧ pagingTable hal_index 0xC400 = 0x80000000FEE0001B := by
  unfold pagingTable
  refine ⟨?_, ?_⟩ <;> repeat rw [if_neg (by omega)]
  all_goals rw [if_pos rfl]

/-- The page table that two directory entries share. -/
private theorem HoldsTables.access_shared (hholds : HoldsTables mem hal_index) (hhal : hal_index < 512)
    (address : Nat) :
    access (entryAt mem) 0 (frame (0x8161003 : UInt64).toNat) address =
      if index 0 address = 0 then some (0xFEC00000 + address % 2 ^ 12, kernelData)
      else if index 0 address = 0x100 then some (0xFED00000 + address % 2 ^ 12, kernelData)
      else none := by
  obtain ⟨_, _, _, hioapic, hhpet⟩ := pagingTable_devices hal_index
  split
  · exact hholds.access_device 0xC200 0xC200 0xFEC00 hioapic rfl (by decide) rfl (by omega) (by decide) (by decide)
  · split
    · exact hholds.access_device 0xC200 0xC300 0xFED00 hhpet rfl (by decide) rfl (by omega) (by decide) (by decide)
    · have hindex := index_lt 0 address
      refine hholds.access_unused hhal 0xC200 rfl ?_ (by omega) (by omega)
      simp only [pagingSlots, List.mem_cons, List.not_mem_nil, or_false, not_or]
      omega

/-- The table behind the entry that is meant for the local APIC. -/
private theorem HoldsTables.access_last (hholds : HoldsTables mem hal_index) (hhal : hal_index < 512)
    (address : Nat) :
    access (entryAt mem) 0 (frame (0x8162003 : UInt64).toNat) address =
      if index 0 address = 0 then some (0xFEE00000 + address % 2 ^ 12, kernelData) else none := by
  have hapic := (pagingTable_local_apic hal_index).2
  split
  · exact hholds.access_device 0xC400 0xC400 0xFEE00 hapic rfl (by decide) rfl (by omega) (by decide) (by decide)
  · have hindex := index_lt 0 address
    refine hholds.access_unused hhal 0xC400 rfl ?_ (by omega) (by omega)
    simp only [pagingSlots, List.mem_cons, List.not_mem_nil, or_false, not_or]
    omega

/-- The directory of the devices. Both of its first two entries select the
    shared page table. -/
private theorem HoldsTables.access_devices (hholds : HoldsTables mem hal_index) (hhal : hal_index < 512)
    (address : Nat) :
    access (entryAt mem) 1 (frame (0x8160003 : UInt64).toNat) address =
      if index 1 address = 502 ∨ index 1 address = 503 then
        access (entryAt mem) 0 (frame (0x8161003 : UInt64).toNat) address
      else if index 1 address = 504 then access (entryAt mem) 0 (frame (0x8162003 : UInt64).toNat) address
      else none := by
  obtain ⟨_, hfirst, hsecond, _, _⟩ := pagingTable_devices hal_index
  have hthird := (pagingTable_local_apic hal_index).1
  by_cases hfirstIndex : index 1 address = 502
  · rw [if_pos (.inl hfirstIndex), hholds.access_shared hhal]
    refine (hholds.access_descend 0xC000 0xC1F6 hfirst rfl (by rw [hfirstIndex]) (by decide) (by decide) (by decide)
      (by decide)).trans ?_
    rw [hholds.access_shared hhal]
    split_ifs <;> rfl
  · by_cases hsecondIndex : index 1 address = 503
    · have hframe : frame (0x8161803 : UInt64).toNat = frame (0x8161003 : UInt64).toNat := rfl
      rw [if_pos (.inr hsecondIndex), hholds.access_shared hhal]
      refine (hholds.access_descend 0xC000 0xC1F7 hsecond rfl (by rw [hsecondIndex]) (by decide) (by decide)
        (by decide) (by decide)).trans ?_
      rw [hframe, hholds.access_shared hhal]
      split_ifs <;> rfl
    · rw [if_neg (by omega)]
      by_cases hthirdIndex : index 1 address = 504
      · rw [if_pos hthirdIndex, hholds.access_last hhal]
        refine (hholds.access_descend 0xC000 0xC1F8 hthird rfl (by rw [hthirdIndex]) (by decide) (by decide)
          (by decide) (by decide)).trans ?_
        rw [hholds.access_last hhal]
        split_ifs <;> rfl
      · have hindex := index_lt 1 address
        rw [if_neg hthirdIndex]
        refine hholds.access_unused hhal 0xC000 rfl ?_ (by omega) (by omega)
        simp only [pagingSlots, List.mem_cons, List.not_mem_nil, or_false, not_or]
        omega

/-- The directory pointers of the high half. -/
private theorem HoldsTables.access_pointers (hholds : HoldsTables mem hal_index) (hhal : hal_index < 512)
    (address : Nat) :
    access (entryAt mem) 2 (frame (0x8103003 : UInt64).toNat) address =
      Option.map (fun reached => (reached.1, kernelCode.meet reached.2))
        (if index 2 address = 0 then access (entryAt mem) 1 (frame (0x810D003 : UInt64).toNat) address
        else if index 2 address = 1 then access (entryAt mem) 1 (frame (0x8114003 : UInt64).toNat) address
        else if index 2 address = 3 then access (entryAt mem) 1 (frame (0x8160003 : UInt64).toNat) address
        else none) := by
  obtain ⟨hfirst, hsecond⟩ := pagingTable_pdpt hal_index
  obtain ⟨hdevices, _⟩ := pagingTable_devices hal_index
  by_cases hfirstIndex : index 2 address = 0
  · rw [if_pos hfirstIndex]
    exact hholds.access_descend 0x600 0x600 hfirst rfl (by rw [hfirstIndex]) (by decide) (by decide) (by decide)
      (by decide)
  · by_cases hsecondIndex : index 2 address = 1
    · rw [if_neg hfirstIndex, if_pos hsecondIndex]
      exact hholds.access_descend 0x600 0x601 hsecond rfl (by rw [hsecondIndex]) (by decide) (by decide) (by decide)
        (by decide)
    · by_cases hthirdIndex : index 2 address = 3
      · rw [if_neg hfirstIndex, if_neg hsecondIndex, if_pos hthirdIndex]
        exact hholds.access_descend 0x600 0x603 hdevices rfl (by rw [hthirdIndex]) (by decide) (by decide)
          (by decide) (by decide)
      · have hindex := index_lt 2 address
        rw [if_neg hfirstIndex, if_neg hsecondIndex, if_neg hthirdIndex]
        refine hholds.access_unused hhal 0x600 rfl ?_ (by omega) (by omega)
        simp only [pagingSlots, List.mem_cons, List.not_mem_nil, or_false, not_or]
        omega

/-- What is mapped of the high half's fourth gibibyte. -/
private theorem HoldsTables.access_fourth (hholds : HoldsTables mem hal_index) (hhal : hal_index < 512)
    {address base x : Nat} (haddress : address = base * 2 ^ 39 + x) (hlow : 3 * 2 ^ 30 ≤ x) (hhigh : x < 2 ^ 32) :
    access (entryAt mem) 1 (frame (0x8160003 : UInt64).toNat) address =
      if x / 4096 = 0xFEC00 ∨ x / 4096 = 0xFEE00 then some (0xFEC00000 + x % 4096, kernelData)
      else if x / 4096 = 0xFED00 ∨ x / 4096 = 0xFEF00 then some (0xFED00000 + x % 4096, kernelData)
      else if x / 4096 = 0xFF000 then some (0xFEE00000 + x % 4096, kernelData)
      else none := by
  have hdirectory : index 1 address = x / 4096 / 512 % 512 := by
    unfold index shift
    omega
  have hpage : index 0 address = x / 4096 % 512 := by
    unfold index shift
    omega
  have hoffset : address % 2 ^ 12 = x % 4096 := by omega
  rw [hholds.access_devices hhal, hholds.access_shared hhal, hholds.access_last hhal, hdirectory, hpage, hoffset]
  split_ifs <;> first | rfl | omega

private theorem highRegions_cover {address base offset : Nat} {region : Region} (hhal : hal_index < 512)
    (haddress : address = base + offset) (hmem : region ∈ highRegions hal_index base)
    (hcovers : region.Covers address) :
    offset < 2 ^ 30 ∨
      2 ^ 30 + hal_index * 2 ^ 21 ≤ offset ∧ offset < 2 ^ 30 + (hal_index + 32) * 2 ^ 21 ∧ offset < 2 ^ 31 ∨
      offset / 4096 = 0xFEC00 ∨ offset / 4096 = 0xFEE00 ∨ offset / 4096 = 0xFED00 ∨ offset / 4096 = 0xFEF00 ∨
      offset / 4096 = 0xFF000 := by
  unfold Region.Covers at hcovers
  simp only [highRegions, List.mem_cons, List.not_mem_nil, or_false] at hmem
  rcases hmem with rfl | rfl | rfl | rfl | rfl | rfl | rfl <;> dsimp only at hcovers <;> omega

/-- The tables below a root entry of the high half map its regions. -/
private theorem HoldsTables.describes_high (hholds : HoldsTables mem hal_index) (hhal : hal_index < 512)
    {address base offset : Nat} (haddress : address = base * 2 ^ 39 + offset) (hoffset : offset < 2 ^ 39) :
    Describes (highRegions hal_index (base * 2 ^ 39)) address
      (access (entryAt mem) 2 (frame (0x8103003 : UInt64).toNat) address) := by
  have hindex : index 2 address = offset / 2 ^ 30 := by
    unfold index shift
    omega
  rw [hholds.access_pointers hhal, hindex]
  by_cases hfirst : offset < 2 ^ 30
  · rw [if_pos (by omega), hholds.access_first haddress hfirst]
    exact describes_of_mem List.mem_cons_self (by omega) (by omega) (by omega)
  by_cases hsecond : offset < 2 ^ 31
  · obtain ⟨inner, rfl⟩ := Nat.exists_eq_add_of_le (Nat.le_of_not_lt hfirst)
    have hinside : address = base * 2 ^ 39 + 2 ^ 30 + inner := haddress.trans (Nat.add_assoc _ _ _).symm
    rw [if_neg (by omega), if_pos (by omega), hholds.access_second hinside (by omega)]
    split
    · exact describes_of_mem (List.mem_cons_of_mem _ List.mem_cons_self) (by omega) (by omega) (by omega)
    · apply Describes.unmapped
      intro region hmem hcovers
      have hcover := highRegions_cover hhal haddress hmem hcovers
      omega
  rw [if_neg (by omega), if_neg (by omega)]
  by_cases hfourth : 3 * 2 ^ 30 ≤ offset ∧ offset < 2 ^ 32
  · rw [if_pos (by omega), hholds.access_fourth hhal haddress hfourth.1 hfourth.2]
    split_ifs with hioapic hhpet hapic
    · obtain ⟨page, hpage, haligned, hmem⟩ : ∃ page, offset / 4096 = page / 4096 ∧ page % 4096 = 0 ∧
          ⟨base * 2 ^ 39 + page, 4096, 0xFEC00000, kernelData⟩ ∈ highRegions hal_index (base * 2 ^ 39) := by
        simp only [highRegions, List.mem_cons]
        rcases hioapic with h | h
        · exact ⟨0xFEC00000, h, rfl, by simp only [true_or, or_true]⟩
        · exact ⟨0xFEE00000, h, rfl, by simp only [true_or, or_true]⟩
      exact describes_of_mem hmem (by omega) (by omega) (by omega)
    · obtain ⟨page, hpage, haligned, hmem⟩ : ∃ page, offset / 4096 = page / 4096 ∧ page % 4096 = 0 ∧
          ⟨base * 2 ^ 39 + page, 4096, 0xFED00000, kernelData⟩ ∈ highRegions hal_index (base * 2 ^ 39) := by
        simp only [highRegions, List.mem_cons]
        rcases hhpet with h | h
        · exact ⟨0xFED00000, h, rfl, by simp only [true_or, or_true]⟩
        · exact ⟨0xFEF00000, h, rfl, by simp only [true_or, or_true]⟩
      exact describes_of_mem hmem (by omega) (by omega) (by omega)
    · have hmem : ⟨base * 2 ^ 39 + 0xFF000000, 4096, 0xFEE00000, kernelData⟩ ∈
          highRegions hal_index (base * 2 ^ 39) := by
        simp only [highRegions, List.mem_cons, true_or, or_true]
      exact describes_of_mem hmem (by omega) (by omega) (by omega)
    · apply Describes.unmapped
      intro region hmem hcovers
      have hcover := highRegions_cover hhal haddress hmem hcovers
      omega
  · rw [if_neg (by omega)]
    apply Describes.unmapped
    intro region hmem hcovers
    have hcover := highRegions_cover hhal haddress hmem hcovers
    omega

/-- The tables below the root entry of the stack map its gibibyte. -/
private theorem HoldsTables.describes_stack (hholds : HoldsTables mem hal_index) (hhal : hal_index < 512)
    {address offset : Nat} (haddress : address = 0xFFFFFE8000000000 + offset) (hoffset : offset < 2 ^ 39) :
    Describes [stackRegion] address (access (entryAt mem) 2 (frame (0x8000000008104003 : UInt64).toNat) address) := by
  have hpointer : index 2 address = offset / 2 ^ 30 := by
    unfold index shift
    omega
  by_cases hinside : offset < 2 ^ 30
  · have hzero : index 2 address = 0 := by omega
    have hindex : offset / 2 ^ 21 < 512 := by omega
    have hentry : entryAt mem (frame (0x800000000810B003 : UInt64).toNat + index 1 address * 8) =
        some (pagingTable hal_index (0x1600 + offset / 2 ^ 21)).toNat :=
      hholds.entryAt_eq 0x1600 rfl (by unfold index shift; omega) (by omega) (by omega)
    rw [pagingTable_stack hal_index hindex, stackEntry_toNat hindex] at hentry
    have hrights : entryRights ((80 + offset / 2 ^ 21) * 2 ^ 21 + 0x83 + 2 ^ 63) = kernelData := by
      apply entryRights_eq <;> simp only [kernelData, Bool.toNat_true, Bool.toNat_false] <;> omega
    have hdescend : access (entryAt mem) 2 (frame (0x8000000008104003 : UInt64).toNat) address =
        (access (entryAt mem) 1 (frame (0x800000000810B003 : UInt64).toNat) address).map fun reached =>
          (reached.1, kernelData.meet reached.2) :=
      hholds.access_descend 0x800 0x800 (pagingTable_stack_pdpt hal_index) rfl (by rw [hzero]) (by decide) (by decide)
        (by decide) (by decide)
    rw [hdescend, access_large hentry (by unfold Present; omega) (by unfold Large; omega), hrights]
    refine describes_of_mem (List.mem_singleton.mpr rfl) (by omega) (by omega) ?_
    unfold leaf shift
    omega
  · have hunused : access (entryAt mem) 2 (frame (0x8000000008104003 : UInt64).toNat) address = none := by
      refine hholds.access_unused hhal 0x800 rfl ?_ (by omega) (by omega)
      simp only [pagingSlots, List.mem_cons, List.not_mem_nil, or_false, not_or]
      omega
    rw [hunused]
    apply Describes.unmapped
    intro region hmem hcovers
    rw [List.mem_singleton] at hmem
    subst hmem
    unfold Region.Covers stackRegion at hcovers
    dsimp only at hcovers
    omega

private theorem userRegions_cover {address offset : Nat} {region : Region} (hhal : hal_index < 512)
    (haddress : address = 0xFFFFF78000000000 + offset) (hmem : region ∈ userRegions hal_index)
    (hcovers : region.Covers address) : offset / 4096 = 0 ∨ offset / 4096 + 480 < hal_index := by
  unfold Region.Covers at hcovers
  rcases List.mem_cons.mp hmem with rfl | hspilled
  · dsimp only at hcovers
    omega
  · obtain ⟨j, hj, rfl⟩ := List.mem_map.mp hspilled
    have hlt := List.mem_range.mp hj
    dsimp only at hcovers
    omega

/-- The page table of the user window. -/
private theorem HoldsTables.describes_page (hholds : HoldsTables mem hal_index) (hhal : hal_index < 512)
    {address offset : Nat} (haddress : address = 0xFFFFF78000000000 + offset) (hoffset : offset < 2 ^ 21) :
    Describes (userRegions hal_index) address
      (access (entryAt mem) 0 (frame (0x8115007 : UInt64).toNat) address) := by
  have hpage : offset / 2 ^ 12 < 512 := by omega
  have hentry : entryAt mem (frame (0x8115007 : UInt64).toNat + index 0 address * 8) =
      some (pagingTable hal_index (0x2A00 + offset / 2 ^ 12)).toNat :=
    hholds.entryAt_eq 0x2A00 rfl (by unfold index shift; omega) (by omega) (by omega)
  rw [pagingTable_user hal_index hpage] at hentry
  split_ifs at hentry with hshared hspilled
  · have hword : (0x9000007 : UInt64).toNat = 0x9000007 := rfl
    have hrights : entryRights 0x9000007 = userCode := by decide
    rw [access_page hentry (by decide), hword, hrights]
    refine describes_of_mem List.mem_cons_self (by omega) (by omega) ?_
    unfold leaf shift
    omega
  · rw [halEntry_toNat (by omega)] at hentry
    have hrights : entryRights ((16 + (512 + offset / 2 ^ 12 - hal_index)) * 2 ^ 21 + 0x83) = kernelCode := by
      apply entryRights_eq <;> simp only [kernelCode, Bool.toNat_true, Bool.toNat_false] <;> omega
    have hmem : ⟨0xFFFFF78000001000 + (offset / 2 ^ 12 - 1) * 4096, 4096,
        (529 + (offset / 2 ^ 12 - 1) - hal_index) * 2 ^ 21, kernelCode⟩ ∈ userRegions hal_index :=
      List.mem_cons_of_mem _ (List.mem_map.mpr ⟨offset / 2 ^ 12 - 1, List.mem_range.mpr (by omega), rfl⟩)
    rw [access_page hentry (by unfold Present; omega), hrights]
    refine describes_of_mem hmem (by omega) (by omega) ?_
    unfold leaf shift
    omega
  · rw [access_absent hentry (by decide)]
    apply Describes.unmapped
    intro region hmem hcovers
    have hcover := userRegions_cover hhal haddress hmem hcovers
    omega

/-- The tables below the root entry of the user window. -/
private theorem HoldsTables.describes_user (hholds : HoldsTables mem hal_index) (hhal : hal_index < 512)
    {address offset : Nat} (haddress : address = 0xFFFFF78000000000 + offset) (hoffset : offset < 2 ^ 39) :
    Describes (userRegions hal_index) address
      (access (entryAt mem) 2 (frame (0x8105007 : UInt64).toNat) address) := by
  have hpointer : index 2 address = offset / 2 ^ 30 := by
    unfold index shift
    omega
  have hdirectory : index 1 address = offset / 2 ^ 21 % 512 := by
    unfold index shift
    omega
  have houtside : 2 ^ 21 ≤ offset → Describes (userRegions hal_index) address none := by
    intro hpast
    apply Describes.unmapped
    intro region hmem hcovers
    have hcover := userRegions_cover hhal haddress hmem hcovers
    omega
  by_cases hfirst : index 2 address = 0
  · have hdescend : access (entryAt mem) 2 (frame (0x8105007 : UInt64).toNat) address =
        (access (entryAt mem) 1 (frame (0x810C007 : UInt64).toNat) address).map fun reached =>
          (reached.1, userCode.meet reached.2) :=
      hholds.access_descend 0xA00 0xA00 (pagingTable_user_path hal_index).1 rfl (by rw [hfirst]) (by decide)
        (by decide) (by decide) (by decide)
    rw [hdescend]
    by_cases hsecond : index 1 address = 0
    · have hpage : access (entryAt mem) 1 (frame (0x810C007 : UInt64).toNat) address =
          (access (entryAt mem) 0 (frame (0x8115007 : UInt64).toNat) address).map fun reached =>
            (reached.1, userCode.meet reached.2) :=
        hholds.access_descend 0x1800 0x1800 (pagingTable_user_path hal_index).2 rfl (by rw [hsecond]) (by decide)
          (by decide) (by decide) (by decide)
      rw [hpage]
      apply Describes.map_meet
      · apply Describes.map_meet (hholds.describes_page hhal haddress (by omega))
        exact fun region _ => userCode_meet region.rights
      · exact fun region _ => userCode_meet region.rights
    · have hindex := index_lt 1 address
      have hunused : access (entryAt mem) 1 (frame (0x810C007 : UInt64).toNat) address = none := by
        refine hholds.access_unused hhal 0x1800 rfl ?_ (by omega) (by omega)
        simp only [pagingSlots, List.mem_cons, List.not_mem_nil, or_false, not_or]
        omega
      rw [hunused]
      exact houtside (by omega)
  · have hindex := index_lt 2 address
    have hunused : access (entryAt mem) 2 (frame (0x8105007 : UInt64).toNat) address = none := by
      refine hholds.access_unused hhal 0xA00 rfl ?_ (by omega) (by omega)
      simp only [pagingSlots, List.mem_cons, List.not_mem_nil, or_false, not_or]
      omega
    rw [hunused]
    exact houtside (by omega)

/-- Each root entry in use has the regions that lie in its part. -/
private theorem mem_kernelRegions {address : Nat} {region : Region} (hhal : hal_index < 512)
    (hmem : region ∈ kernelRegions hal_index) (hcovers : region.Covers address) :
    region ∈ userRegions hal_index ∧ address / 2 ^ 39 = 0x1FFFFEF ∨
      region ∈ highRegions hal_index 0xFFFFF80000000000 ∧ address / 2 ^ 39 = 0x1FFFFF0 ∨
      region ∈ [stackRegion] ∧ address / 2 ^ 39 = 0x1FFFFFD ∨
      region ∈ highRegions hal_index 0xFFFFFF8000000000 ∧ address / 2 ^ 39 = 0x1FFFFFF := by
  unfold Region.Covers at hcovers
  simp only [kernelRegions, List.mem_append, List.mem_cons, or_assoc] at hmem
  rcases hmem with huser | hkernel | rfl | halias
  · have := userRegions_within hhal region huser
    exact .inl ⟨huser, by omega⟩
  · have := highRegions_within hhal _ region hkernel
    exact .inr (.inl ⟨hkernel, by omega⟩)
  · unfold stackRegion at hcovers
    dsimp only at hcovers
    exact .inr (.inr (.inl ⟨List.mem_singleton.mpr rfl, by omega⟩))
  · have := highRegions_within hhal _ region halias
    exact .inr (.inr (.inr ⟨halias, by omega⟩))

/-- Addresses whose upper sixteen bits repeat bit 47. -/
def Canonical (vaddr : UInt64) : Prop := vaddr.toNat / 2 ^ 47 = 0 ∨ vaddr.toNat / 2 ^ 47 = 0x1FFFF

instance (vaddr : UInt64) : Decidable (Canonical vaddr) := inferInstanceAs (Decidable (_ ∨ _))

/-- What an access through the tables at `cr3` reaches, and its rights. -/
def accessAt (mem : Nat → UInt8) (cr3 vaddr : UInt64) : Option (Nat × Rights) :=
  access (entryAt mem) 3 (frame cr3.toNat) vaddr.toNat

/-- One root entry that selects a table, and the regions of the space that lie
    below it. -/
private theorem HoldsTables.describes_entry (hholds : HoldsTables mem hal_index) {vaddr : UInt64}
    {regions : List Region} (slot : Nat) {entry : UInt64} (hentry : pagingTable hal_index (0x400 + slot) = entry)
    (hslot : index 3 vaddr.toNat = slot) (hrange : slot < 512) (hpresent : Present entry.toNat)
    (hbelow : Describes regions vaddr.toNat (access (entryAt mem) 2 (frame entry.toNat) vaddr.toNat))
    (hrights : ∀ region ∈ regions, (entryRights entry.toNat).meet region.rights = region.rights)
    (hsub : ∀ region ∈ regions, region ∈ kernelRegions hal_index)
    (hother : ∀ region ∈ kernelRegions hal_index, region.Covers vaddr.toNat → region ∈ regions) :
    Describes (kernelRegions hal_index) vaddr.toNat (accessAt mem SYSTEM_CR3 vaddr) := by
  have hdescend : accessAt mem SYSTEM_CR3 vaddr =
      (access (entryAt mem) 2 (frame entry.toNat) vaddr.toNat).map fun reached =>
        (reached.1, (entryRights entry.toNat).meet reached.2) :=
    hholds.access_descend 0x400 (0x400 + slot) hentry rfl (by rw [hslot]) (by omega) (by omega) hpresent
      (by unfold Large; omega)
  rw [hdescend]
  exact (hbelow.map_meet hrights).extend hsub hother

private theorem highRegions_rights (base : Nat) :
    ∀ region ∈ highRegions hal_index base, kernelCode.meet region.rights = region.rights := by
  unfold highRegions
  simp only [List.forall_mem_cons, List.not_mem_nil, false_implies, implies_true, and_true]
  decide

theorem HoldsTables.describes (hholds : HoldsTables mem hal_index) (hhal : hal_index < 512) {vaddr : UInt64}
    (hcanonical : Canonical vaddr) (hself : index 3 vaddr.toNat ≠ 493) :
    Describes (kernelRegions hal_index) vaddr.toNat (accessAt mem SYSTEM_CR3 vaddr) := by
  have hroot : index 3 vaddr.toNat = vaddr.toNat / 2 ^ 39 % 512 := rfl
  have hdigit := index_lt 3 vaddr.toNat
  unfold Canonical at hcanonical
  obtain ⟨hkernel, halias, hlow, huser, _, hstack⟩ := pagingTable_root hal_index
  by_cases hkernelSlot : index 3 vaddr.toNat = 496
  · have hpart : vaddr.toNat / 2 ^ 39 = 0x1FFFFF0 := by omega
    have haddress : vaddr.toNat = 0x1FFFFF0 * 2 ^ 39 + (vaddr.toNat - 0x1FFFFF0 * 2 ^ 39) := by omega
    refine hholds.describes_entry 496 hkernel hkernelSlot (by decide) (by decide)
      (hholds.describes_high hhal haddress (by omega)) (highRegions_rights _) ?_ ?_
    · intro region hmem
      exact List.mem_append_left _ (List.mem_append_right _ hmem)
    · intro region hmem hcovers
      have hother := mem_kernelRegions hhal hmem hcovers
      rw [hpart] at hother
      simpa using hother
  by_cases haliasSlot : index 3 vaddr.toNat = 511
  · have hpart : vaddr.toNat / 2 ^ 39 = 0x1FFFFFF := by omega
    have haddress : vaddr.toNat = 0x1FFFFFF * 2 ^ 39 + (vaddr.toNat - 0x1FFFFFF * 2 ^ 39) := by omega
    refine hholds.describes_entry 511 halias haliasSlot (by decide) (by decide)
      (hholds.describes_high hhal haddress (by omega)) (highRegions_rights _) ?_ ?_
    · intro region hmem
      exact List.mem_append_right _ (List.mem_cons_of_mem _ hmem)
    · intro region hmem hcovers
      have hother := mem_kernelRegions hhal hmem hcovers
      rw [hpart] at hother
      simpa using hother
  by_cases huserSlot : index 3 vaddr.toNat = 495
  · have hpart : vaddr.toNat / 2 ^ 39 = 0x1FFFFEF := by omega
    have haddress : vaddr.toNat = 0xFFFFF78000000000 + (vaddr.toNat - 0xFFFFF78000000000) := by omega
    refine hholds.describes_entry 495 huser huserSlot (by decide) (by decide)
      (hholds.describes_user hhal haddress (by omega)) (fun region _ => userCode_meet region.rights) ?_ ?_
    · intro region hmem
      exact List.mem_append_left _ (List.mem_append_left _ hmem)
    · intro region hmem hcovers
      have hother := mem_kernelRegions hhal hmem hcovers
      rw [hpart] at hother
      simpa using hother
  by_cases hstackSlot : index 3 vaddr.toNat = 509
  · have hpart : vaddr.toNat / 2 ^ 39 = 0x1FFFFFD := by omega
    have haddress : vaddr.toNat = 0xFFFFFE8000000000 + (vaddr.toNat - 0xFFFFFE8000000000) := by omega
    refine hholds.describes_entry 509 hstack hstackSlot (by decide) (by decide)
      (hholds.describes_stack hhal haddress (by omega)) (by rw [List.forall_mem_singleton]; rfl) ?_ ?_
    · intro region hmem
      obtain rfl := List.mem_singleton.mp hmem
      exact List.mem_append_right _ List.mem_cons_self
    · intro region hmem hcovers
      have hother := mem_kernelRegions hhal hmem hcovers
      rw [hpart] at hother
      simpa using hother
  have hnone : ∀ region ∈ kernelRegions hal_index, ¬ region.Covers vaddr.toNat := by
    intro region hmem hcovers
    have hother := mem_kernelRegions hhal hmem hcovers
    omega
  by_cases hlowSlot : index 3 vaddr.toNat = 0
  · have hindex := index_lt 2 vaddr.toNat
    have hempty : access (entryAt mem) 2 (frame (0x8106003 : UInt64).toNat) vaddr.toNat = none := by
      refine hholds.access_unused hhal 0xC00 rfl ?_ (by omega) (by omega)
      simp only [pagingSlots, List.mem_cons, List.not_mem_nil, or_false, not_or]
      omega
    have hbelow : Describes [] vaddr.toNat (access (entryAt mem) 2 (frame (0x8106003 : UInt64).toNat) vaddr.toNat) := by
      rw [hempty]
      exact .unmapped fun region hmem => absurd hmem List.not_mem_nil
    refine hholds.describes_entry 0 hlow hlowSlot (by decide) (by decide) hbelow ?_ ?_ ?_
    · exact fun region hmem => absurd hmem List.not_mem_nil
    · exact fun region hmem => absurd hmem List.not_mem_nil
    · exact fun region hmem hcovers => absurd hcovers (hnone region hmem)
  · have hunused : accessAt mem SYSTEM_CR3 vaddr = none := by
      refine hholds.access_unused hhal 0x400 rfl ?_ (by omega) (by omega)
      simp only [pagingSlots, List.mem_cons, List.not_mem_nil, or_false, not_or]
      omega
    rw [hunused]
    exact .unmapped hnone

/-- The boot code builds the address space under both profiles, for any place
    of the HAL and whatever was in memory. Every canonical address outside the
    self-map is mapped as the space says, with the rights it says. -/
theorem setup_kernel_paging_space (profile : Profile) (krnl_base hal_base : UInt64) (before : Vm) :
    ∃ after, (setup_kernel_paging profile krnl_base hal_base).run before = .ok () after ∧
      ∀ vaddr : UInt64, Canonical vaddr → index 3 vaddr.toNat ≠ 493 →
        accessAt after.mem SYSTEM_CR3 vaddr =
          (kernelSpace (halIndex hal_base) (halIndex_lt hal_base)).lookup vaddr.toNat := by
  have hsetup := setup_kernel_paging_performs profile krnl_base hal_base before
  refine ⟨_, hsetup, ?_⟩
  intro vaddr hcanonical hself
  have hholds := setup_kernel_paging_holds hsetup
  exact (Space.lookup_of_describes (hholds.describes (halIndex_lt hal_base) hcanonical hself)).symm

/-- What the place of a mapping has to do with its rights: user code reaches
    the shared page alone, and what can be executed lies in the first gibibyte,
    outside the stack's window. -/
structure Protects (vaddr target : Nat) (rights : Rights) : Prop where
  user : rights.user = true → vaddr / 4096 = 0xFFFFF78000000 ∧ target = KUSER_PBASE.toNat + vaddr % 4096
  executable : rights.executable = true → target < 2 ^ 30 ∧ vaddr / 2 ^ 39 ≠ 0x1FFFFFD

private theorem protects_code {vaddr target : Nat} (htarget : target < 2 ^ 30)
    (hwindow : vaddr / 2 ^ 39 ≠ 0x1FFFFFD) : Protects vaddr target kernelCode where
  user := fun h => Bool.noConfusion h
  executable := fun _ => ⟨htarget, hwindow⟩

private theorem protects_data (vaddr target : Nat) : Protects vaddr target kernelData where
  user := fun h => Bool.noConfusion h
  executable := fun h => Bool.noConfusion h

private theorem highRegions_protects {base address : Nat} {region : Region}
    (hwindow : address / 2 ^ 39 ≠ 0x1FFFFFD) (hmem : region ∈ highRegions hal_index base)
    (hcovers : region.Covers address) : Protects address (region.map address).1 (region.map address).2 := by
  unfold Region.Covers at hcovers
  simp only [highRegions, List.mem_cons, List.not_mem_nil, or_false] at hmem
  rcases hmem with rfl | rfl | hdevice
  · apply protects_code _ hwindow
    dsimp only at hcovers
    simp only [Region.map]
    omega
  · apply protects_code _ hwindow
    dsimp only at hcovers
    simp only [Region.map]
    omega
  · rcases hdevice with rfl | rfl | rfl | rfl | rfl <;> exact protects_data _ _

theorem kernelRegions_protects (hhal : hal_index < 512) {region : Region} {address : Nat}
    (hmem : region ∈ kernelRegions hal_index) (hcovers : region.Covers address) :
    Protects address (region.map address).1 (region.map address).2 := by
  have hshared : KUSER_PBASE.toNat = 0x09000000 := rfl
  rcases mem_kernelRegions hhal hmem hcovers with ⟨huser, hpart⟩ | ⟨hkernel, hpart⟩ | ⟨hstack, _⟩ | ⟨halias, hpart⟩
  · unfold Region.Covers at hcovers
    rcases List.mem_cons.mp huser with rfl | hspilled
    · dsimp only at hcovers
      simp only [Region.map]
      exact ⟨fun _ => by omega, fun _ => by omega⟩
    · obtain ⟨j, hj, rfl⟩ := List.mem_map.mp hspilled
      have hlt := List.mem_range.mp hj
      dsimp only at hcovers
      apply protects_code
      · simp only [Region.map]
        omega
      · omega
  · exact highRegions_protects (by omega) hkernel hcovers
  · obtain rfl := List.mem_singleton.mp hstack
    exact protects_data _ _
  · exact highRegions_protects (by omega) halias hcovers

/-- The tables keep user code out of everything but the shared page, and nothing
    in the stack's window, in the self-map or on a device can be executed. -/
theorem setup_kernel_paging_protects (profile : Profile) (krnl_base hal_base : UInt64) (before : Vm) :
    ∃ after, (setup_kernel_paging profile krnl_base hal_base).run before = .ok () after ∧
      ∀ vaddr : UInt64, Canonical vaddr →
        (∀ target rights, accessAt after.mem SYSTEM_CR3 vaddr = some (target, rights) →
          Protects vaddr.toNat target rights ∧
            (index 3 vaddr.toNat = 493 → rights.user = false ∧ rights.executable = false)) ∧
        (vaddr.toNat / 4096 = 0xFFFFF78000000 →
          accessAt after.mem SYSTEM_CR3 vaddr = some (KUSER_PBASE.toNat + vaddr.toNat % 4096, userCode)) := by
  have hsetup := setup_kernel_paging_performs profile krnl_base hal_base before
  have hholds := setup_kernel_paging_holds hsetup
  have hhal := halIndex_lt hal_base
  refine ⟨_, hsetup, ?_⟩
  intro vaddr hcanonical
  refine ⟨?_, ?_⟩
  · intro target rights haccess
    by_cases hself : index 3 vaddr.toNat = 493
    · have hentry := hholds.entryAt_self
      rw [← hself] at hentry
      have hdenied := access_le_first hentry haccess
      have huser : rights.user = false := by
        rw [hdenied]
        rfl
      have hexecutable : rights.executable = false := by
        rw [hdenied]
        rfl
      refine ⟨⟨?_, ?_⟩, fun _ => ⟨huser, hexecutable⟩⟩
      · exact fun h => absurd h (by rw [huser]; decide)
      · exact fun h => absurd h (by rw [hexecutable]; decide)
    · have hdescribes := hholds.describes hhal hcanonical hself
      rw [haccess] at hdescribes
      refine ⟨?_, fun h => absurd h hself⟩
      generalize hreached : some (target, rights) = reached at hdescribes
      cases hdescribes with
      | mapped hmem hcovers =>
        have hprotects := kernelRegions_protects hhal hmem hcovers
        rw [← Option.some.inj hreached] at hprotects
        exact hprotects
      | unmapped _ => cases hreached
  · intro hpage
    have hself : index 3 vaddr.toNat ≠ 493 := by
      unfold index shift
      omega
    have hcovers : Region.Covers ⟨0xFFFFF78000000000, 4096, 0x09000000, userCode⟩ vaddr.toNat := by
      unfold Region.Covers
      dsimp only
      omega
    have hlookup : (kernelSpace _ hhal).lookup vaddr.toNat = _ :=
      Space.lookup_of_describes (hholds.describes hhal hcanonical hself)
    rw [← hlookup, Space.lookup_of_mem (List.mem_append_left _ (List.mem_append_left _ List.mem_cons_self)) hcovers]
    have hshared : KUSER_PBASE.toNat = 0x09000000 := rfl
    have htarget : 0x09000000 + (vaddr.toNat - 0xFFFFF78000000000) = KUSER_PBASE.toNat + vaddr.toNat % 4096 := by
      omega
    rw [← htarget]
    rfl

end vwfl.main
