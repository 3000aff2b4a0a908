import Vwfl.Main.Paging.Windows

open Rust ByteStore Paging
open vwfl.vm vwfl.gdb vwfl.main

namespace vwfl.debug

/-- One range of the table: addresses from `base` on, moved to `target`. -/
def range (base length target vaddr : UInt64) : Option UInt64 :=
  if vaddr ≥ base ∧ vaddr < base + length then some ((vaddr - base) + target) else none

/-- The fixed range table of the trap handler, tried in order. -/
def virt_to_phys (vaddr : UInt64) : Option UInt64 :=
  let sys_virt_base := 0xFFFFF80000000000 + SYSTEM_BASE
  -- Kernel identity mapping and kernel image
  (range sys_virt_base 0x8000000 SYSTEM_BASE vaddr).or <|
  (range 0xFFFFF80000200000 0x8000000 KRNL_PBASE vaddr).or <|
  -- HAL image
  (range 0x1c0000000 0x2000000 HAL_PBASE vaddr).or <|
  -- Kernel stack
  (range 0xFFFFFE8000000000 0x8000000 STACK_PBASE vaddr).or <|
  -- KUSER_SHARED_DATA
  (range 0xFFFFF78000000000 0x200000 KUSER_PBASE vaddr).or <|
  -- Low memory
  if vaddr < MEM_SIZE then some vaddr else none

private theorem range_eq_some {base length target vaddr paddr : UInt64} {first count physical : Nat}
    (h : range base length target vaddr = some paddr) (hbase : base.toNat = first) (hlength : length.toNat = count)
    (htarget : target.toNat = physical) (hend : first + count < 2 ^ 64) (hphysical : physical + count < 2 ^ 64) :
    ∃ offset < count, vaddr.toNat = first + offset ∧ paddr.toNat = physical + offset := by
  unfold range at h
  split at h
  · rename_i hinside
    obtain ⟨hlow, hhigh⟩ := hinside
    rw [ge_iff_le, UInt64.le_iff_toNat_le, hbase] at hlow
    rw [UInt64.lt_iff_toNat_lt, BitField.toNat_add_of_lt (by omega), hbase, hlength] at hhigh
    have hoffset : (vaddr - base).toNat = vaddr.toNat - first := by
      rw [BitField.toNat_sub_of_le (by omega), hbase]
    refine ⟨vaddr.toNat - first, by omega, by omega, ?_⟩
    rw [← Option.some.inj h, BitField.toNat_add_of_lt (by omega), hoffset, htarget]
    omega
  · cases h

private theorem range_eq_none {base length target vaddr : UInt64} {first count : Nat}
    (h : range base length target vaddr = none) (hbase : base.toNat = first) (hlength : length.toNat = count)
    (hend : first + count < 2 ^ 64) : ¬ (first ≤ vaddr.toNat ∧ vaddr.toNat < first + count) := by
  rintro ⟨hlow, hhigh⟩
  unfold range at h
  rw [if_pos] at h
  · cases h
  · rw [ge_iff_le, UInt64.le_iff_toNat_le, UInt64.lt_iff_toNat_lt, BitField.toNat_add_of_lt (by omega)]
    omega

/-- The range that answers for an address. The first two ranges give the
    high half's offset; the stack and the low addresses are told apart from the
    HAL range and the user window. -/
theorem virt_to_phys_cases {vaddr paddr : UInt64} (h : virt_to_phys vaddr = some paddr) :
    (∃ offset < 2 ^ 30, vaddr.toNat = 0xFFFFF80000000000 + offset ∧ paddr.toNat = offset) ∨
    (∃ offset < 0x2000000, vaddr.toNat = 0x1c0000000 + offset ∧ paddr.toNat = 0x2000000 + offset) ∨
    (∃ offset < 2 ^ 30, vaddr.toNat = 0xFFFFFE8000000000 + offset ∧ paddr.toNat = 0x0A000000 + offset) ∨
    (∃ offset < 0x200000, vaddr.toNat = 0xFFFFF78000000000 + offset ∧ paddr.toNat = 0x9000000 + offset) ∨
    (vaddr.toNat < MEM_SIZE.toNat ∧ ¬ (0x1c0000000 ≤ vaddr.toNat ∧ vaddr.toNat < 0x1c2000000) ∧ paddr = vaddr) := by
  unfold virt_to_phys at h
  rcases Option.or_eq_some_iff.mp h with hsystem | ⟨_, h⟩
  · obtain ⟨offset, hoffset, hvaddr, hpaddr⟩ :=
      range_eq_some hsystem (show _ = 0xFFFFF80008000000 from rfl) (show _ = 0x8000000 from rfl)
        (show _ = 0x8000000 from rfl) (by decide) (by decide)
    exact .inl ⟨0x8000000 + offset, by omega, by omega, hpaddr⟩
  rcases Option.or_eq_some_iff.mp h with hkernel | ⟨_, h⟩
  · obtain ⟨offset, hoffset, hvaddr, hpaddr⟩ :=
      range_eq_some hkernel (show _ = 0xFFFFF80000200000 from rfl) (show _ = 0x8000000 from rfl)
        (show _ = 0x200000 from rfl) (by decide) (by decide)
    exact .inl ⟨0x200000 + offset, by omega, by omega, hpaddr⟩
  rcases Option.or_eq_some_iff.mp h with hhal | ⟨hhal, h⟩
  · exact .inr (.inl (range_eq_some hhal rfl rfl rfl (by decide) (by decide)))
  rcases Option.or_eq_some_iff.mp h with hstack | ⟨_, h⟩
  · obtain ⟨offset, hoffset, hvaddr, hpaddr⟩ :=
      range_eq_some hstack (show _ = 0xFFFFFE8000000000 from rfl) (show _ = 0x8000000 from rfl)
        (show _ = 0x0A000000 from rfl) (by decide) (by decide)
    exact .inr (.inr (.inl ⟨offset, by omega, hvaddr, hpaddr⟩))
  rcases Option.or_eq_some_iff.mp h with huser | ⟨_, h⟩
  · exact .inr (.inr (.inr (.inl (range_eq_some huser rfl rfl rfl (by decide) (by decide)))))
  · have houtside := range_eq_none hhal (show _ = 0x1c0000000 from rfl) (show _ = 0x2000000 from rfl) (by decide)
    split at h
    · rename_i hlow
      rw [UInt64.lt_iff_toNat_lt] at hlow
      exact .inr (.inr (.inr (.inr ⟨hlow, houtside, (Option.some.inj h).symm⟩)))
    · cases h

/-- The page walk finds the address mapped to the same place, or the address
    is a low one that stands for itself. -/
def TranslatorsAgree (mem : Nat → UInt8) (vaddr paddr : UInt64) : Prop :=
  translate mem SYSTEM_CR3 vaddr = some paddr.toNat ∨ vaddr < MEM_SIZE ∧ paddr = vaddr

/-- Addresses of the range that the table keeps for a HAL image in the lower
    half. -/
def InHalRange (vaddr : UInt64) : Prop := 0x1c0000000 ≤ vaddr.toNat ∧ vaddr.toNat < 0x1c2000000

/-- Addresses of the user window behind its only page. -/
def BehindSharedPage (vaddr : UInt64) : Prop :=
  0xFFFFF78000001000 ≤ vaddr.toNat ∧ vaddr.toNat < 0xFFFFF78000200000

instance (vaddr : UInt64) : Decidable (InHalRange vaddr) := inferInstanceAs (Decidable (_ ∧ _))

instance (vaddr : UInt64) : Decidable (BehindSharedPage vaddr) := inferInstanceAs (Decidable (_ ∧ _))

private theorem agree_iff_of_holds {mem : Nat → UInt8} {hal_index : Nat} (hholds : HoldsTables mem hal_index)
    {vaddr paddr : UInt64} (h : virt_to_phys vaddr = some paddr) :
    TranslatorsAgree mem vaddr paddr ↔ ¬ InHalRange vaddr ∧ ¬ BehindSharedPage vaddr := by
  unfold TranslatorsAgree InHalRange BehindSharedPage
  have hmemory : MEM_SIZE.toNat = 0x200000000 := rfl
  rcases virt_to_phys_cases h with ⟨offset, hoffset, hvaddr, hpaddr⟩ | ⟨offset, hoffset, hvaddr, hpaddr⟩ |
    ⟨offset, hoffset, hvaddr, hpaddr⟩ | ⟨offset, hoffset, hvaddr, hpaddr⟩ | ⟨hlow, houtside, rfl⟩
  · refine iff_of_true (.inl ?_) (by omega)
    rw [hpaddr]
    exact hholds.translate_kernel hvaddr hoffset
  · refine iff_of_false ?_ (by omega)
    rintro (hmapped | ⟨_, hsame⟩)
    · rw [hholds.translate_low (by unfold index shift; omega)] at hmapped
      cases hmapped
    · rw [hsame] at hpaddr
      omega
  · refine iff_of_true (.inl ?_) (by omega)
    rw [hpaddr]
    exact hholds.translate_stack hvaddr hoffset
  · by_cases hpage : offset < 4096
    · refine iff_of_true (.inl ?_) (by omega)
      rw [hpaddr]
      exact hholds.translate_user hvaddr hpage
    · refine iff_of_false ?_ (by omega)
      rintro (hmapped | ⟨hlow, _⟩)
      · rw [hpaddr] at hmapped
        exact hholds.translate_user_ne hvaddr (by omega) hoffset hmapped
      · rw [UInt64.lt_iff_toNat_lt] at hlow
        omega
  · exact iff_of_true (.inr ⟨UInt64.lt_iff_toNat_lt.mpr hlow, rfl⟩) (by omega)

/-- The range table and the page walk agree everywhere but in the HAL range,
    where nothing is mapped, and in the user window behind its only page. -/
theorem translatorsAgree_iff (profile : Profile) (krnl_base hal_base : UInt64) (before after : Vm)
    (hsetup : (setup_kernel_paging profile krnl_base hal_base).run before = .ok () after)
    (vaddr paddr : UInt64) (h : virt_to_phys vaddr = some paddr) :
    TranslatorsAgree after.mem vaddr paddr ↔ ¬ InHalRange vaddr ∧ ¬ BehindSharedPage vaddr :=
  agree_iff_of_holds (setup_kernel_paging_holds hsetup) h

theorem translatorsAgree_iff_kernel : ∃ after : Vm,
    (setup_kernel_paging .dev 0 0).run ⟨fun _ => 0⟩ = .ok () after ∧
      virt_to_phys 0xFFFFF80000201000 = some 0x201000 ∧
      TranslatorsAgree after.mem 0xFFFFF80000201000 0x201000 := by
  have hsetup := setup_kernel_paging_performs .dev 0 0 ⟨fun _ => 0⟩
  refine ⟨_, hsetup, by decide, ?_⟩
  exact (translatorsAgree_iff .dev 0 0 _ _ hsetup _ _ (by decide)).mpr (by decide)

/-- The second page of the user window is answered by the table and mapped by
    no page. -/
theorem not_translatorsAgree_user : ∃ after : Vm,
    (setup_kernel_paging .dev 0 0).run ⟨fun _ => 0⟩ = .ok () after ∧
      virt_to_phys 0xFFFFF78000001000 = some 0x9001000 ∧
      ¬ TranslatorsAgree after.mem 0xFFFFF78000001000 0x9001000 := by
  have hsetup := setup_kernel_paging_performs .dev 0 0 ⟨fun _ => 0⟩
  refine ⟨_, hsetup, by decide, ?_⟩
  rw [agree_iff_of_holds (setup_kernel_paging_holds hsetup) (by decide)]
  decide

end vwfl.debug
