import Vwfl.Main.Paging.Windows

open Rust ByteStore Paging
open vwfl.vm vwfl.gdb

namespace vwfl.main

/-- Physical addresses in the page of the I/O APIC, of the HPET or of the local
    APIC. -/
def DeviceAddress (x : UInt64) : Prop :=
  x.toNat / 4096 = 0xFEC00 ∨ x.toNat / 4096 = 0xFED00 ∨ x.toNat / 4096 = 0xFEE00

instance (x : UInt64) : Decidable (DeviceAddress x) := inferInstanceAs (Decidable (_ ∨ _))

def InLocalApic (x : UInt64) : Prop := 0xFEE00000 ≤ x ∧ x < 0xFEE01000

theorem inLocalApic_iff (x : UInt64) : InLocalApic x ↔ x.toNat / 4096 = 0xFEE00 := by
  have hstart : (0xFEE00000 : UInt64).toNat = 0xFEE00000 := rfl
  have hend : (0xFEE01000 : UInt64).toNat = 0xFEE01000 := rfl
  rw [InLocalApic, UInt64.le_iff_toNat_le, UInt64.lt_iff_toNat_lt]
  omega

theorem pagingTable_devices (hal_index : Nat) :
    pagingTable hal_index 0x603 = 0x8160003 ∧ pagingTable hal_index 0xC1F6 = 0x8161003 ∧
      pagingTable hal_index 0xC1F7 = 0x8161803 ∧ pagingTable hal_index 0xC200 = 0x80000000FEC0001B ∧
      pagingTable hal_index 0xC300 = 0x80000000FED0001B := by
  unfold pagingTable
  refine ⟨?_, ?_, ?_, ?_, ?_⟩ <;> repeat rw [if_neg (by omega)]
  all_goals rw [if_pos rfl]

variable {mem : Nat → UInt8} {hal_index : Nat} {vaddr : UInt64} {x : Nat}

/-- The two directories from `0xFEC00000` on end in one page table. The second
    one's entry carries `pt_hpet_p`, whose low twelve bits the walk discards. -/
private theorem HoldsTables.walk_devices (hholds : HoldsTables mem hal_index)
    (hvaddr : vaddr.toNat = K_VIRT_ANY.toNat + x) (hlow : 0xFEC00000 ≤ x) (hhigh : x < 0xFF000000) :
    translate mem SYSTEM_CR3 vaddr = walk (entryAt mem) 0 (frame (0x8161003 : UInt64).toNat) vaddr.toNat := by
  have hbase : K_VIRT_ANY.toNat = 0x1FFFFF0 * 2 ^ 39 := rfl
  obtain ⟨hpdpt, hfirst, hsecond, _, _⟩ := pagingTable_devices hal_index
  have hdirectory : translate mem SYSTEM_CR3 vaddr =
      walk (entryAt mem) 1 (frame (0x8160003 : UInt64).toNat) vaddr.toNat :=
    calc translate mem SYSTEM_CR3 vaddr
      _ = walk (entryAt mem) 2 (frame (0x8103003 : UInt64).toNat) vaddr.toNat :=
        hholds.descend 0x400 0x5F0 (pagingTable_root hal_index).1 rfl (by unfold index shift; omega)
          (by decide) (by decide) (by decide) (by decide)
      _ = walk (entryAt mem) 1 (frame (0x8160003 : UInt64).toNat) vaddr.toNat :=
        hholds.descend 0x600 0x603 hpdpt rfl (by unfold index shift; omega)
          (by decide) (by decide) (by decide) (by decide)
  rw [hdirectory]
  by_cases hsplit : x < 0xFEE00000
  · exact hholds.descend 0xC000 0xC1F6 hfirst rfl (by unfold index shift; omega)
      (by decide) (by decide) (by decide) (by decide)
  · calc walk (entryAt mem) 1 (frame (0x8160003 : UInt64).toNat) vaddr.toNat
      _ = walk (entryAt mem) 0 (frame (0x8161803 : UInt64).toNat) vaddr.toNat :=
        hholds.descend 0xC000 0xC1F7 hsecond rfl (by unfold index shift; omega)
          (by decide) (by decide) (by decide) (by decide)
      _ = walk (entryAt mem) 0 (frame (0x8161003 : UInt64).toNat) vaddr.toNat := rfl

/-- The first page that the shared table maps is the I/O APIC's, behind the
    address of the I/O APIC and behind that of the local APIC. -/
theorem HoldsTables.translate_first_device (hholds : HoldsTables mem hal_index)
    (hvaddr : vaddr.toNat = K_VIRT_ANY.toNat + x) (hx : x / 4096 = 0xFEC00 ∨ x / 4096 = 0xFEE00) :
    translate mem SYSTEM_CR3 vaddr = some (0xFEC00000 + x % 4096) := by
  have hbase : K_VIRT_ANY.toNat = 0x1FFFFF0 * 2 ^ 39 := rfl
  have hword : (0x80000000FEC0001B : UInt64).toNat = 0x80000000FEC0001B := rfl
  have hentry : entryAt mem (frame (0x8161003 : UInt64).toNat + index 0 vaddr.toNat * 8) =
      some (pagingTable hal_index 0xC200).toNat :=
    hholds.entryAt_eq 0xC200 rfl (by unfold index shift; omega) (by decide) (by decide)
  rw [(pagingTable_devices hal_index).2.2.2.1, hword] at hentry
  rw [hholds.walk_devices hvaddr (by omega) (by omega), walk_page hentry (by decide)]
  simp only [leaf, shift]
  congr 1
  omega

theorem HoldsTables.translate_hpet (hholds : HoldsTables mem hal_index)
    (hvaddr : vaddr.toNat = K_VIRT_ANY.toNat + x) (hx : x / 4096 = 0xFED00) :
    translate mem SYSTEM_CR3 vaddr = some x := by
  have hbase : K_VIRT_ANY.toNat = 0x1FFFFF0 * 2 ^ 39 := rfl
  have hword : (0x80000000FED0001B : UInt64).toNat = 0x80000000FED0001B := rfl
  have hentry : entryAt mem (frame (0x8161003 : UInt64).toNat + index 0 vaddr.toNat * 8) =
      some (pagingTable hal_index 0xC300).toNat :=
    hholds.entryAt_eq 0xC200 rfl (by unfold index shift; omega) (by decide) (by decide)
  rw [(pagingTable_devices hal_index).2.2.2.2, hword] at hentry
  rw [hholds.walk_devices hvaddr (by omega) (by omega), walk_page hentry (by decide)]
  simp only [leaf, shift]
  congr 1
  omega

/-- The boot code's tables are built, and they map the high-half address of a
    device register to the register. -/
def MapsDevice (profile : Profile) (krnl_base hal_base : UInt64) (before : Vm) (x : UInt64) : Prop :=
  ∃ after, (setup_kernel_paging profile krnl_base hal_base).run before = .ok () after ∧
    translate after.mem SYSTEM_CR3 (0xFFFFF80000000000 + x) = some x.toNat

/-- Device pages are mapped at their high-half address except for the local
    APIC's, where the I/O APIC's page appears. -/
theorem mapsDevice_iff (profile : Profile) (krnl_base hal_base : UInt64) (before : Vm) (x : UInt64)
    (hdevice : DeviceAddress x) : MapsDevice profile krnl_base hal_base before x ↔ ¬ InLocalApic x := by
  have hsetup := setup_kernel_paging_performs profile krnl_base hal_base before
  have hholds := setup_kernel_paging_holds hsetup
  have hbase : (0xFFFFF80000000000 : UInt64).toNat = K_VIRT_ANY.toNat := rfl
  have hhalf : K_VIRT_ANY.toNat = 0xFFFFF80000000000 := rfl
  have hvaddr : (0xFFFFF80000000000 + x : UInt64).toNat = K_VIRT_ANY.toNat + x.toNat := by
    unfold DeviceAddress at hdevice
    rw [BitField.toNat_add_of_lt (by omega), hbase]
  rw [inLocalApic_iff]
  constructor
  · rintro ⟨after, hrun, hmapped⟩ hapic
    obtain rfl := (EStateM.Result.ok.inj (hrun.symm.trans hsetup)).2
    rw [hholds.translate_first_device hvaddr (.inr hapic)] at hmapped
    have hsame := Option.some.inj hmapped
    omega
  · intro hother
    refine ⟨_, hsetup, ?_⟩
    rcases hdevice with hioapic | hhpet | hapic
    · rw [hholds.translate_first_device hvaddr (.inl hioapic)]
      congr 1
      omega
    · exact hholds.translate_hpet hvaddr hhpet
    · exact absurd hapic hother

theorem mapsDevice_iff_counter :
    MapsDevice .dev 0xFFFFF80000200000 0xFFFFF80042000000 ⟨fun _ => 0⟩ 0xFED000F0 ↔ ¬ InLocalApic 0xFED000F0 :=
  mapsDevice_iff .dev 0xFFFFF80000200000 0xFFFFF80042000000 ⟨fun _ => 0⟩ 0xFED000F0 (by decide)

/-- The high-half address of the local APIC's task priority register leads to
    the I/O APIC. -/
theorem not_mapsDevice_tpr :
    DeviceAddress 0xFEE00080 ∧
      ¬ MapsDevice .release 0xFFFFF80000200000 0xFFFFF80042000000 ⟨fun _ => 0⟩ 0xFEE00080 := by
  refine ⟨by decide, ?_⟩
  rintro ⟨after, hrun, hmapped⟩
  have hvaddr : (0xFFFFF80000000000 + 0xFEE00080 : UInt64).toNat = K_VIRT_ANY.toNat + 0xFEE00080 := rfl
  have hword : (0xFEE00080 : UInt64).toNat = 0xFEE00080 := rfl
  rw [(setup_kernel_paging_holds hrun).translate_first_device hvaddr (.inr (by decide)), hword] at hmapped
  exact absurd (Option.some.inj hmapped) (by decide)

end vwfl.main
