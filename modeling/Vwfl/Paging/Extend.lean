import Vwfl.Paging.Walk

namespace Paging

/-- Entries that map alike. They may differ in the accessed and the dirty flag,
    which the processor sets by itself. -/
def SameMapping (first second : Nat) : Prop := second % 2 ^ 5 = first % 2 ^ 5 ∧ second / 2 ^ 7 = first / 2 ^ 7

theorem SameMapping.refl (entry : Nat) : SameMapping entry entry := ⟨rfl, rfl⟩

theorem SameMapping.present {first second : Nat} (h : SameMapping first second) (hpresent : Present first) :
    Present second := by
  have hflags := h.1
  unfold Present at *
  omega

theorem SameMapping.large_iff {first second : Nat} (h : SameMapping first second) (level : Nat) :
    Large level second ↔ Large level first := by
  unfold Large
  rw [h.2]

/-- They agree from the page flag on. -/
theorem SameMapping.div_eq {first second : Nat} (h : SameMapping first second) {place : Nat} (hplace : 7 ≤ place) :
    second / 2 ^ place = first / 2 ^ place := by
  obtain ⟨above, rfl⟩ := Nat.exists_eq_add_of_le hplace
  rw [pow_add, ← Nat.div_div_eq_div_mul, ← Nat.div_div_eq_div_mul, h.2]

theorem SameMapping.frame_eq {first second : Nat} (h : SameMapping first second) : frame second = frame first := by
  unfold frame
  rw [h.div_eq (by decide)]

theorem SameMapping.leaf_eq {first second : Nat} (h : SameMapping first second) (level address : Nat) :
    leaf level second address = leaf level first address := by
  unfold leaf
  rw [h.div_eq (by unfold shift; omega)]

/-- A walk that maps an address looks up a present entry first. -/
theorem exists_present {entries : Nat → Option Nat} {level table address target : Nat}
    (hwalk : walk entries level table address = some target) :
    ∃ entry, entries (table + index level address * 8) = some entry ∧ Present entry := by
  cases hentry : entries (table + index level address * 8) with
  | none =>
    rw [walk_unreadable hentry] at hwalk
    cases hwalk
  | some entry =>
    refine ⟨entry, rfl, ?_⟩
    by_contra habsent
    rw [walk_absent hentry habsent] at hwalk
    cases hwalk

/-- The entries of one memory, kept by another that may have entries where the
    first has none. -/
def Extends (entries other : Nat → Option Nat) : Prop :=
  ∀ slot entry, slot % 8 = 0 → entries slot = some entry → Present entry →
    ∃ kept, other slot = some kept ∧ SameMapping entry kept

/-- What is mapped stays mapped where it was. -/
theorem Extends.walk_eq {entries other : Nat → Option Nat} (h : Extends entries other)
    {level table address target : Nat}
    (htable : table % 8 = 0) (hwalk : walk entries level table address = some target) :
    walk other level table address = some target := by
  induction level generalizing table with
  | zero =>
    obtain ⟨entry, hentry, hpresent⟩ := exists_present hwalk
    obtain ⟨kept, hkept, hsame⟩ := h _ entry (by omega) hentry hpresent
    rw [walk_page hentry hpresent] at hwalk
    rw [walk_page hkept (hsame.present hpresent), hsame.leaf_eq, hwalk]
  | succ level ih =>
    obtain ⟨entry, hentry, hpresent⟩ := exists_present hwalk
    obtain ⟨kept, hkept, hsame⟩ := h _ entry (by omega) hentry hpresent
    by_cases hlarge : Large (level + 1) entry
    · rw [walk_large hentry hpresent hlarge] at hwalk
      rw [walk_large hkept (hsame.present hpresent) ((hsame.large_iff _).mpr hlarge), hsame.leaf_eq, hwalk]
    · rw [walk_table hentry hpresent hlarge] at hwalk
      rw [walk_table hkept (hsame.present hpresent) ((hsame.large_iff _).not.mpr hlarge), hsame.frame_eq]
      apply ih _ hwalk
      unfold frame
      omega

end Paging
