import Mathlib.Tactic

namespace Paging

/-- Bits of an address below the ones that select an entry of a `level` table. -/
def shift (level : Nat) : Nat := 12 + 9 * level

def index (level address : Nat) : Nat := address / 2 ^ shift level % 512

/-- Base of the table, or of the 4 KiB page, that an entry points to. -/
def frame (entry : Nat) : Nat := entry / 2 ^ 12 % 2 ^ 40 * 2 ^ 12

/-- Address reached when an entry maps a whole page of its level. -/
def leaf (level entry address : Nat) : Nat :=
  entry / 2 ^ shift level % 2 ^ (52 - shift level) * 2 ^ shift level + address % 2 ^ shift level

def Present (entry : Nat) : Prop := entry % 2 = 1

/-- Entries of the two middle levels may map a page instead of a table. -/
def Large (level entry : Nat) : Prop := (level = 1 ∨ level = 2) ∧ entry / 2 ^ 7 % 2 = 1

instance (entry : Nat) : Decidable (Present entry) := inferInstanceAs (Decidable (_ = _))

instance (level entry : Nat) : Decidable (Large level entry) := inferInstanceAs (Decidable (_ ∧ _))

/-- Translation by the table of the given level at `table`, the page table
    being level 0. `entries` reads one entry, or nothing where memory ends. -/
def walk (entries : Nat → Option Nat) : Nat → Nat → Nat → Option Nat
  | 0, table, address =>
    match entries (table + index 0 address * 8) with
    | none => none
    | some entry => if Present entry then some (leaf 0 entry address) else none
  | level + 1, table, address =>
    match entries (table + index (level + 1) address * 8) with
    | none => none
    | some entry =>
      if ¬ Present entry then none
      else if Large (level + 1) entry then some (leaf (level + 1) entry address)
      else walk entries level (frame entry) address

theorem index_lt (level address : Nat) : index level address < 512 := Nat.mod_lt _ (by decide)

theorem frame_lt (entry : Nat) : frame entry + 2 ^ 12 ≤ 2 ^ 52 := by
  have hdigit : entry / 2 ^ 12 % 2 ^ 40 < 2 ^ 40 := Nat.mod_lt _ (by decide)
  unfold frame
  omega

theorem leaf_lt {level : Nat} (hlevel : level ≤ 3) (entry address : Nat) : leaf level entry address < 2 ^ 52 := by
  have hshift : shift level ≤ 52 := by unfold shift; omega
  have hpage : address % 2 ^ shift level < 2 ^ shift level := Nat.mod_lt _ (by positivity)
  have hframe : entry / 2 ^ shift level % 2 ^ (52 - shift level) + 1 ≤ 2 ^ (52 - shift level) :=
    Nat.mod_lt _ (by positivity)
  have hbound := Nat.mul_le_mul_right (2 ^ shift level) hframe
  rw [← pow_add, Nat.sub_add_cancel hshift, Nat.add_mul, Nat.one_mul] at hbound
  unfold leaf
  omega

/-- Translations stay below the 52-bit physical address limit. -/
theorem walk_lt {entries : Nat → Option Nat} {level table address target : Nat} (hlevel : level ≤ 3)
    (hwalk : walk entries level table address = some target) : target < 2 ^ 52 := by
  induction level generalizing table with
  | zero =>
    unfold walk at hwalk
    split at hwalk
    · cases hwalk
    · split at hwalk
      · cases hwalk
        exact leaf_lt (by omega) _ _
      · cases hwalk
  | succ level ih =>
    unfold walk at hwalk
    split at hwalk
    · cases hwalk
    · split at hwalk
      · cases hwalk
      · split at hwalk
        · cases hwalk
          exact leaf_lt hlevel _ _
        · exact ih (by omega) hwalk

variable {entries : Nat → Option Nat} {level table address entry : Nat}

/-- Descend through a present entry that points to a table. -/
theorem walk_table (hentry : entries (table + index (level + 1) address * 8) = some entry)
    (hpresent : Present entry) (hlarge : ¬ Large (level + 1) entry) :
    walk entries (level + 1) table address = walk entries level (frame entry) address := by
  conv_lhs => unfold walk
  simp only [hentry, hpresent, hlarge, not_true, if_false]

theorem walk_large (hentry : entries (table + index (level + 1) address * 8) = some entry)
    (hpresent : Present entry) (hlarge : Large (level + 1) entry) :
    walk entries (level + 1) table address = some (leaf (level + 1) entry address) := by
  conv_lhs => unfold walk
  simp only [hentry, hpresent, hlarge, not_true, if_false, if_true]

theorem walk_page (hentry : entries (table + index 0 address * 8) = some entry) (hpresent : Present entry) :
    walk entries 0 table address = some (leaf 0 entry address) := by
  unfold walk
  simp only [hentry, hpresent, if_true]

/-- A table that cannot be read ends the translation. -/
theorem walk_unreadable (hentry : entries (table + index level address * 8) = none) :
    walk entries level table address = none := by
  cases level <;> unfold walk <;> simp only [hentry]

/-- An entry that is not present ends the translation at any level. -/
theorem walk_absent (hentry : entries (table + index level address * 8) = some entry)
    (habsent : ¬ Present entry) : walk entries level table address = none := by
  cases level with
  | zero =>
    unfold walk
    simp only [hentry, habsent, if_false]
  | succ level =>
    unfold walk
    simp only [hentry, habsent, not_false_eq_true, if_true]

/-- Addresses of the entries that a walk looks up. -/
def visited (entries : Nat → Option Nat) : Nat → Nat → Nat → List Nat
  | 0, table, address => [table + index 0 address * 8]
  | level + 1, table, address =>
    (table + index (level + 1) address * 8) ::
      match entries (table + index (level + 1) address * 8) with
      | none => []
      | some entry =>
        if ¬ Present entry ∨ Large (level + 1) entry then [] else visited entries level (frame entry) address

/-- A walk depends only on the entries that it looks up. -/
theorem walk_congr {other : Nat → Option Nat}
    (hsame : ∀ slot ∈ visited entries level table address, other slot = entries slot) :
    walk other level table address = walk entries level table address := by
  induction level generalizing table with
  | zero =>
    have hslot := hsame _ (List.mem_singleton.mpr rfl)
    unfold walk
    rw [hslot]
  | succ level ih =>
    have hslot := hsame _ List.mem_cons_self
    cases hentry : entries (table + index (level + 1) address * 8) with
    | none => rw [walk_unreadable hentry, walk_unreadable (hslot.trans hentry)]
    | some entry =>
      by_cases hpresent : Present entry
      · by_cases hlarge : Large (level + 1) entry
        · rw [walk_large hentry hpresent hlarge, walk_large (hslot.trans hentry) hpresent hlarge]
        · rw [walk_table hentry hpresent hlarge, walk_table (hslot.trans hentry) hpresent hlarge]
          refine ih fun slot hmem => hsame slot ?_
          rw [visited, hentry]
          simp only [hpresent, hlarge, not_true, or_false, if_false]
          exact List.mem_cons_of_mem _ hmem
      · rw [walk_absent hentry hpresent, walk_absent (hslot.trans hentry) hpresent]

/-- The tables on the way of an address, from `table` at the given level down
    to the page table `target`. No entry on the way has the bit that makes it a
    page in a middle level. -/
inductive Descends (entries : Nat → Option Nat) (address : Nat) : Nat → Nat → Nat → Prop where
  | here (table : Nat) : Descends entries address 0 table table
  | step {level table entry target : Nat} (hentry : entries (table + index (level + 1) address * 8) = some entry)
      (hpresent : Present entry) (hsmall : entry / 2 ^ 7 % 2 = 0)
      (hrest : Descends entries address level (frame entry) target) :
      Descends entries address (level + 1) table target

/-- A walk whose indices are those of another address, one level up, ends one
    table early: it reaches an entry of that address's page table. -/
theorem walk_of_descends {shifted target : Nat} (hdescends : Descends entries address (level + 1) table target)
    (hshift : ∀ depth ≤ level, index depth shifted = index (depth + 1) address) :
    walk entries level table shifted = some (target + shifted % 2 ^ 12) := by
  induction level generalizing table with
  | zero =>
    cases hdescends with
    | step hentry hpresent hsmall hrest =>
      cases hrest
      rw [← hshift 0 le_rfl] at hentry
      exact walk_page hentry hpresent
  | succ level ih =>
    cases hdescends with
    | step hentry hpresent hsmall hrest =>
      rw [← hshift (level + 1) le_rfl] at hentry
      rw [walk_table hentry hpresent (by unfold Large; omega)]
      exact ih hrest fun depth hdepth => hshift depth (by omega)

end Paging
