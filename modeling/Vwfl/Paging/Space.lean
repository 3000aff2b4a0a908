import Vwfl.Paging.Walk

namespace Paging

/-- What a mapping permits besides supervisor reads. -/
structure Rights where
  user : Bool
  writable : Bool
  executable : Bool
  deriving Repr, DecidableEq

/-- The rights that both grant. -/
def Rights.meet (first second : Rights) : Rights where
  user := first.user && second.user
  writable := first.writable && second.writable
  executable := first.executable && second.executable

/-- The rights that one entry grants, with execute-disable in force. -/
def entryRights (entry : Nat) : Rights where
  user := entry / 2 ^ 2 % 2 = 1
  writable := entry / 2 ^ 1 % 2 = 1
  executable := entry / 2 ^ 63 % 2 = 0

theorem entryRights_eq {entry : Nat} {rights : Rights} (huser : entry / 2 ^ 2 % 2 = rights.user.toNat)
    (hwritable : entry / 2 ^ 1 % 2 = rights.writable.toNat) (hnx : entry / 2 ^ 63 % 2 + rights.executable.toNat = 1) :
    entryRights entry = rights := by
  obtain ⟨user, writable, executable⟩ := rights
  dsimp only at huser hwritable hnx
  unfold entryRights
  cases user <;> cases writable <;> cases executable <;> simp_all

/-- Translation together with the rights of an access, which every entry on the
    way has to grant. -/
def access (entries : Nat → Option Nat) : Nat → Nat → Nat → Option (Nat × Rights)
  | 0, table, address =>
    match entries (table + index 0 address * 8) with
    | none => none
    | some entry => if Present entry then some (leaf 0 entry address, entryRights entry) else none
  | level + 1, table, address =>
    match entries (table + index (level + 1) address * 8) with
    | none => none
    | some entry =>
      if ¬ Present entry then none
      else if Large (level + 1) entry then some (leaf (level + 1) entry address, entryRights entry)
      else (access entries level (frame entry) address).map fun reached =>
        (reached.1, (entryRights entry).meet reached.2)

section Access

variable {entries : Nat → Option Nat} {level table address entry : Nat}

theorem access_absent (hentry : entries (table + index level address * 8) = some entry) (habsent : ¬ Present entry) :
    access entries level table address = none := by
  cases level with
  | zero =>
    unfold access
    simp only [hentry, habsent, if_false]
  | succ level =>
    unfold access
    simp only [hentry, habsent, not_false_eq_true, if_true]

theorem access_page (hentry : entries (table + index 0 address * 8) = some entry) (hpresent : Present entry) :
    access entries 0 table address = some (leaf 0 entry address, entryRights entry) := by
  unfold access
  simp only [hentry, hpresent, if_true]

theorem access_large (hentry : entries (table + index (level + 1) address * 8) = some entry)
    (hpresent : Present entry) (hlarge : Large (level + 1) entry) :
    access entries (level + 1) table address = some (leaf (level + 1) entry address, entryRights entry) := by
  conv_lhs => unfold access
  simp only [hentry, hpresent, hlarge, not_true, if_false, if_true]

theorem access_table (hentry : entries (table + index (level + 1) address * 8) = some entry)
    (hpresent : Present entry) (hlarge : ¬ Large (level + 1) entry) :
    access entries (level + 1) table address = (access entries level (frame entry) address).map fun reached =>
      (reached.1, (entryRights entry).meet reached.2) := by
  conv_lhs => unfold access
  simp only [hentry, hpresent, hlarge, not_true, if_false]

/-- No access has a right that the first entry denies. -/
theorem access_le_first {target : Nat} {rights : Rights}
    (hentry : entries (table + index level address * 8) = some entry)
    (haccess : access entries level table address = some (target, rights)) :
    rights = (entryRights entry).meet rights := by
  by_cases hpresent : Present entry
  · cases level with
    | zero =>
      rw [access_page hentry hpresent] at haccess
      cases haccess
      simp [Rights.meet]
    | succ level =>
      by_cases hlarge : Large (level + 1) entry
      · rw [access_large hentry hpresent hlarge] at haccess
        cases haccess
        simp [Rights.meet]
      · rw [access_table hentry hpresent hlarge] at haccess
        obtain ⟨reached, _, hreached⟩ := Option.map_eq_some_iff.mp haccess
        cases hreached
        simp [Rights.meet]
  · rw [access_absent hentry hpresent] at haccess
    cases haccess

end Access

/-- Consecutive addresses that are mapped in one piece, all with the same
    rights. -/
structure Region where
  start : Nat
  length : Nat
  target : Nat
  rights : Rights
  deriving Repr, DecidableEq

namespace Region

def Covers (self : Region) (address : Nat) : Prop := self.start ≤ address ∧ address < self.start + self.length

instance (self : Region) (address : Nat) : Decidable (self.Covers address) := inferInstanceAs (Decidable (_ ∧ _))

/-- No address lies in both. -/
def Apart (first second : Region) : Prop :=
  first.start + first.length ≤ second.start ∨ second.start + second.length ≤ first.start

instance (first second : Region) : Decidable (first.Apart second) := inferInstanceAs (Decidable (_ ∨ _))

instance : Std.Symm Apart where
  symm _ _ := Or.symm

/-- Where an address of the region is mapped, and its rights. -/
def map (self : Region) (address : Nat) : Nat × Rights := (self.target + (address - self.start), self.rights)

end Region

/-- What regions say about an address: the region that covers it tells where it
    is mapped, and it is unmapped where none does. -/
inductive Describes (regions : List Region) (address : Nat) : Option (Nat × Rights) → Prop where
  | mapped {region : Region} (hmem : region ∈ regions) (hcovers : region.Covers address) :
    Describes regions address (some (region.map address))
  | unmapped (h : ∀ region ∈ regions, ¬ region.Covers address) : Describes regions address none

theorem describes_of_mem {regions : List Region} {address start length base target : Nat} {rights : Rights}
    (hmem : ⟨start, length, base, rights⟩ ∈ regions) (hstart : start ≤ address) (hend : address < start + length)
    (htarget : target = base + (address - start)) : Describes regions address (some (target, rights)) := by
  rw [htarget]
  exact .mapped hmem ⟨hstart, hend⟩

/-- Regions elsewhere say nothing about the address. -/
theorem Describes.extend {regions all : List Region} {address : Nat} {reached : Option (Nat × Rights)}
    (h : Describes regions address reached) (hsub : ∀ region ∈ regions, region ∈ all)
    (hother : ∀ region ∈ all, region.Covers address → region ∈ regions) : Describes all address reached := by
  cases h with
  | mapped hmem hcovers => exact .mapped (hsub _ hmem) hcovers
  | unmapped hnone => exact .unmapped fun region hmem hcovers => hnone region (hother region hmem hcovers) hcovers

/-- An entry above that grants what the regions do leaves their rights. -/
theorem Describes.map_meet {regions : List Region} {address : Nat} {reached : Option (Nat × Rights)} {rights : Rights}
    (h : Describes regions address reached) (hrights : ∀ region ∈ regions, rights.meet region.rights = region.rights) :
    Describes regions address (reached.map fun reached => (reached.1, rights.meet reached.2)) := by
  cases h with
  | mapped hmem hcovers =>
    rw [Option.map_some, Region.map, hrights _ hmem]
    exact .mapped hmem hcovers
  | unmapped hnone => exact .unmapped hnone

/-- An address space: what an address is mapped to, as the regions say that make
    it up. -/
structure Space where
  regions : List Region
  apart : regions.Pairwise Region.Apart

namespace Space

def lookup (self : Space) (address : Nat) : Option (Nat × Rights) :=
  (self.regions.find? fun region => region.Covers address).map fun region => region.map address

variable {self : Space} {address : Nat}

/-- An address of a region is mapped as the region says. -/
theorem lookup_of_mem {region : Region} (hmem : region ∈ self.regions) (hcovers : region.Covers address) :
    self.lookup address = some (region.map address) := by
  have hexists : (self.regions.find? fun region => region.Covers address).isSome :=
    List.find?_isSome.mpr ⟨region, hmem, decide_eq_true hcovers⟩
  obtain ⟨found, hfound⟩ := Option.isSome_iff_exists.mp hexists
  have hcovered : found.Covers address := by simpa using List.find?_some hfound
  have hsame : found = region := by
    by_contra hne
    have hapart := self.apart.forall (List.mem_of_find?_eq_some hfound) hmem hne
    unfold Region.Apart at hapart
    unfold Region.Covers at hcovers hcovered
    omega
  rw [lookup, hfound, hsame]
  rfl

theorem lookup_eq_none (h : ∀ region ∈ self.regions, ¬ region.Covers address) : self.lookup address = none := by
  rw [lookup, Option.map_eq_none_iff, List.find?_eq_none]
  intro region hmem
  simpa using h region hmem

theorem lookup_of_describes {reached : Option (Nat × Rights)} (h : Describes self.regions address reached) :
    self.lookup address = reached := by
  cases h with
  | mapped hmem hcovers => exact lookup_of_mem hmem hcovers
  | unmapped hnone => exact lookup_eq_none hnone

end Space

end Paging
