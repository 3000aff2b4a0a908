import Vwfl.ByteStore.Basic
import Vwfl.Loader.Plan

open Rust ByteStore
open vwfl.vm vwfl.pe

namespace vwfl.loader

/-- Image size of a file of the directory, zero when it cannot be loaded. -/
def fileSize (host : Host) (dir : Directory) (name : String) : Nat :=
  match openFile host dir name with
  | .ok (_, size) => size.toNat
  | .error _ => 0

/-- Modules whose bases follow a cursor that advances by rounded sizes. -/
def Follows (base : LoadedModule → UInt64) : UInt64 → List LoadedModule → Prop
  | _, [] => True
  | cursor, loaded :: rest => base loaded = cursor ∧ Follows base (cursor + alignedSize loaded.size) rest

/-- Where loading a directory puts its modules. -/
structure Placed (host : Host) (dir : Directory) (k_pbase k_vbase : UInt64)
    (ntoskrnl hal kd kdcom : LoadedModule) (drivers : List LoadedModule) : Prop where
  kernel : ntoskrnl.p_base = k_pbase ∧ ntoskrnl.v_base = k_vbase
  fixed : hal.v_base = 0xFFFFF80002000000 ∧ kd.v_base = 0xFFFFF80000600000 ∧ kdcom.v_base = 0xFFFFF80000800000
  physical : Follows LoadedModule.p_base 0x2000000 (hal :: kd :: kdcom :: drivers)
  virtual : Follows LoadedModule.v_base 0xFFFFF80040000000 drivers
  opened : ∀ loaded ∈ ntoskrnl :: hal :: kd :: kdcom :: drivers,
    openFile host dir loaded.name = .ok (loaded.pe, loaded.size)
  names : ntoskrnl.name = "ntoskrnl.exe" ∧ hal.name = "hal.dll" ∧ kd.name = "kd.dll" ∧ kdcom.name = "kdcom.dll" ∧
    drivers.map LoadedModule.name = driverNames host dir

variable {host : Host} {dir : Directory}

theorem fileSize_of_ok {name : String} {pe : PeFile} {size : UInt32} (h : openFile host dir name = .ok (pe, size)) :
    fileSize host dir name = size.toNat := by
  rw [fileSize, h]

theorem planModule_opened {name : String} {p_base v_base : UInt64} {loaded : LoadedModule}
    (h : planModule host dir name p_base v_base = .ok loaded) :
    openFile host dir loaded.name = .ok (loaded.pe, loaded.size) := by
  obtain ⟨hname, _, _, hopen⟩ := planModule_eq_ok h
  rw [hname, hopen]

theorem Placed.sizes {k_pbase k_vbase : UInt64} {ntoskrnl hal kd kdcom : LoadedModule} {drivers : List LoadedModule}
    (hplaced : Placed host dir k_pbase k_vbase ntoskrnl hal kd kdcom drivers) :
    ∀ loaded ∈ ntoskrnl :: hal :: kd :: kdcom :: drivers, loaded.size.toNat = fileSize host dir loaded.name := by
  intro loaded hloaded
  rw [fileSize_of_ok (hplaced.opened loaded hloaded)]

/-- The planned drivers stand where the two cursors do. -/
theorem planDrivers_eq_ok {names : List String} {p_cursor v_cursor : UInt64} {drivers : List LoadedModule}
    (h : planDrivers host dir names p_cursor v_cursor = .ok drivers) :
    drivers.map LoadedModule.name = names ∧
      Follows LoadedModule.p_base p_cursor drivers ∧ Follows LoadedModule.v_base v_cursor drivers ∧
      ∀ loaded ∈ drivers, openFile host dir loaded.name = .ok (loaded.pe, loaded.size) := by
  induction names generalizing p_cursor v_cursor drivers with
  | nil =>
    injection h with hdrivers
    subst hdrivers
    exact ⟨rfl, trivial, trivial, by simp⟩
  | cons name names ih =>
    obtain ⟨loaded, hloaded, h⟩ := bind_eq_ok_iff.mp h
    obtain ⟨rest, hrest, h⟩ := bind_eq_ok_iff.mp h
    injection h with hdrivers
    subst hdrivers
    obtain ⟨hname, hp_base, hv_base, _⟩ := planModule_eq_ok hloaded
    obtain ⟨hnames, hphysical, hvirtual, hopened⟩ := ih hrest
    refine ⟨by rw [List.map_cons, hname, hnames], ⟨hp_base, hphysical⟩, ⟨hv_base, hvirtual⟩, ?_⟩
    intro other hother
    rcases List.mem_cons.mp hother with rfl | hlater
    · exact planModule_opened hloaded
    · exact hopened other hlater

/-- The plan of a directory places the four fixed modules and then the
    drivers. -/
theorem planDirectory_eq_ok {k_pbase k_vbase : UInt64} {modules : List LoadedModule}
    (h : planDirectory host dir k_pbase k_vbase = .ok modules) :
    ∃ ntoskrnl hal kd kdcom drivers, modules = ntoskrnl :: hal :: kd :: kdcom :: drivers ∧
      Placed host dir k_pbase k_vbase ntoskrnl hal kd kdcom drivers := by
  obtain ⟨ntoskrnl, hntoskrnl, h⟩ := bind_eq_ok_iff.mp h
  obtain ⟨hal, hhal, h⟩ := bind_eq_ok_iff.mp h
  obtain ⟨kd, hkd, h⟩ := bind_eq_ok_iff.mp h
  obtain ⟨kdcom, hkdcom, h⟩ := bind_eq_ok_iff.mp h
  obtain ⟨drivers, hdrivers, h⟩ := bind_eq_ok_iff.mp h
  injection h with hmodules
  obtain ⟨hn0, hp0, hv0, _⟩ := planModule_eq_ok hntoskrnl
  obtain ⟨hn1, hp1, hv1, _⟩ := planModule_eq_ok hhal
  obtain ⟨hn2, hp2, hv2, _⟩ := planModule_eq_ok hkd
  obtain ⟨hn3, hp3, hv3, _⟩ := planModule_eq_ok hkdcom
  obtain ⟨hnames, hphysical, hvirtual, hopened⟩ := planDrivers_eq_ok hdrivers
  refine ⟨ntoskrnl, hal, kd, kdcom, drivers, hmodules.symm, ⟨hp0, hv0⟩, ⟨hv1, hv2, hv3⟩,
    ⟨hp1, hp2, hp3, hphysical⟩, hvirtual, ?_, hn0, hn1, hn2, hn3, hnames⟩
  intro loaded hloaded
  simp only [List.mem_cons] at hloaded
  rcases hloaded with rfl | rfl | rfl | rfl | hdriver
  · exact planModule_opened hntoskrnl
  · exact planModule_opened hhal
  · exact planModule_opened hkd
  · exact planModule_opened hkdcom
  · exact hopened loaded hdriver

/-- A size rounded up to whole large pages. -/
def roundUp (size : Nat) : Nat := (size + 0x1FFFFF) / 0x200000 * 0x200000

theorem alignedSize_toNat (size : UInt32) : (alignedSize size).toNat = roundUp size.toNat := by
  have hsize := size.toNat_lt
  have hpad : (0x1FFFFF : UInt64).toNat = 0x1FFFFF := rfl
  have hwide : size.toUInt64.toNat = size.toNat := UInt32.toNat_toUInt64 size
  have hsum : (size.toUInt64 + 0x1FFFFF).toNat = size.toNat + 0x1FFFFF := by
    rw [BitField.toNat_add_of_lt (by omega), hwide, hpad]
  rw [alignedSize, BitField.toNat_and_field _ _ 21 43 (by decide), hsum, roundUp]
  omega

/-- Space that a list of modules takes from a cursor on. -/
def extent (modules : List LoadedModule) : Nat := (modules.map fun loaded => roundUp loaded.size.toNat).sum

@[simp] theorem extent_nil : extent [] = 0 := rfl

@[simp] theorem extent_cons (loaded : LoadedModule) (rest : List LoadedModule) :
    extent (loaded :: rest) = roundUp loaded.size.toNat + extent rest := by
  simp [extent]

theorem extent_append (modules others : List LoadedModule) :
    extent (modules ++ others) = extent modules + extent others := by
  simp [extent]

theorem extent_take_le (modules : List LoadedModule) (index : Nat) : extent (modules.take index) ≤ extent modules := by
  have hsplit := extent_append (modules.take index) (modules.drop index)
  rw [List.take_append_drop] at hsplit
  omega

theorem le_roundUp (size : Nat) : size ≤ roundUp size := by
  unfold roundUp
  omega

theorem roundUp_mod (size : Nat) : roundUp size % 0x200000 = 0 := by
  unfold roundUp
  omega

theorem roundUp_le (size : UInt32) : roundUp size.toNat ≤ 2 ^ 32 := by
  have hsize := size.toNat_lt
  unfold roundUp
  omega

theorem extent_mod (modules : List LoadedModule) : extent modules % 0x200000 = 0 := by
  induction modules with
  | nil => rfl
  | cons head rest ih =>
    have hround := roundUp_mod head.size.toNat
    rw [extent_cons]
    omega

variable {base : LoadedModule → UInt64}

private theorem next_cursor {cursor : UInt64} {size : UInt32} (h : cursor.toNat + roundUp size.toNat < 2 ^ 64) :
    (cursor + alignedSize size).toNat = cursor.toNat + roundUp size.toNat := by
  rw [BitField.toNat_add_of_lt (by rwa [alignedSize_toNat]), alignedSize_toNat]

/-- Modules that end before the address space does lie one after the other. -/
theorem Follows.within {cursor : UInt64} {modules : List LoadedModule} (hfollows : Follows base cursor modules)
    (hextent : cursor.toNat + extent modules < 2 ^ 64) :
    ∀ loaded ∈ modules, cursor.toNat ≤ (base loaded).toNat ∧
      (base loaded).toNat + loaded.size.toNat ≤ cursor.toNat + extent modules := by
  induction modules generalizing cursor with
  | nil => simp
  | cons head rest ih =>
    obtain ⟨hhead, hrest⟩ := hfollows
    rw [extent_cons] at hextent ⊢
    have hnext := next_cursor (show cursor.toNat + roundUp head.size.toNat < 2 ^ 64 by omega)
    have hround := le_roundUp head.size.toNat
    intro loaded hloaded
    rcases List.mem_cons.mp hloaded with rfl | hlater
    · rw [hhead]
      omega
    · obtain ⟨hlow, hhigh⟩ := ih hrest (by omega) loaded hlater
      omega

theorem cursorBehind_toNat {cursor : UInt64} {modules : List LoadedModule}
    (hextent : cursor.toNat + extent modules < 2 ^ 64) :
    (cursorBehind cursor modules).toNat = cursor.toNat + extent modules := by
  induction modules generalizing cursor with
  | nil => rfl
  | cons head rest ih =>
    rw [extent_cons] at hextent ⊢
    have hnext := next_cursor (show cursor.toNat + roundUp head.size.toNat < 2 ^ 64 by omega)
    rw [cursorBehind, ih (by omega), hnext]
    omega

/-- Every base is the cursor moved by the rounded sizes of the modules before
    it. -/
theorem Follows.base_toNat {cursor : UInt64} {modules : List LoadedModule} (hfollows : Follows base cursor modules)
    (hextent : cursor.toNat + extent modules < 2 ^ 64) (index : Nat) (hindex : index < modules.length) :
    (base modules[index]).toNat = cursor.toNat + extent (modules.take index) := by
  induction modules generalizing cursor index with
  | nil => cases hindex
  | cons head rest ih =>
    obtain ⟨hhead, hrest⟩ := hfollows
    rw [extent_cons] at hextent
    have hnext := next_cursor (show cursor.toNat + roundUp head.size.toNat < 2 ^ 64 by omega)
    cases index with
    | zero => rw [List.getElem_cons_zero, hhead, List.take_zero, extent_nil, Nat.add_zero]
    | succ index =>
      have hbase := ih hrest (by omega) index (Nat.lt_of_succ_lt_succ hindex)
      rw [List.getElem_cons_succ, hbase, hnext, List.take_succ_cons, extent_cons, Nat.add_assoc]

/-- Modules whose bases stay below a limit end within 4 GiB behind it. -/
theorem Follows.extent_le {cursor : UInt64} {modules : List LoadedModule} {limit : Nat}
    (hfollows : Follows base cursor modules) (hcursor : cursor.toNat ≤ limit + 2 ^ 32)
    (hbases : ∀ loaded ∈ modules, (base loaded).toNat ≤ limit) (hlimit : limit + 2 ^ 32 < 2 ^ 64) :
    cursor.toNat + extent modules ≤ limit + 2 ^ 32 := by
  induction modules generalizing cursor with
  | nil => simpa using hcursor
  | cons head rest ih =>
    obtain ⟨hhead, hrest⟩ := hfollows
    have hround := roundUp_le head.size
    have hbase := hbases head List.mem_cons_self
    rw [hhead] at hbase
    have hnext := next_cursor (show cursor.toNat + roundUp head.size.toNat < 2 ^ 64 by omega)
    have htail := ih hrest (by omega) fun loaded hloaded => hbases loaded (List.mem_cons_of_mem _ hloaded)
    rw [extent_cons]
    omega

theorem Follows.pairwise {cursor : UInt64} {modules : List LoadedModule} (hfollows : Follows base cursor modules)
    (hextent : cursor.toNat + extent modules < 2 ^ 64) :
    modules.Pairwise fun first second =>
      Disjoint (base first).toNat first.size.toNat (base second).toNat second.size.toNat := by
  induction modules generalizing cursor with
  | nil => exact List.Pairwise.nil
  | cons head rest ih =>
    obtain ⟨hhead, hrest⟩ := hfollows
    rw [extent_cons] at hextent
    have hnext := next_cursor (show cursor.toNat + roundUp head.size.toNat < 2 ^ 64 by omega)
    have hround := le_roundUp head.size.toNat
    refine List.pairwise_cons.mpr ⟨?_, ih hrest (by omega)⟩
    intro loaded hloaded
    obtain ⟨hlow, _⟩ := hrest.within (by omega) loaded hloaded
    apply disjoint_of_le
    rw [hhead]
    omega

/-- From a cursor below an aligned boundary, the modules miss the region at the
    boundary exactly when they all fit in front of it. -/
theorem Follows.misses_iff {cursor : UInt64} {modules : List LoadedModule} {boundary length : Nat}
    (hfollows : Follows base cursor modules) (hcursor : cursor.toNat ≤ boundary)
    (haligned : cursor.toNat % 0x200000 = 0) (hboundary : boundary % 0x200000 = 0)
    (hbound : boundary + 2 ^ 33 < 2 ^ 64) (hlength : 0 < length) :
    (∀ loaded ∈ modules, Disjoint (base loaded).toNat loaded.size.toNat boundary length) ↔
      cursor.toNat + extent modules ≤ boundary := by
  induction modules generalizing cursor with
  | nil => simpa using hcursor
  | cons head rest ih =>
    obtain ⟨hhead, hrest⟩ := hfollows
    have hsize := head.size.toNat_lt
    have hround : roundUp head.size.toNat = (head.size.toNat + 0x1FFFFF) / 0x200000 * 0x200000 := rfl
    have hnext := next_cursor (show cursor.toNat + roundUp head.size.toNat < 2 ^ 64 by omega)
    rw [extent_cons]
    by_cases hfits : cursor.toNat + roundUp head.size.toNat ≤ boundary
    · have htail := ih hrest (by omega) (by omega)
      have hdisjoint : Disjoint (base head).toNat head.size.toNat boundary length := by
        apply disjoint_of_le
        rw [hhead]
        omega
      simp only [List.mem_cons, forall_eq_or_imp, hdisjoint, true_and, htail, hnext]
      omega
    · -- The module that crosses the boundary covers its first byte.
      refine iff_of_false ?_ (by omega)
      intro hall
      have hdisjoint := hall head List.mem_cons_self
      rw [disjoint_iff, hhead] at hdisjoint
      omega

/-- All modules are empty, or some nonempty one stands at the cursor. -/
theorem Follows.first_nonempty {cursor : UInt64} {modules : List LoadedModule}
    (hfollows : Follows base cursor modules) :
    (∀ loaded ∈ modules, loaded.size.toNat = 0) ∨
      ∃ loaded ∈ modules, base loaded = cursor ∧ 0 < loaded.size.toNat := by
  induction modules generalizing cursor with
  | nil => exact .inl (by simp)
  | cons head rest ih =>
    obtain ⟨hhead, hrest⟩ := hfollows
    by_cases hempty : head.size.toNat = 0
    · have hround : alignedSize head.size = 0 := by
        apply UInt64.toNat.inj
        rw [alignedSize_toNat, hempty]
        rfl
      rw [hround, UInt64.add_zero] at hrest
      rcases ih hrest with hall | ⟨loaded, hloaded, hbase, hpositive⟩
      · exact .inl (by simpa [hempty] using hall)
      · exact .inr ⟨loaded, List.mem_cons_of_mem _ hloaded, hbase, hpositive⟩
    · exact .inr ⟨head, List.mem_cons_self, hhead, Nat.pos_of_ne_zero hempty⟩

/-- A range that starts before the cursor misses the modules exactly when it
    ends before the cursor or they are all empty. -/
theorem Follows.missed_iff {cursor : UInt64} {modules : List LoadedModule} {start length : Nat}
    (hfollows : Follows base cursor modules) (hextent : cursor.toNat + extent modules < 2 ^ 64)
    (hstart : start ≤ cursor.toNat) :
    (∀ loaded ∈ modules, Disjoint start length (base loaded).toNat loaded.size.toNat) ↔
      start + length ≤ cursor.toNat ∨ ∀ loaded ∈ modules, loaded.size.toNat = 0 := by
  constructor
  · intro hmissed
    rcases hfollows.first_nonempty with hempty | ⟨loaded, hloaded, hbase, hpositive⟩
    · exact .inr hempty
    · have hdisjoint := hmissed loaded hloaded
      rw [disjoint_iff, hbase] at hdisjoint
      omega
  · rintro (hends | hempty) loaded hloaded
    · obtain ⟨hlow, _⟩ := hfollows.within hextent loaded hloaded
      exact disjoint_of_le (by omega)
    · exact disjoint_iff.mpr (.inr (.inl (hempty loaded hloaded)))

end vwfl.loader
