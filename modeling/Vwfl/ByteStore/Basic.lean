import Mathlib.Tactic

namespace ByteStore

variable {α : Type}

/-- An address lies in the half-open range of `length` cells starting at
    `offset`. -/
def Within (offset length address : Nat) : Prop :=
  offset ≤ address ∧ address < offset + length

instance (offset length address : Nat) : Decidable (Within offset length address) :=
  inferInstanceAs (Decidable (_ ∧ _))

/-- Two ranges have no address in common. Empty ranges are disjoint from
    everything, including ranges that enclose their start. -/
def Disjoint (first firstLength second secondLength : Nat) : Prop :=
  ∀ address, Within first firstLength address → ¬ Within second secondLength address

theorem Disjoint.symm {first firstLength second secondLength : Nat}
    (h : Disjoint first firstLength second secondLength) :
    Disjoint second secondLength first firstLength :=
  fun address hsecond hfirst => h address hfirst hsecond

theorem disjoint_iff {first firstLength second secondLength : Nat} :
    Disjoint first firstLength second secondLength ↔
      firstLength = 0 ∨ secondLength = 0 ∨
        first + firstLength ≤ second ∨ second + secondLength ≤ first := by
  constructor
  · intro h
    by_contra hnot
    apply h (max first second) <;> unfold Within <;> omega
  · intro h address hfirst hsecond
    unfold Within at hfirst hsecond
    omega

instance (first firstLength second secondLength : Nat) :
    Decidable (Disjoint first firstLength second secondLength) :=
  decidable_of_iff _ disjoint_iff.symm

theorem disjoint_of_le {first firstLength second secondLength : Nat}
    (h : first + firstLength ≤ second ∨ second + secondLength ≤ first) :
    Disjoint first firstLength second secondLength :=
  disjoint_iff.mpr (by omega)

/-- A range inside one that is missed is missed as well. -/
theorem Disjoint.inner {first firstLength second secondLength inner size : Nat}
    (h : Disjoint first firstLength second secondLength) (hlow : second ≤ inner)
    (hhigh : inner + size ≤ second + secondLength) : Disjoint first firstLength inner size := by
  intro address hfirst hinner
  exact h address hfirst ⟨Nat.le_trans hlow hinner.1, Nat.lt_of_lt_of_le hinner.2 hhigh⟩

/-- Replace consecutive cells by `data`, leaving every other cell alone. -/
def store (cells : Nat → α) (offset : Nat) (data : List α) : Nat → α :=
  fun address => if offset ≤ address then data[address - offset]?.getD (cells address) else cells address

/-- The `length` consecutive cells starting at `offset`. -/
def load (cells : Nat → α) (offset length : Nat) : List α :=
  (List.range length).map fun index => cells (offset + index)

@[simp] theorem length_load (cells : Nat → α) (offset length : Nat) :
    (load cells offset length).length = length := by
  simp [load]

theorem getElem?_load (cells : Nat → α) (offset : Nat) {length index : Nat} (h : index < length) :
    (load cells offset length)[index]? = some (cells (offset + index)) := by
  simp [load, h]

/-- The end of a range is the range that starts there. -/
theorem drop_load (cells : Nat → α) (offset length index : Nat) :
    (load cells offset length).drop index = load cells (offset + index) (length - index) := by
  apply List.ext_getElem?
  intro position
  rw [List.getElem?_drop]
  by_cases hposition : position < length - index
  · rw [getElem?_load _ _ hposition, getElem?_load _ _ (by omega), Nat.add_assoc]
  · rw [List.getElem?_eq_none (by rw [length_load]; omega), List.getElem?_eq_none (by rw [length_load]; omega)]

/-- A part of a range is read from the range. -/
theorem take_drop_load (cells : Nat → α) (offset : Nat) {length index size : Nat} (h : index + size ≤ length) :
    ((load cells offset length).drop index).take size = load cells (offset + index) size := by
  rw [drop_load]
  apply List.ext_getElem?
  intro position
  by_cases hposition : position < size
  · rw [List.getElem?_take_of_lt hposition, getElem?_load _ _ hposition, getElem?_load _ _ (by omega)]
  · rw [List.getElem?_eq_none (by rw [List.length_take]; omega), List.getElem?_eq_none (by rw [length_load]; omega)]

theorem store_outside (cells : Nat → α) (offset : Nat) (data : List α) {address : Nat}
    (h : ¬ Within offset data.length address) : store cells offset data address = cells address := by
  unfold store
  split
  · rename_i hle
    unfold Within at h
    rw [List.getElem?_eq_none (by omega)]
    rfl
  · rfl

theorem store_inside (cells : Nat → α) (offset : Nat) (data : List α) {index : Nat}
    (h : index < data.length) : store cells offset data (offset + index) = data[index] := by
  simp [store, h]

@[simp] theorem store_nil (cells : Nat → α) (offset : Nat) : store cells offset [] = cells := by
  funext address
  exact store_outside cells offset [] (by unfold Within; simp)

/-- A loaded range equals `data` exactly when it agrees cell by cell. -/
theorem load_eq_iff (cells : Nat → α) (offset : Nat) (data : List α) :
    load cells offset data.length = data ↔
      ∀ index (h : index < data.length), cells (offset + index) = data[index] := by
  constructor
  · intro h index hindex
    have hget := getElem?_load cells offset hindex
    rw [h, List.getElem?_eq_getElem hindex, Option.some.injEq] at hget
    exact hget.symm
  · intro h
    apply List.ext_getElem?
    intro index
    by_cases hindex : index < data.length
    · rw [getElem?_load cells offset hindex, List.getElem?_eq_getElem hindex, h index hindex]
    · rw [List.getElem?_eq_none (by simp; omega), List.getElem?_eq_none (by omega)]

theorem load_store_same (cells : Nat → α) (offset : Nat) (data : List α) :
    load (store cells offset data) offset data.length = data :=
  (load_eq_iff _ _ _).mpr fun _ h => store_inside cells offset data h

theorem store_load (cells : Nat → α) (offset length : Nat) : store cells offset (load cells offset length) = cells := by
  funext address
  by_cases hin : Within offset length address
  · obtain ⟨index, rfl⟩ := Nat.exists_eq_add_of_le hin.1
    have hindex : index < (load cells offset length).length := by
      rw [length_load]
      exact Nat.lt_of_add_lt_add_left hin.2
    rw [store_inside cells offset _ hindex]
    exact (load_eq_iff cells offset (load cells offset length)).mp (by rw [length_load]) index hindex |>.symm
  · exact store_outside cells offset _ (by rwa [length_load])

theorem load_congr {first second : Nat → α} {offset length : Nat}
    (h : ∀ address, Within offset length address → first address = second address) :
    load first offset length = load second offset length := by
  unfold load
  apply List.map_congr_left
  intro index hindex
  have hlt := List.mem_range.mp hindex
  exact h _ (by unfold Within; omega)

theorem load_store_of_disjoint (cells : Nat → α) {offset length target : Nat} (data : List α)
    (h : Disjoint target length offset data.length) :
    load (store cells offset data) target length = load cells target length :=
  load_congr fun address hin => store_outside cells offset data (h address hin)

/-- A range inside the stored one is read back from the stored data. -/
theorem load_store_inside (cells : Nat → α) (offset : Nat) (data : List α) {index length : Nat}
    (h : index + length ≤ data.length) :
    load (store cells offset data) (offset + index) length = (data.drop index).take length := by
  apply List.ext_getElem?
  intro position
  by_cases hposition : position < length
  · rw [getElem?_load _ _ hposition, Nat.add_assoc, store_inside _ _ _ (by omega),
      List.getElem?_take_of_lt hposition, List.getElem?_drop, List.getElem?_eq_getElem (by omega)]
  · rw [List.getElem?_eq_none (by simp; omega), List.getElem?_eq_none (by simp; omega)]

/-- A part of a range whose end from `skip` on holds `data`. -/
theorem load_of_drop {cells : Nat → α} {offset skip index size : Nat} {data : List α}
    (hdata : load cells (offset + skip) (data.drop skip).length = data.drop skip) (hskip : skip ≤ index)
    (hend : index + size ≤ data.length) : load cells (offset + index) size = (data.drop index).take size := by
  have hinner : index - skip + size ≤ (data.drop skip).length := by
    rw [List.length_drop]
    omega
  have hpart := take_drop_load cells (offset + skip) hinner
  rw [hdata, List.drop_drop] at hpart
  rw [show offset + index = offset + skip + (index - skip) by omega, ← hpart,
    show skip + (index - skip) = index by omega]

end ByteStore
