import Vwfl.ByteStore.Trace
import Vwfl.ByteStore.LittleEndian

namespace ByteStore

/-- The 64-bit word in the given slot of a table of words. -/
def wordAt (cells : Nat → UInt8) (base slot : Nat) : UInt64 :=
  LittleEndian.toUInt64 (load cells (base + 8 * slot) 8)

/-- Storing one word of a table changes that slot only. -/
theorem wordAt_store_word (cells : Nat → UInt8) (base slot target : Nat) (value : UInt64) :
    wordAt (store cells (base + 8 * target) (LittleEndian.ofUInt64 value)) base slot =
      if slot = target then value else wordAt cells base slot := by
  unfold wordAt
  split
  · rename_i heq
    subst heq
    have hload := load_store_same cells (base + 8 * slot) (LittleEndian.ofUInt64 value)
    rw [LittleEndian.length_ofUInt64] at hload
    rw [hload, LittleEndian.toUInt64_ofUInt64]
  · rename_i hne
    rw [load_store_of_disjoint]
    apply disjoint_of_le
    rw [LittleEndian.length_ofUInt64]
    omega

theorem wordAt_store_of_disjoint (cells : Nat → UInt8) (base slot offset : Nat) (data : List UInt8)
    (h : Disjoint (base + 8 * slot) 8 offset data.length) :
    wordAt (store cells offset data) base slot = wordAt cells base slot := by
  unfold wordAt
  rw [load_store_of_disjoint cells data h]

/-- A run of consecutive slots written in increasing order. -/
theorem wordAt_storeAll_range (cells : Nat → UInt8) (base slot first count : Nat) (values : Nat → UInt64) :
    wordAt (storeAll cells ((List.range count).map fun index =>
        (base + 8 * (first + index), LittleEndian.ofUInt64 (values index)))) base slot =
      if first ≤ slot ∧ slot < first + count then values (slot - first) else wordAt cells base slot := by
  induction count with
  | zero =>
    rw [if_neg (by omega)]
    rfl
  | succ count ih =>
    rw [List.range_succ, List.map_append, storeAll_append, List.map_singleton, storeAll_cons, storeAll_nil,
      wordAt_store_word, ih]
    by_cases hlast : slot = first + count
    · rw [if_pos hlast, if_pos (by omega), hlast, Nat.add_sub_cancel_left]
    · rw [if_neg hlast]
      by_cases hinside : first ≤ slot ∧ slot < first + count
      · rw [if_pos hinside, if_pos (by omega)]
      · rw [if_neg hinside, if_neg (by omega)]

theorem wordAt_store_zeros (cells : Nat → UInt8) (base slot count : Nat) (h : 8 * slot + 8 ≤ count) :
    wordAt (store cells base (List.replicate count 0)) base slot = 0 := by
  unfold wordAt
  rw [load_store_inside cells base (List.replicate count 0) (by simpa using h), List.drop_replicate,
    List.take_replicate, Nat.min_eq_left (by omega)]
  rfl

end ByteStore
