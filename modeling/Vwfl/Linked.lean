import Mathlib.Data.List.Cycle
import Mathlib.Tactic

namespace Linked

variable {α : Type} {next prev : α → α} {entry : Nat → α} {count : Nat}

/-- The link `next` runs through the entries in order and from the last one back
    to the first. No entry is met twice. -/
structure Circuit (next : α → α) (entries : List α) : Prop where
  nodup : entries.Nodup
  chain : Cycle.Chain (fun first second => next first = second) (entries : Cycle α)

/-- The entry that a circuit starts with is a matter of choice. -/
theorem Circuit.rotate {first : α} {rest : List α} (hcircuit : Circuit next (first :: rest)) :
    Circuit next (rest ++ [first]) := by
  refine ⟨?_, ?_⟩
  · exact (List.perm_append_singleton first rest).nodup_iff.mpr hcircuit.nodup
  · rw [← Cycle.coe_cons_eq_coe_append]
    exact hcircuit.chain

/-- Entry 0 and `count` more, each linked to its successor and the last one to
    entry 0. -/
structure Closed (next : α → α) (entry : Nat → α) (count : Nat) : Prop where
  step : ∀ i < count, next (entry i) = entry (i + 1)
  last : next (entry count) = entry 0

/-- Entry 0 and `count` more, each linked to its predecessor and entry 0 to the
    last one. -/
structure ClosedBack (prev : α → α) (entry : Nat → α) (count : Nat) : Prop where
  step : ∀ i < count, prev (entry (i + 1)) = entry i
  last : prev (entry 0) = entry count

/-- Only the links of the entries matter. -/
theorem Closed.congr {other : α → α} (hclosed : Closed next entry count)
    (hsame : ∀ i ≤ count, other (entry i) = next (entry i)) : Closed other entry count := by
  constructor
  · intro i hi
    rw [hsame i (by omega), hclosed.step i hi]
  · rw [hsame count (Nat.le_refl _), hclosed.last]

theorem ClosedBack.congr {other : α → α} (hclosed : ClosedBack prev entry count)
    (hsame : ∀ i ≤ count, other (entry i) = prev (entry i)) : ClosedBack other entry count := by
  constructor
  · intro i hi
    rw [hsame (i + 1) (by omega), hclosed.step i hi]
  · rw [hsame 0 (Nat.zero_le _), hclosed.last]

theorem Closed.iterate (hclosed : Closed next entry count) (steps : Nat) :
    next^[steps] (entry 0) = entry (steps % (count + 1)) := by
  induction steps with
  | zero => rw [Function.iterate_zero_apply, Nat.zero_mod]
  | succ steps ih =>
    have hbound : steps % (count + 1) < count + 1 := Nat.mod_lt _ (Nat.succ_pos count)
    rw [Function.iterate_succ_apply', ih]
    by_cases hlast : steps % (count + 1) = count
    · have hwrap : (steps + 1) % (count + 1) = 0 := by
        rw [Nat.add_mod, hlast, Nat.add_mod_mod, Nat.mod_self]
      rw [hlast, hclosed.last, hwrap]
    · have hnext : (steps + 1) % (count + 1) = steps % (count + 1) + 1 := by
        rw [← Nat.mod_add_mod, Nat.mod_eq_of_lt (by omega)]
      rw [hclosed.step _ (by omega), hnext]

/-- Following the link reaches the numbered entries and nothing else. -/
theorem Closed.reached_iff (hclosed : Closed next entry count) (found : α) :
    (∃ steps, next^[steps] (entry 0) = found) ↔ ∃ i ≤ count, entry i = found := by
  constructor
  · rintro ⟨steps, rfl⟩
    have hbound : steps % (count + 1) < count + 1 := Nat.mod_lt _ (Nat.succ_pos count)
    exact ⟨steps % (count + 1), by omega, (hclosed.iterate steps).symm⟩
  · rintro ⟨i, hi, rfl⟩
    refine ⟨i, ?_⟩
    rw [hclosed.iterate, Nat.mod_eq_of_lt (by omega)]

theorem map_range_succ (entry : Nat → α) (count : Nat) :
    entry 0 :: (List.range count).map (fun i => entry (i + 1)) = (List.range (count + 1)).map entry := by
  rw [List.range_succ_eq_map, List.map_cons, List.map_map]
  rfl

theorem nodup_entries (hdistinct : ∀ i ≤ count, ∀ j ≤ count, entry i = entry j → i = j) :
    (entry 0 :: (List.range count).map fun i => entry (i + 1)).Nodup := by
  rw [map_range_succ]
  refine List.Nodup.map_on ?_ List.nodup_range
  intro i hi j hj
  rw [List.mem_range] at hi hj
  exact hdistinct i (by omega) j (by omega)

theorem Closed.circuit (hclosed : Closed next entry count)
    (hdistinct : ∀ i ≤ count, ∀ j ≤ count, entry i = entry j → i = j) :
    Circuit next (entry 0 :: (List.range count).map fun i => entry (i + 1)) := by
  refine ⟨nodup_entries hdistinct, ?_⟩
  rw [map_range_succ, ← Cycle.map_coe, Cycle.chain_map, Cycle.chain_range_succ]
  exact ⟨hclosed.last, hclosed.step⟩

/-- Backward links run through the entries behind entry 0 in reverse. -/
theorem ClosedBack.circuit (hclosed : ClosedBack prev entry count)
    (hdistinct : ∀ i ≤ count, ∀ j ≤ count, entry i = entry j → i = j) :
    Circuit prev (entry 0 :: ((List.range count).map fun i => entry (i + 1)).reverse) := by
  have hnodup := List.nodup_cons.mp (nodup_entries hdistinct)
  refine ⟨List.nodup_cons.mpr ⟨?_, List.nodup_reverse.mpr hnodup.2⟩, ?_⟩
  · rw [List.mem_reverse]
    exact hnodup.1
  · -- Read backwards, the links are those of the entries in their order.
    have hreverse : ∀ nodes : List α,
        entry 0 :: (nodes.reverse ++ [entry 0]) = (entry 0 :: (nodes ++ [entry 0])).reverse := by
      intro nodes
      simp
    rw [Cycle.chain_coe_cons, hreverse, List.isChain_reverse, ← Cycle.chain_coe_cons, map_range_succ, ← Cycle.map_coe,
      Cycle.chain_map, Cycle.chain_range_succ]
    exact ⟨hclosed.last, hclosed.step⟩

end Linked
