import Vwfl.ByteStore.Trace

namespace ByteStore

variable {α : Type}

/-- Stores that miss each other may change places. -/
theorem store_comm (cells : Nat → α) {first second : Nat} {firstData secondData : List α}
    (h : Disjoint first firstData.length second secondData.length) :
    store (store cells first firstData) second secondData = store (store cells second secondData) first firstData := by
  funext address
  by_cases hfirst : Within first firstData.length address
  · have hsecond := h address hfirst
    obtain ⟨index, rfl⟩ := Nat.exists_eq_add_of_le hfirst.1
    have hindex : index < firstData.length := Nat.lt_of_add_lt_add_left hfirst.2
    rw [store_outside _ second secondData hsecond, store_inside _ _ _ hindex, store_inside _ _ _ hindex]
  · rw [store_outside _ first firstData hfirst]
    by_cases hsecond : Within second secondData.length address
    · obtain ⟨index, rfl⟩ := Nat.exists_eq_add_of_le hsecond.1
      have hindex : index < secondData.length := Nat.lt_of_add_lt_add_left hsecond.2
      rw [store_inside _ _ _ hindex, store_inside _ _ _ hindex]
    · rw [store_outside _ _ _ hsecond, store_outside _ _ _ hsecond, store_outside _ _ _ hfirst]

/-- The order of stores that miss each other does not matter. -/
theorem storeAll_perm (cells : Nat → α) {writes others : List (Nat × List α)} (hperm : writes.Perm others)
    (hdisjoint : writes.Pairwise fun first second => Disjoint first.1 first.2.length second.1 second.2.length) :
    storeAll cells writes = storeAll cells others := by
  have hsymm : writes.Pairwise (flip fun first second : Nat × List α =>
      first = second ∨ Disjoint first.1 first.2.length second.1 second.2.length) :=
    hdisjoint.imp fun hmiss => .inr hmiss.symm
  have hapart := List.Pairwise.forall_of_forall_of_flip (fun _ _ => .inl rfl) (hdisjoint.imp .inr) hsymm
  apply hperm.foldl_eq'
  intro first hfirst second hsecond current
  rcases hapart hfirst hsecond with rfl | hmiss
  · rfl
  · exact store_comm current hmiss

/-- Stores of what is there already change nothing. -/
theorem storeAll_of_loads {cells : Nat → α} {writes : List (Nat × List α)}
    (h : ∀ write ∈ writes, load cells write.1 write.2.length = write.2) : storeAll cells writes = cells := by
  induction writes with
  | nil => rfl
  | cons write writes ih =>
    have hfirst : store cells write.1 write.2 = cells := by
      rw [← h write List.mem_cons_self]
      exact store_load cells _ _
    rw [storeAll_cons, hfirst]
    exact ih fun later hlater => h later (List.mem_cons_of_mem _ hlater)

/-- Stores that miss each other may be repeated. -/
theorem storeAll_storeAll (cells : Nat → α) {writes : List (Nat × List α)}
    (hdisjoint : writes.Pairwise fun first second => Disjoint first.1 first.2.length second.1 second.2.length) :
    storeAll (storeAll cells writes) writes = storeAll cells writes :=
  storeAll_of_loads fun _ hwrite => load_storeAll_of_mem cells hdisjoint hwrite

end ByteStore
