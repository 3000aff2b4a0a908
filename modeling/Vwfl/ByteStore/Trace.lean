import Vwfl.ByteStore.Basic

namespace ByteStore

variable {α : Type}

/-- Perform a sequence of stores, the head of the list first. -/
def storeAll (cells : Nat → α) (writes : List (Nat × List α)) : Nat → α :=
  writes.foldl (fun current write => store current write.1 write.2) cells

@[simp] theorem storeAll_nil (cells : Nat → α) : storeAll cells [] = cells := rfl

@[simp] theorem storeAll_cons (cells : Nat → α) (write : Nat × List α) (writes : List (Nat × List α)) :
    storeAll cells (write :: writes) = storeAll (store cells write.1 write.2) writes := rfl

theorem storeAll_append (cells : Nat → α) (first second : List (Nat × List α)) :
    storeAll cells (first ++ second) = storeAll (storeAll cells first) second :=
  List.foldl_append

/-- A cell that no store of the sequence covers keeps its value. -/
theorem storeAll_untouched (cells : Nat → α) (writes : List (Nat × List α)) {address : Nat}
    (h : ∀ write ∈ writes, ¬ Within write.1 write.2.length address) :
    storeAll cells writes address = cells address := by
  induction writes generalizing cells with
  | nil => rfl
  | cons write writes ih =>
    rw [storeAll_cons, ih _ fun later hlater => h later (by simp [hlater])]
    exact store_outside cells write.1 write.2 (h write (by simp))

theorem load_storeAll_of_disjoint (cells : Nat → α) (writes : List (Nat × List α)) {offset length : Nat}
    (h : ∀ write ∈ writes, Disjoint offset length write.1 write.2.length) :
    load (storeAll cells writes) offset length = load cells offset length :=
  load_congr fun address hin =>
    storeAll_untouched cells writes fun write hwrite => h write hwrite address hin

/-- No store of the sequence covers a cell of the range. -/
def Misses (offset length : Nat) (writes : List (Nat × List α)) : Prop :=
  ∀ write ∈ writes, Disjoint offset length write.1 write.2.length

theorem misses_nil (offset length : Nat) : Misses offset length ([] : List (Nat × List α)) :=
  fun _ hwrite => absurd hwrite List.not_mem_nil

theorem misses_cons {offset length : Nat} {write : Nat × List α} {writes : List (Nat × List α)} :
    Misses offset length (write :: writes) ↔
      Disjoint offset length write.1 write.2.length ∧ Misses offset length writes :=
  List.forall_mem_cons

theorem misses_append {offset length : Nat} {first second : List (Nat × List α)} :
    Misses offset length (first ++ second) ↔ Misses offset length first ∧ Misses offset length second :=
  List.forall_mem_append

theorem misses_flatMap {β : Type} {offset length : Nat} {items : List β} {writes : β → List (Nat × List α)}
    (h : ∀ item ∈ items, Misses offset length (writes item)) : Misses offset length (items.flatMap writes) := by
  intro write hwrite
  obtain ⟨item, hitem, hwrite⟩ := List.mem_flatMap.mp hwrite
  exact h item hitem write hwrite

theorem Misses.mono {offset length inner size : Nat} {writes : List (Nat × List α)}
    (h : Misses offset length writes) (hlow : offset ≤ inner) (hhigh : inner + size ≤ offset + length) :
    Misses inner size writes := by
  intro write hwrite address hin
  exact h write hwrite address ⟨Nat.le_trans hlow hin.1, Nat.lt_of_lt_of_le hin.2 hhigh⟩

/-- The end of a store survives when every later store of the sequence misses
    it. -/
theorem load_storeAll_drop (cells : Nat → α) {before after : List (Nat × List α)} {offset index : Nat} {data : List α}
    (hindex : index ≤ data.length) (hafter : Misses (offset + index) (data.drop index).length after) :
    load (storeAll cells (before ++ (offset, data) :: after)) (offset + index) (data.drop index).length =
      data.drop index := by
  have hinside : index + (data.drop index).length ≤ data.length := by
    rw [List.length_drop]
    omega
  rw [storeAll_append, storeAll_cons, load_storeAll_of_disjoint _ _ hafter, load_store_inside _ _ _ hinside,
    List.take_length]

/-- A part of a store survives when every later store of the sequence misses
    that part. -/
theorem load_storeAll_inside (cells : Nat → α) {before after : List (Nat × List α)} {offset index size : Nat}
    {data : List α} (hinside : index + size ≤ data.length) (hafter : Misses (offset + index) size after) :
    load (storeAll cells (before ++ (offset, data) :: after)) (offset + index) size = (data.drop index).take size := by
  rw [storeAll_append, storeAll_cons, load_storeAll_of_disjoint _ _ hafter, load_store_inside _ _ _ hinside]

/-- A store survives when every later store of the sequence misses it. -/
theorem load_storeAll_of_split (cells : Nat → α) {before after : List (Nat × List α)} {offset : Nat} {data : List α}
    (hafter : Misses offset data.length after) :
    load (storeAll cells (before ++ (offset, data) :: after)) offset data.length = data := by
  rw [storeAll_append, storeAll_cons, load_storeAll_of_disjoint _ _ hafter, load_store_same]

/-- In a sequence of pairwise disjoint stores, every store survives. -/
theorem load_storeAll_of_mem (cells : Nat → α) {writes : List (Nat × List α)}
    (hdisjoint : writes.Pairwise fun first second =>
      Disjoint first.1 first.2.length second.1 second.2.length)
    {write : Nat × List α} (hmem : write ∈ writes) :
    load (storeAll cells writes) write.1 write.2.length = write.2 := by
  obtain ⟨before, after, rfl⟩ := List.append_of_mem hmem
  have hafter := (List.pairwise_append.mp hdisjoint).2.1
  exact load_storeAll_of_split cells (List.pairwise_cons.mp hafter).1

end ByteStore
