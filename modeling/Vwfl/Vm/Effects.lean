import Vwfl.Rust.Yields
import Vwfl.Vm.Access

open Rust ByteStore

namespace vwfl.vm

/-- A computation always returns and its only effect is the given sequence of
    stores. -/
def Performs (x : VmM Unit) (writes : List (Nat × List UInt8)) : Prop :=
  ∀ self : Vm, x.run self = .ok () { self with mem := storeAll self.mem writes }

theorem Performs.returns {x : VmM Unit} {writes : List (Nat × List UInt8)} (hx : Performs x writes) (self : Vm) :
    ∃ after, x.run self = .ok () after :=
  ⟨_, hx self⟩

theorem Performs.pure : Performs (pure ()) [] := fun _ => rfl

theorem Performs.write_memory (profile : Profile) {offset : UInt64} {data : List UInt8}
    (h : offset.toNat + data.length ≤ MEM_SIZE.toNat) :
    Performs (Vm.write_memory profile offset data) [(offset.toNat, data)] :=
  fun self => Vm.write_memory_of_le profile self h

theorem Performs.write_memory_ok (profile : Profile) {offset : UInt64} {data : List UInt8}
    (h : offset.toNat + data.length ≤ MEM_SIZE.toNat) :
    Performs (Stateful.ok (Vm.write_memory profile offset data)) [(offset.toNat, data)] :=
  fun self => Vm.write_memory_ok_of_le profile self h

/-- Sequencing concatenates the stores. -/
theorem Performs.bind {x y : VmM Unit} {first second : List (Nat × List UInt8)}
    (hx : Performs x first) (hy : Performs y second) : Performs (x >>= fun _ => y) (first ++ second) := by
  intro self
  rw [Stateful.bind_run, hx self, storeAll_append]
  exact hy _

/-- One store in front of a computation, at an address and with data given up
    to evaluation. -/
theorem Performs.write_then (profile : Profile) {offset : UInt64} {data bytes : List UInt8} {address : Nat}
    {rest : VmM Unit} {writes : List (Nat × List UInt8)} (haddress : offset.toNat = address)
    (hdata : data = bytes) (hbound : address + bytes.length ≤ MEM_SIZE.toNat) (hrest : Performs rest writes) :
    Performs (Vm.write_memory profile offset data >>= fun _ => rest) ((address, bytes) :: writes) := by
  subst haddress hdata
  exact (Performs.write_memory profile hbound).bind hrest

theorem Performs.write_ok_then (profile : Profile) {offset : UInt64} {data bytes : List UInt8} {address : Nat}
    {rest : VmM Unit} {writes : List (Nat × List UInt8)} (haddress : offset.toNat = address)
    (hdata : data = bytes) (hbound : address + bytes.length ≤ MEM_SIZE.toNat) (hrest : Performs rest writes) :
    Performs (Stateful.ok (Vm.write_memory profile offset data) >>= fun _ => rest)
      ((address, bytes) :: writes) := by
  subst haddress hdata
  exact (Performs.write_memory_ok profile hbound).bind hrest

/-- A computation in front that also returns a value. -/
theorem Performs.bind_value {α : Type} {x : VmM α} {value : α} {f : α → VmM Unit}
    {first second : List (Nat × List UInt8)}
    (hx : ∀ self : Vm, x.run self = .ok value { self with mem := storeAll self.mem first })
    (hf : Performs (f value) second) : Performs (x >>= f) (first ++ second) := by
  intro self
  rw [Stateful.bind_run, hx self, storeAll_append]
  exact hf _

theorem Performs.lift_bind {α : Type} {x : Result α} {value : α} {f : α → VmM Unit} {writes : List (Nat × List UInt8)}
    (hx : x = .ok value) (hf : Performs (f value) writes) : Performs (liftM x >>= f) writes := by
  intro self
  rw [Stateful.bind_run, hx, Stateful.lift_ok_run]
  exact hf self

/-- An address computed from a base and a constant offset, in front of a
    computation that uses it. -/
theorem Performs.add_then (profile : Profile) {base offset : UInt64} (distance : Nat) {rest : UInt64 → VmM Unit}
    {writes : List (Nat × List UInt8)} (hoffset : offset.toNat = distance) (hbound : base.toNat + distance < 2 ^ 64)
    (hrest : (base + offset).toNat = base.toNat + distance → Performs (rest (base + offset)) writes) :
    Performs (liftM (profile.add64 base offset) >>= rest) writes := by
  subst hoffset
  exact Performs.lift_bind (profile.add64_of_lt hbound) (hrest (BitField.toNat_add_of_lt hbound))

theorem Performs.ok {x : VmM Unit} {writes : List (Nat × List UInt8)} (hx : Performs x writes) :
    Performs (Stateful.ok x) writes :=
  fun self => Stateful.ok_run_of_ok (hx self)

theorem Performs.expect {x : VmM Unit} {writes : List (Nat × List UInt8)} (hx : Performs x writes)
    (message : String) : Performs (Stateful.expect x message) writes :=
  fun self => Stateful.expect_run_eq_ok_iff.mpr (hx self)

/-- A loop over a list performs the stores of its iterations in order. -/
theorem Performs.forM {α : Type} {items : List α} {body : α → VmM Unit}
    {writes : α → List (Nat × List UInt8)} (h : ∀ item ∈ items, Performs (body item) (writes item)) :
    Performs (forM items body) (items.flatMap writes) := by
  induction items with
  | nil => exact Performs.pure
  | cons item items ih =>
    rw [List.forM_cons, List.flatMap_cons]
    exact (h item (by simp)).bind (ih fun later hlater => h later (by simp [hlater]))

/-- The address that a computation was given which returned. -/
theorem add_then_eq_ok {α : Type} {profile : Profile} {base offset : UInt64} {rest : UInt64 → VmM α} {value : α}
    {before after : Vm} (h : (liftM (profile.add64 base offset) >>= rest).run before = .ok value after) :
    (rest (base + offset)).run before = .ok value after := by
  obtain ⟨sum, _, hadd, hrest⟩ := Stateful.bind_run_eq_ok_iff.mp h
  obtain ⟨hsum, rfl⟩ := Stateful.lift_run_eq_ok_iff.mp hadd
  rwa [← Profile.eq_of_add64 hsum]

/-- The store in front of a computation which returned. -/
theorem write_then_eq_ok {α : Type} {profile : Profile} {offset : UInt64} {data : List UInt8} {rest : VmM α} {value : α}
    {before after : Vm} (h : (Vm.write_memory profile offset data >>= fun _ => rest).run before = .ok value after) :
    offset.toNat + data.length ≤ MEM_SIZE.toNat ∧
      rest.run { before with mem := store before.mem offset.toNat data } = .ok value after := by
  obtain ⟨⟨⟩, _, hwrite, hrest⟩ := Stateful.bind_run_eq_ok_iff.mp h
  obtain ⟨hbound, rfl⟩ := Vm.write_memory_eq_ok hwrite
  exact ⟨hbound, hrest⟩

/-- Whenever a computation returns, its effect is the given sequence of
    stores. -/
def Leaves {α : Type} (x : VmM α) (writes : List (Nat × List UInt8)) : Prop :=
  ∀ (before after : Vm) (value : α), x.run before = .ok value after →
    after = { before with mem := storeAll before.mem writes }

theorem Performs.leaves {x : VmM Unit} {writes : List (Nat × List UInt8)} (hx : Performs x writes) :
    Leaves x writes := by
  intro before after value hrun
  rw [hx before] at hrun
  injection hrun with _ hstate
  exact hstate.symm

theorem Leaves.pure {α : Type} (value : α) : Leaves (pure value) [] := by
  intro before after result h
  injection h with _ hstate
  exact hstate.symm

theorem Leaves.write_memory (profile : Profile) (offset : UInt64) (data : List UInt8) :
    Leaves (Vm.write_memory profile offset data) [(offset.toNat, data)] :=
  fun _ _ _ h => (Vm.write_memory_eq_ok h).2

/-- A computation without state in front leaves the stores of the rest. -/
theorem Leaves.lift_bind {α β : Type} {x : Result α} {f : α → VmM β} {writes : List (Nat × List UInt8)}
    (h : ∀ value, x = .ok value → Leaves (f value) writes) : Leaves (liftM x >>= f) writes := by
  intro before after result hrun
  obtain ⟨value, middle, hlift, hrest⟩ := Stateful.bind_run_eq_ok_iff.mp hrun
  obtain ⟨hvalue, rfl⟩ := Stateful.lift_run_eq_ok_iff.mp hlift
  exact h value hvalue middle after result hrest

theorem Leaves.bind {α β : Type} {x : VmM α} {f : α → VmM β} {first second : List (Nat × List UInt8)}
    (hx : Leaves x first) (hf : ∀ value, Leaves (f value) second) : Leaves (x >>= f) (first ++ second) := by
  intro before after result hrun
  obtain ⟨value, middle, hfirst, hsecond⟩ := Stateful.bind_run_eq_ok_iff.mp hrun
  rw [hf value middle after result hsecond, hx before middle value hfirst, storeAll_append]

theorem Leaves.expect {α : Type} {x : VmM α} {writes : List (Nat × List UInt8)} (hx : Leaves x writes)
    (message : String) : Leaves (Stateful.expect x message) writes :=
  fun before after value hrun => hx before after value (Stateful.expect_run_eq_ok_iff.mp hrun)

theorem Leaves.forM {α : Type} {items : List α} {body : α → VmM Unit} {writes : α → List (Nat × List UInt8)}
    (h : ∀ item ∈ items, Leaves (body item) (writes item)) :
    Leaves (forM items body) (items.flatMap writes) := by
  induction items with
  | nil => exact Leaves.pure ()
  | cons item items ih =>
    rw [List.forM_cons, List.flatMap_cons]
    exact (h item (by simp)).bind fun _ => ih fun later hlater => h later (by simp [hlater])

open Stateful in
/-- A store completes exactly when it ends in guest memory. -/
theorem write_memory_completes (profile : Profile) (offset : UInt64) (data : List UInt8) :
    Completes (Vm.write_memory profile offset data) (offset.toNat + data.length ≤ MEM_SIZE.toNat) := by
  intro before _
  constructor
  · rintro ⟨after, hwrite⟩
    exact (Vm.write_memory_eq_ok hwrite).1
  · intro hbound
    exact ⟨_, Vm.write_memory_of_le profile before hbound⟩

open Stateful in
/-- A store whose `Err` is dropped always completes, unless its end wraps. -/
theorem write_memory_ok_completes (profile : Profile) (offset : UInt64) (data : List UInt8)
    (hword : offset.toNat + data.length < 2 ^ 64) :
    Completes (Stateful.ok (Vm.write_memory profile offset data)) True := by
  apply Completes.of_returns
  intro before
  by_cases hbound : offset.toNat + data.length ≤ MEM_SIZE.toNat
  · exact ⟨_, Vm.write_memory_ok_of_le profile before hbound⟩
  · have hrun := Vm.write_memory_of_gt profile before (Nat.lt_of_not_le hbound) hword
    exact ⟨before, Stateful.ok_run_eq_ok_iff.mpr (.inr ⟨_, hrun⟩)⟩

theorem Performs.completes {x : VmM Unit} {writes : List (Nat × List UInt8)} (hx : Performs x writes) :
    Stateful.Completes x True :=
  Stateful.Completes.of_returns hx.returns

end vwfl.vm
