import Vwfl.Rust.Moves
import Vwfl.Vm.Effects

open Rust ByteStore

namespace vwfl.vm

/-- Bytes outside a region are the same in both memories. -/
def SameOutside (region : Nat → Prop) (before after : Vm) : Prop :=
  ∀ address, ¬ region address → after.mem address = before.mem address

variable {region : Nat → Prop}

instance : Std.Refl (SameOutside region) := ⟨fun _ _ _ => rfl⟩

instance : IsTrans Vm (SameOutside region) where
  trans _ _ _ hfirst hsecond address houtside := (hsecond address houtside).trans (hfirst address houtside)

/-- Whatever a computation changes lies in the region, also when it faults. -/
abbrev ChangesOnly {α : Type} (region : Nat → Prop) (x : VmM α) : Prop := Stateful.Moves (SameOutside region) x

/-- Ranges outside the region are read as before. -/
theorem SameOutside.load_eq {before after : Vm} (h : SameOutside region before after) {start length : Nat}
    (houtside : ∀ address, Within start length address → ¬ region address) :
    load after.mem start length = load before.mem start length :=
  load_congr fun address hin => h address (houtside address hin)

theorem ChangesOnly.copy_to {offset : UInt64} {data : List UInt8}
    (h : offset.toNat + data.length ≤ MEM_SIZE.toNat →
      ∀ address, Within offset.toNat data.length address → region address) :
    ChangesOnly region (Vm.copy_to offset data) := by
  intro before
  by_cases hbound : offset.toNat + data.length ≤ MEM_SIZE.toNat
  · have hrun : (Vm.copy_to offset data).run before =
        .ok () { before with mem := store before.mem offset.toNat data } :=
      if_pos hbound
    rw [Stateful.leftBy_of_ok hrun]
    intro address houtside
    exact store_outside before.mem offset.toNat data fun hin => houtside (h hbound address hin)
  · have hrun : (Vm.copy_to offset data).run before = .error .ub before := if_neg hbound
    rw [Stateful.leftBy_of_error hrun]
    exact Std.Refl.refl before

/-- A write changes the addressed bytes if they lie in guest memory, and nothing
    otherwise. -/
theorem ChangesOnly.write_memory {profile : Profile} {offset : UInt64} {data : List UInt8}
    (h : offset.toNat + data.length ≤ MEM_SIZE.toNat →
      ∀ address, Within offset.toNat data.length address → region address) :
    ChangesOnly region (Vm.write_memory profile offset data) := by
  refine Stateful.Moves.lift_bind fun sum _ => ?_
  split
  · exact Stateful.Moves.throw _
  · exact ChangesOnly.copy_to h

theorem Performs.changesOnly {x : VmM Unit} {writes : List (Nat × List UInt8)} (hx : Performs x writes)
    (h : ∀ write ∈ writes, ∀ address, Within write.1 write.2.length address → region address) :
    ChangesOnly region x := by
  intro before
  rw [Stateful.leftBy_of_ok (hx before)]
  intro address houtside
  exact storeAll_untouched before.mem writes fun write hwrite hin => houtside (h write hwrite address hin)

end vwfl.vm
