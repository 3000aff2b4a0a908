import Vwfl.Rust.Fault

namespace Rust

/-- A borrowed byte slice, which never spans more than `isize::MAX` bytes. -/
structure U8Slice where
  bytes : List UInt8
  length_lt : bytes.length < 2 ^ 63

def U8Slice.length (self : U8Slice) : Nat := self.bytes.length

/-- The indexing `data[start..stop]`, which panics outside the slice. -/
def slice (data : List UInt8) (start stop : Nat) : Result (List UInt8) :=
  if start ≤ stop ∧ stop ≤ data.length then .ok ((data.drop start).take (stop - start))
  else .error (.panic "range out of range for slice")

/-- `data[start..start + part.len()].copy_from_slice(part)` for a range inside
    the data. -/
def splice (data : List UInt8) (start : Nat) (part : List UInt8) : List UInt8 :=
  data.take start ++ part ++ data.drop (start + part.length)

/-- Replacing a part may cut off or extend at the end. -/
theorem length_splice (data part : List UInt8) (start : Nat) :
    (splice data start part).length =
      max (min start data.length + part.length) (data.length - (start - min start data.length)) := by
  simp only [splice, List.length_append, List.length_take, List.length_drop]
  omega

/-- The indexing `data[i]`, which panics outside the slice. -/
def getIndex (data : List UInt8) (i : Nat) : Result UInt8 :=
  match data[i]? with
  | some byte => .ok byte
  | none => .error (.panic "index out of bounds")

/-- The assignment `data[i] = byte`. -/
def setIndex (data : List UInt8) (i : Nat) (byte : UInt8) : Result (List UInt8) :=
  if i < data.length then .ok (data.set i byte) else .error (.panic "index out of bounds")

/-- `data[start..stop].copy_from_slice(part)`, which panics outside the data
    and for a part of another length. -/
def copy_from_slice (data : List UInt8) (start stop : Nat) (part : List UInt8) : Result (List UInt8) :=
  if start ≤ stop ∧ stop ≤ data.length then
    if part.length = stop - start then .ok (splice data start part)
    else .error (.panic "copy_from_slice: source slice length does not match destination slice length")
  else .error (.panic "range out of range for slice")

/-- `option.ok_or(message)?`. -/
def ok_or {α : Type} (value : Option α) (message : String) : Result α :=
  match value with
  | some a => .ok a
  | none => .error (.err message)

/-- The test `if let Ok(value) = x`, which drops a returned `Err`. -/
def attempt {α : Type} (x : Result α) : Result (Option α) :=
  match x with
  | .ok a => .ok (some a)
  | .error (.err _) => .ok none
  | .error fault => .error fault

theorem slice_of_le {data : List UInt8} {start stop : Nat} (h : start ≤ stop ∧ stop ≤ data.length) :
    slice data start stop = .ok ((data.drop start).take (stop - start)) := if_pos h

theorem copy_from_slice_whole {data part : List UInt8} (h : part.length = data.length) :
    copy_from_slice data 0 data.length part = .ok part := by
  unfold copy_from_slice splice
  rw [if_pos ⟨Nat.zero_le _, le_rfl⟩, Nat.sub_zero, if_pos h, List.take_zero, List.nil_append, Nat.zero_add, h,
    List.drop_length, List.append_nil]

end Rust
