import Vwfl.ByteStore.LittleEndian

open LittleEndian

namespace ReprC

/-- A field of a `repr(C)` structure: its size, its alignment and its bytes. -/
structure Field where
  size : Nat
  align : Nat
  bytes : List UInt8
  length_eq : bytes.length = size

namespace Field

def u16 (value : UInt16) : Field := ⟨2, 2, ofUInt16 value, length_ofUInt16 value⟩

def u32 (value : UInt32) : Field := ⟨4, 4, ofUInt32 value, length_ofUInt32 value⟩

def u64 (value : UInt64) : Field := ⟨8, 8, ofUInt64 value, length_ofUInt64 value⟩

/-- An array of `count` zero elements of the given size. -/
def zeros (count width : Nat) : Field := ⟨count * width, width, List.replicate (count * width) 0, List.length_replicate⟩

@[simp] theorem u16_shape (value : UInt16) : (u16 value).size = 2 ∧ (u16 value).align = 2 := ⟨rfl, rfl⟩

@[simp] theorem u32_shape (value : UInt32) : (u32 value).size = 4 ∧ (u32 value).align = 4 := ⟨rfl, rfl⟩

@[simp] theorem u64_shape (value : UInt64) : (u64 value).size = 8 ∧ (u64 value).align = 8 := ⟨rfl, rfl⟩

@[simp] theorem zeros_shape (count width : Nat) :
    (zeros count width).size = count * width ∧ (zeros count width).align = width := ⟨rfl, rfl⟩

end Field

/-- Bytes between a position and the next multiple of an alignment. -/
def padding (position align : Nat) : Nat := (align - position % align) % align

/-- The fields in order from a position, each at the next multiple of its
    alignment. Padding bytes are zero, as in a zeroed structure. -/
def place : Nat → List Field → List UInt8
  | _, [] => []
  | position, field :: rest =>
    List.replicate (padding position field.align) 0 ++ field.bytes ++
      place (position + padding position field.align + field.size) rest

/-- Position behind the placed fields. -/
def placeEnd : Nat → List Field → Nat
  | position, [] => position
  | position, field :: rest => placeEnd (position + padding position field.align + field.size) rest

/-- The bytes of a structure with the given alignment. -/
def layout (align : Nat) (fields : List Field) : List UInt8 :=
  place 0 fields ++ List.replicate (padding (placeEnd 0 fields) align) 0

theorem length_place (position : Nat) (fields : List Field) :
    position + (place position fields).length = placeEnd position fields := by
  induction fields generalizing position with
  | nil => rfl
  | cons field rest ih =>
    rw [place, placeEnd, ← ih, List.length_append, List.length_append, List.length_replicate, field.length_eq]
    omega

theorem length_layout (align : Nat) (fields : List Field) :
    (layout align fields).length = placeEnd 0 fields + padding (placeEnd 0 fields) align := by
  have hplace := length_place 0 fields
  rw [layout, List.length_append, List.length_replicate]
  omega

theorem place_append (position : Nat) (first second : List Field) :
    place position (first ++ second) = place position first ++ place (placeEnd position first) second := by
  induction first generalizing position with
  | nil => rfl
  | cons field rest ih => simp only [List.cons_append, place, placeEnd, ih, List.append_assoc]

/-- A field is found at the next multiple of its alignment behind the fields in
    front of it. -/
theorem take_drop_layout (align : Nat) (first : List Field) (field : Field) (rest : List Field) {offset : Nat}
    (hoffset : placeEnd 0 first + padding (placeEnd 0 first) field.align = offset) :
    ((layout align (first ++ field :: rest)).drop offset).take field.size = field.bytes := by
  have hlength := length_place 0 first
  have hskip : (place 0 first ++ List.replicate (padding (placeEnd 0 first) field.align) 0).length = offset := by
    rw [List.length_append, List.length_replicate]
    omega
  rw [layout, place_append, place]
  simp only [List.append_assoc]
  rw [← List.append_assoc, List.drop_left' hskip, List.take_left' field.length_eq]

end ReprC
