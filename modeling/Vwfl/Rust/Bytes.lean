import Vwfl.ByteStore.LittleEndian
import Vwfl.Rust.Slice

open LittleEndian

namespace Rust

/-- A part of the data, at an offset. -/
structure HoldsAt (data : List UInt8) (offset : Nat) (part : List UInt8) : Prop where
  inside : offset + part.length ≤ data.length
  content : (data.drop offset).take part.length = part

instance (data : List UInt8) (offset : Nat) (part : List UInt8) : Decidable (HoldsAt data offset part) :=
  decidable_of_iff (offset + part.length ≤ data.length ∧ (data.drop offset).take part.length = part)
    ⟨fun h => ⟨h.1, h.2⟩, fun h => ⟨h.inside, h.content⟩⟩

theorem holdsAt_append {data first second : List UInt8} {offset : Nat} :
    HoldsAt data offset (first ++ second) ↔
      HoldsAt data offset first ∧ HoldsAt data (offset + first.length) second := by
  constructor
  · rintro ⟨hinside, hcontent⟩
    rw [List.length_append] at hinside hcontent
    have hfirst : (data.drop offset).take first.length = first := by
      have htaken := congrArg (List.take first.length) hcontent
      rwa [List.take_take, Nat.min_eq_left (by omega), List.take_left] at htaken
    have hsecond : (data.drop (offset + first.length)).take second.length = second := by
      have hdropped := congrArg (List.drop first.length) hcontent
      rwa [List.drop_take, List.drop_drop, Nat.add_sub_cancel_left, List.drop_left] at hdropped
    exact ⟨⟨by omega, hfirst⟩, ⟨by omega, hsecond⟩⟩
  · rintro ⟨⟨_, hfirst⟩, ⟨hinside, hsecond⟩⟩
    refine ⟨by rw [List.length_append]; omega, ?_⟩
    rw [List.length_append, List.take_add, hfirst, List.drop_drop, hsecond]

theorem holdsAt_singleton {data : List UInt8} {offset : Nat} {byte : UInt8} :
    HoldsAt data offset [byte] ↔ data[offset]? = some byte := by
  rw [List.getElem?_eq_some_iff]
  constructor
  · rintro ⟨hinside, hcontent⟩
    rw [← List.getElem_cons_drop hinside] at hcontent
    injection hcontent with hbyte
    exact ⟨hinside, hbyte⟩
  · rintro ⟨hinside, hbyte⟩
    refine ⟨hinside, ?_⟩
    rw [← List.getElem_cons_drop hinside, hbyte]
    rfl

theorem length_splice_of_le {data part : List UInt8} {start : Nat} (h : start + part.length ≤ data.length) :
    (splice data start part).length = data.length := by
  rw [length_splice]
  omega

/-- The front of the data in which a later part is written. -/
theorem take_splice_of_le {data part : List UInt8} {start count : Nat} (hcount : count ≤ start)
    (hstart : start ≤ data.length) : (splice data start part).take count = data.take count := by
  rw [splice, List.append_assoc, List.take_append_of_le_length (by rw [List.length_take]; omega), List.take_take,
    Nat.min_eq_left hcount]

/-- The front of the data in which a part of the front is written. -/
theorem take_splice {data part : List UInt8} {start count : Nat} (hcount : start + part.length ≤ count)
    (hstart : start ≤ data.length) : (splice data start part).take count = splice (data.take count) start part := by
  have hfront : (data.take start ++ part).length = start + part.length := by
    rw [List.length_append, List.length_take]
    omega
  have hrest : count = (data.take start ++ part).length + (count - (start + part.length)) := by omega
  rw [splice, splice, List.take_take, Nat.min_eq_left (by omega), List.drop_take]
  conv_lhs => rw [hrest, List.take_length_add_append]

/-- A part that is written inside the data is held there. -/
theorem holdsAt_splice {data part : List UInt8} {start : Nat} (h : start + part.length ≤ data.length) :
    HoldsAt (splice data start part) start part := by
  have hstart : (data.take start).length = start := by
    rw [List.length_take]
    omega
  refine ⟨by rwa [length_splice_of_le h], ?_⟩
  rw [splice, List.append_assoc, List.drop_left' hstart, List.take_left]

/-- Writing a part leaves what the data holds beside it. -/
theorem holdsAt_splice_iff {data part other : List UInt8} {offset start : Nat}
    (hinside : start + other.length ≤ data.length)
    (hapart : offset + part.length ≤ start ∨ start + other.length ≤ offset) :
    HoldsAt (splice data start other) offset part ↔ HoldsAt data offset part := by
  have hlength := length_splice_of_le hinside
  have hsame : offset + part.length ≤ data.length →
      ((splice data start other).drop offset).take part.length = (data.drop offset).take part.length := by
    intro hpart
    apply List.ext_getElem?
    intro index
    by_cases hindex : index < part.length
    · rw [List.getElem?_take_of_lt hindex, List.getElem?_take_of_lt hindex, List.getElem?_drop, List.getElem?_drop,
        splice]
      rcases hapart with hbelow | habove
      · rw [List.append_assoc, List.getElem?_append_left (by rw [List.length_take]; omega),
          List.getElem?_take_of_lt (by omega)]
      · rw [List.getElem?_append_right (by simp only [List.length_append, List.length_take]; omega), List.getElem?_drop]
        congr 1
        simp only [List.length_append, List.length_take]
        omega
    · rw [List.getElem?_take_eq_none (by omega), List.getElem?_take_eq_none (by omega)]
  constructor
  · rintro ⟨hpart, hcontent⟩
    rw [hlength] at hpart
    exact ⟨hpart, (hsame hpart).symm.trans hcontent⟩
  · rintro ⟨hpart, hcontent⟩
    exact ⟨hlength ▸ hpart, (hsame hpart).trans hcontent⟩

/-- A slice is the part that the data holds there. -/
theorem slice_eq_ok_iff {data part : List UInt8} {start stop : Nat} :
    slice data start stop = .ok part ↔ stop = start + part.length ∧ HoldsAt data start part := by
  unfold slice
  constructor
  · intro h
    split at h
    · rename_i hrange
      have hpart := Except.ok.inj h
      have hlength : part.length = stop - start := by
        rw [← hpart, List.length_take, List.length_drop]
        omega
      refine ⟨by omega, by omega, ?_⟩
      rw [hlength]
      exact hpart
    · cases h
  · rintro ⟨rfl, hinside, hcontent⟩
    rw [if_pos (by omega), Nat.add_sub_cancel_left, hcontent]

/-- A value that is decoded from a slice is the one whose bytes the data holds. -/
theorem slice_decode_eq_ok_iff {α : Type} {encode : α → List UInt8} {decode : List UInt8 → α} {width : Nat}
    (hlength : ∀ value, (encode value).length = width) (hdecode : ∀ value, decode (encode value) = value)
    (hencode : ∀ {bytes}, bytes.length = width → encode (decode bytes) = bytes) {data : List UInt8} {offset : Nat}
    {value : α} :
    (slice data offset (offset + width) >>= fun bytes => .ok (decode bytes)) = .ok value ↔
      HoldsAt data offset (encode value) := by
  rw [bind_eq_ok_iff]
  constructor
  · rintro ⟨bytes, hslice, hvalue⟩
    obtain ⟨hwidth, hholds⟩ := slice_eq_ok_iff.mp hslice
    rw [← Except.ok.inj hvalue, hencode (by omega)]
    exact hholds
  · intro h
    refine ⟨encode value, slice_eq_ok_iff.mpr ⟨by rw [hlength], h⟩, ?_⟩
    rw [hdecode]

/-- A table in the data: its items are encoded `width` bytes apart. -/
def ItemsAt {α : Type} (data : List UInt8) (width : Nat) (encode : α → List UInt8) : Nat → List α → Prop
  | _, [] => True
  | offset, item :: rest => HoldsAt data offset (encode item) ∧ ItemsAt data width encode (offset + width) rest

theorem ItemsAt.of_flatMap {α : Type} {data : List UInt8} {width : Nat} {encode : α → List UInt8} {offset : Nat}
    {items : List α} (hwidth : ∀ item, (encode item).length = width) (h : HoldsAt data offset (items.flatMap encode)) :
    ItemsAt data width encode offset items := by
  induction items generalizing offset with
  | nil => exact trivial
  | cons item rest ih =>
    rw [List.flatMap_cons, holdsAt_append, hwidth] at h
    exact ⟨h.1, ih h.2⟩

theorem ItemsAt.of_getElem? {α : Type} {data : List UInt8} {width : Nat} {encode : α → List UInt8} {offset : Nat}
    {items : List α} (h : ItemsAt data width encode offset items) {i : Nat} {item : α} (hitem : items[i]? = some item) :
    HoldsAt data (offset + i * width) (encode item) := by
  induction items generalizing offset i with
  | nil => cases hitem
  | cons first rest ih =>
    cases i with
    | zero =>
      cases hitem
      rw [Nat.zero_mul]
      exact h.1
    | succ i =>
      rw [Nat.succ_mul, Nat.add_comm (i * width), ← Nat.add_assoc]
      exact ih h.2 hitem

end Rust
