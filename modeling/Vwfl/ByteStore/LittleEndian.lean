import Mathlib.Tactic

namespace LittleEndian

/-- The `width` low bytes of a number, least significant first. -/
def bytes : Nat → Nat → List UInt8
  | 0, _ => []
  | width + 1, number => UInt8.ofNat number :: bytes width (number / 256)

/-- The number whose base-256 digits are the given bytes. -/
def number : List UInt8 → Nat
  | [] => 0
  | byte :: rest => byte.toNat + 256 * number rest

@[simp] theorem length_bytes (width value : Nat) : (bytes width value).length = width := by
  induction width generalizing value with
  | zero => rfl
  | succ width ih => simp [bytes, ih]

/-- A long encoding is the low digits followed by the encoding of the rest. -/
theorem bytes_add (first second value : Nat) :
    bytes (first + second) value = bytes first value ++ bytes second (value / 256 ^ first) := by
  induction first generalizing value with
  | zero => simp [bytes]
  | succ first ih =>
    rw [Nat.add_right_comm, bytes, bytes, ih, Nat.div_div_eq_div_mul, pow_succ', List.cons_append]

theorem number_lt (data : List UInt8) : number data < 256 ^ data.length := by
  induction data with
  | nil => simp [number]
  | cons byte rest ih =>
    have hbyte := byte.toNat_lt
    rw [number, List.length_cons, pow_succ]
    omega

/-- Decoding an encoding truncates to the encoded width. -/
theorem number_bytes (width value : Nat) : number (bytes width value) = value % 256 ^ width := by
  induction width generalizing value with
  | zero => simp [bytes, number, Nat.mod_one]
  | succ width ih =>
    have hbyte : (UInt8.ofNat value).toNat = value % 256 := UInt8.toNat_ofNat'
    rw [bytes, number, ih, hbyte, pow_succ', Nat.mod_mul]

theorem bytes_number (data : List UInt8) : bytes data.length (number data) = data := by
  induction data with
  | nil => rfl
  | cons byte rest ih =>
    have hbyte := byte.toNat_lt
    have hdigit : (byte.toNat + 256 * number rest) / 256 = number rest := by omega
    have hlow : UInt8.ofNat (byte.toNat + 256 * number rest) = byte := by
      apply UInt8.toNat.inj
      rw [UInt8.toNat_ofNat']
      omega
    rw [List.length_cons, number, bytes, hdigit, ih, hlow]

/-- Digits above the encoded width do not matter. -/
theorem bytes_mod (width value : Nat) : bytes width (value % 256 ^ width) = bytes width value := by
  have hrecoded := bytes_number (bytes width value)
  rwa [length_bytes, number_bytes] at hrecoded

/-- The eight little-endian bytes of a 64-bit word. -/
def ofUInt64 (value : UInt64) : List UInt8 := bytes 8 value.toNat

def ofUInt32 (value : UInt32) : List UInt8 := bytes 4 value.toNat

def ofUInt16 (value : UInt16) : List UInt8 := bytes 2 value.toNat

/-- The 64-bit word with the given low bytes. -/
def toUInt64 (data : List UInt8) : UInt64 := UInt64.ofNat (number data)

def toUInt32 (data : List UInt8) : UInt32 := UInt32.ofNat (number data)

def toUInt16 (data : List UInt8) : UInt16 := UInt16.ofNat (number data)

@[simp] theorem length_ofUInt64 (value : UInt64) : (ofUInt64 value).length = 8 := length_bytes _ _

@[simp] theorem length_ofUInt32 (value : UInt32) : (ofUInt32 value).length = 4 := length_bytes _ _

@[simp] theorem length_ofUInt16 (value : UInt16) : (ofUInt16 value).length = 2 := length_bytes _ _

@[simp] theorem toUInt64_ofUInt64 (value : UInt64) : toUInt64 (ofUInt64 value) = value := by
  apply UInt64.toNat.inj
  have hlt := value.toNat_lt
  rw [toUInt64, ofUInt64, number_bytes, UInt64.toNat_ofNat']
  omega

@[simp] theorem toUInt32_ofUInt32 (value : UInt32) : toUInt32 (ofUInt32 value) = value := by
  apply UInt32.toNat.inj
  have hlt := value.toNat_lt
  rw [toUInt32, ofUInt32, number_bytes, UInt32.toNat_ofNat']
  omega

@[simp] theorem toUInt16_ofUInt16 (value : UInt16) : toUInt16 (ofUInt16 value) = value := by
  apply UInt16.toNat.inj
  have hlt := value.toNat_lt
  rw [toUInt16, ofUInt16, number_bytes, UInt16.toNat_ofNat']
  omega

/-- Eight bytes are the encoding of the word they decode to. -/
theorem ofUInt64_toUInt64 {data : List UInt8} (h : data.length = 8) : ofUInt64 (toUInt64 data) = data := by
  have hlt := number_lt data
  rw [h] at hlt
  have hword : (UInt64.ofNat (number data)).toNat = number data := by
    rw [UInt64.toNat_ofNat']
    omega
  rw [ofUInt64, toUInt64, hword, ← h, bytes_number]

theorem ofUInt32_toUInt32 {data : List UInt8} (h : data.length = 4) : ofUInt32 (toUInt32 data) = data := by
  have hlt := number_lt data
  rw [h] at hlt
  have hword : (UInt32.ofNat (number data)).toNat = number data := by
    rw [UInt32.toNat_ofNat']
    omega
  rw [ofUInt32, toUInt32, hword, ← h, bytes_number]

theorem ofUInt16_toUInt16 {data : List UInt8} (h : data.length = 2) : ofUInt16 (toUInt16 data) = data := by
  have hlt := number_lt data
  rw [h] at hlt
  have hword : (UInt16.ofNat (number data)).toNat = number data := by
    rw [UInt16.toNat_ofNat']
    omega
  rw [ofUInt16, toUInt16, hword, ← h, bytes_number]

/-- The bytes of the low half of a 64-bit word. -/
theorem ofUInt32_low (value : UInt64) : ofUInt32 value.toUInt32 = bytes 4 value.toNat := by
  rw [ofUInt32, UInt64.toNat_toUInt32]
  exact bytes_mod 4 value.toNat

/-- The last four bytes of a 64-bit word are its high half. -/
theorem drop_ofUInt64 (value : UInt64) : (ofUInt64 value).drop 4 = ofUInt32 (value >>> 32).toUInt32 := by
  have hlt := value.toNat_lt
  have hhigh : (value >>> 32).toUInt32.toNat = value.toNat / 256 ^ 4 := by
    rw [UInt64.toNat_toUInt32, UInt64.toNat_shiftRight, Nat.shiftRight_eq_div_pow]
    have hamount : (32 : UInt64).toNat % 64 = 32 := rfl
    rw [hamount]
    omega
  rw [ofUInt64, bytes_add 4 4, List.drop_left' (length_bytes _ _), ofUInt32, hhigh]

end LittleEndian
