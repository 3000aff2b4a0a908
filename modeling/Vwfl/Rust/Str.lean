import Mathlib.Tactic

namespace Rust

/-- The Unicode case mappings of the standard library. Nothing below depends on
    their tables. -/
structure CaseMap where
  to_uppercase : String → String
  to_lowercase : String → String

/-- The case mappings of ASCII text. -/
def CaseMap.ascii : CaseMap where
  to_uppercase text := String.ofList (text.toList.map Char.toUpper)
  to_lowercase text := String.ofList (text.toList.map Char.toLower)

/-- `str::split_once`, at the first occurrence of a character. -/
def split_once (text : String) (separator : Char) : Option (String × String) :=
  match text.toList.dropWhile (· != separator) with
  | [] => none
  | _ :: after => some (String.ofList (text.toList.takeWhile (· != separator)), String.ofList after)

def starts_with (text : String) (first : Char) : Bool := text.toList.head? == some first

def ends_with (text suffix : String) : Bool := text.toList.reverse.take suffix.length == suffix.toList.reverse

/-- `str::contains` of a text. -/
def contains (text pattern : String) : Bool := text.toList.tails.any pattern.toList.isPrefixOf

/-- `str::encode_utf16`: one code unit, or a surrogate pair above 2^16. -/
def encode_utf16 (text : String) : List UInt16 :=
  text.toList.flatMap fun char =>
    if char.toNat < 0x10000 then [UInt16.ofNat char.toNat]
    else [UInt16.ofNat (0xD800 + (char.toNat - 0x10000) / 0x400),
      UInt16.ofNat (0xDC00 + (char.toNat - 0x10000) % 0x400)]

/-- `text[1..]` for a text whose first character takes one byte. -/
def skip_first (text : String) : String := String.ofList text.toList.tail

/-- The decimal number written by a list of digits. -/
def decimalValue (digits : List Char) : Nat :=
  digits.foldl (fun value digit => 10 * value + (digit.toNat - '0'.toNat)) 0

/-- `parse::<u16>()`: an optional plus sign, then at least one digit, below
    2^16. -/
def parse_u16 (text : String) : Option UInt16 :=
  let digits := match text.toList with
    | '+' :: rest => rest
    | chars => chars
  if digits ≠ [] ∧ digits.all Char.isDigit ∧ decimalValue digits < 65536 then
    some (UInt16.ofNat (decimalValue digits))
  else none

theorem decimalValue_toDigits (n : Nat) : decimalValue (Nat.toDigits 10 n) = n := by
  rw [decimalValue, ← Nat.ofDigitChars_eq_foldl, Nat.ofDigitChars_ten_toDigits]

/-- The decimal text of a 16-bit number is parsed back. -/
theorem parse_u16_toString (number : UInt16) : parse_u16 (toString number.toNat) = some number := by
  have hdigit : ∀ char ∈ Nat.toDigits 10 number.toNat, char.isDigit := fun char hchar =>
    Nat.isDigit_of_mem_toDigits (by decide) (by decide) hchar
  unfold parse_u16
  rw [Nat.toString_eq_ofList_toDigits, String.toList_ofList]
  dsimp only
  split
  · rename_i rest hdigits
    have hplus := hdigit '+' (by rw [hdigits]; exact List.mem_cons_self)
    exact absurd hplus (by decide)
  · rw [decimalValue_toDigits, if_pos ⟨Nat.toDigits_ne_nil, List.all_eq_true.mpr hdigit, number.toNat_lt⟩,
      UInt16.ofNat_toNat]

/-- Value of an upper-case hexadecimal digit. -/
def hexDigit (char : Char) : Nat :=
  if char.isDigit then char.toNat - '0'.toNat else char.toNat - 'A'.toNat + 10

/-- The hexadecimal number written by a list of digits. -/
def hexValue (digits : List Char) : Nat := digits.foldl (fun value digit => 16 * value + hexDigit digit) 0

theorem hexDigit_digitChar {digit : Nat} (h : digit < 16) : hexDigit digit.digitChar.toUpper = digit := by
  interval_cases digit <;> rfl

theorem hexValue_append_singleton (digits : List Char) (last : Char) :
    hexValue (digits ++ [last]) = 16 * hexValue digits + hexDigit last := by
  rw [hexValue, List.foldl_append]
  rfl

/-- The upper-case text of a number is read back. -/
theorem hexValue_toDigits (n : Nat) : hexValue ((Nat.toDigits 16 n).map Char.toUpper) = n := by
  induction n using Nat.strong_induction_on with
  | _ n ih =>
    rw [Nat.toDigits_eq_if (by decide)]
    split
    · rename_i hsmall
      rw [List.map_singleton, hexValue, List.foldl_cons, List.foldl_nil, hexDigit_digitChar hsmall]
      omega
    · rw [List.map_append, List.map_singleton, hexValue_append_singleton, ih (n / 16) (by omega),
        hexDigit_digitChar (Nat.mod_lt n (by decide))]
      omega

/-- Leading zeros do not change a number. -/
theorem hexValue_replicate_append (count : Nat) (digits : List Char) :
    hexValue (List.replicate count '0' ++ digits) = hexValue digits := by
  have hzeros : hexValue (List.replicate count '0') = 0 := by
    induction count with
    | zero => rfl
    | succ count ih =>
      rw [List.replicate_succ', hexValue_append_singleton, ih]
      rfl
  rw [hexValue] at hzeros
  rw [hexValue, List.foldl_append, hzeros]
  rfl

/-- Split on every slash. -/
def splitSlash : List Char → List (List Char)
  | [] => [[]]
  | char :: rest =>
    match splitSlash rest with
    | [] => [[char]]
    | component :: components =>
      if char = '/' then [] :: component :: components else (char :: component) :: components

/-- `Path::file_name`: the last component, unless the path ends in `..` or has
    none. Empty and `.` components do not count. -/
def file_name (path : List Char) : Option (List Char) :=
  match ((splitSlash path).filter fun component => component ≠ [] ∧ component ≠ ['.']).getLast? with
  | none => none
  | some component => if component = ['.', '.'] then none else some component

/-- `Path::file_stem`: the file name up to its last dot. A name without a dot,
    or whose only dot comes first, is its own stem. -/
def file_stem (path : String) : Option String :=
  (file_name path.toList).map fun name =>
    let before := (name.reverse.dropWhile (· ≠ '.')).tail.reverse
    String.ofList (if '.' ∈ name ∧ before ≠ [] then before else name)

example : file_stem "drivers/Hal.v1.dll" = some "Hal.v1" ∧ file_stem ".dll" = some ".dll" ∧
    file_stem "kd/.." = none := by decide

end Rust
