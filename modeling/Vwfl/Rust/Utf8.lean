import Mathlib.Tactic

namespace Rust

/-- Continuation bytes of a multi-byte sequence. -/
def isCont (byte : UInt8) : Bool := 0x80 ≤ byte && byte ≤ 0xBF

def cont6 (byte : UInt8) : Nat := byte.toNat % 64

/-- The byte at a position, zero past the end as in the decoder of the standard
    library. -/
def byteAt (bytes : List UInt8) (position : Nat) : UInt8 := bytes[position]?.getD 0

/-- Second bytes allowed after the lead byte of a three-byte sequence. -/
def threeByteSecond (lead second : UInt8) : Bool :=
  (lead == 0xE0 && 0xA0 ≤ second && second ≤ 0xBF) ||
  (0xE1 ≤ lead && lead ≤ 0xEC && isCont second) ||
  (lead == 0xED && 0x80 ≤ second && second ≤ 0x9F) ||
  (0xEE ≤ lead && lead ≤ 0xEF && isCont second)

def fourByteSecond (lead second : UInt8) : Bool :=
  (lead == 0xF0 && 0x90 ≤ second && second ≤ 0xBF) ||
  (0xF1 ≤ lead && lead ≤ 0xF3 && isCont second) ||
  (lead == 0xF4 && 0x80 ≤ second && second ≤ 0x8F)

/-- First character of a nonempty byte string and the bytes it takes. A
    maximal invalid sequence counts as one replacement character. -/
def decodeChar (lead : UInt8) (rest : List UInt8) : Char × Nat :=
  let b1 := byteAt rest 0
  let b2 := byteAt rest 1
  let b3 := byteAt rest 2
  if lead < 0x80 then (Char.ofNat lead.toNat, 1)
  else if 0xC2 ≤ lead && lead ≤ 0xDF then
    if isCont b1 then (Char.ofNat (lead.toNat % 32 * 64 + cont6 b1), 2) else ('\uFFFD', 1)
  else if 0xE0 ≤ lead && lead ≤ 0xEF then
    if !threeByteSecond lead b1 then ('\uFFFD', 1)
    else if !isCont b2 then ('\uFFFD', 2)
    else (Char.ofNat (lead.toNat % 16 * 4096 + cont6 b1 * 64 + cont6 b2), 3)
  else if 0xF0 ≤ lead && lead ≤ 0xF4 then
    if !fourByteSecond lead b1 then ('\uFFFD', 1)
    else if !isCont b2 then ('\uFFFD', 2)
    else if !isCont b3 then ('\uFFFD', 3)
    else (Char.ofNat (lead.toNat % 8 * 262144 + cont6 b1 * 4096 + cont6 b2 * 64 + cont6 b3), 4)
  else ('\uFFFD', 1)

/-- Decode with at most `fuel` characters; the number of bytes is enough fuel,
    since every character takes at least one. -/
def decodeChars : Nat → List UInt8 → List Char
  | 0, _ => []
  | _ + 1, [] => []
  | fuel + 1, lead :: rest =>
    let (char, width) := decodeChar lead rest
    char :: decodeChars fuel ((lead :: rest).drop width)

/-- `String::from_utf8_lossy`. -/
def from_utf8_lossy (bytes : List UInt8) : String :=
  String.ofList (decodeChars bytes.length bytes)

example : from_utf8_lossy [0x48, 0x41, 0x4C, 0xC3, 0xA9, 0xE2, 0x82] = "HALé\uFFFD" := by decide

end Rust
