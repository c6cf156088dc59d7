/-!
# `Audience.Text.Percent` — percent-encoding of URL paths

Letters and digits of ASCII, and the marks `_ . - ~ /`, stand for themselves; every other character
is written as the bytes of its UTF-8 form, each a `%` and two upper-case hexadecimal digits.

## Contents
- **Writing.** `isUnreserved`, `encodeByte` and `encode`.
- **Reading.** `decode`, which gives the bytes back.
-/

namespace Audience.Text.Percent

/-! ## Writing -/

/-- The character stands for itself in a path. -/
def isUnreserved (c : Char) : Bool :=
  c.isAlphanum || c == '_' || c == '.' || c == '-' || c == '~' || c == '/'

/-- One upper-case hexadecimal digit. -/
def hexDigit (n : Nat) : Char :=
  Char.ofNat (if n < 10 then 0x30 + n else 0x37 + n)

/-- A `%` and the two digits of a byte. -/
def encodeByte (b : UInt8) : List Char :=
  ['%', hexDigit (b.toNat / 16), hexDigit (b.toNat % 16)]

/-- One character in a path. -/
def encodeChar (c : Char) : List Char :=
  if isUnreserved c then [c] else (String.utf8EncodeChar c).flatMap encodeByte

/-- The characters in a path. -/
def encode (cs : List Char) : List Char :=
  cs.flatMap encodeChar

/-! ## Reading -/

/-- The value of an upper-case hexadecimal digit. -/
def hexValue? (c : Char) : Option Nat :=
  if '0' ≤ c ∧ c ≤ '9' then some (c.toNat - 0x30)
  else if 'A' ≤ c ∧ c ≤ 'F' then some (c.toNat - 0x37)
  else none

/-- The bytes that an encoded text stands for; a `%` needs two digits behind it. -/
def decode : List Char → Option (List UInt8)
  | [] => some []
  | '%' :: a :: b :: rest => do
      let hi ← hexValue? a
      let lo ← hexValue? b
      let bytes ← decode rest
      return UInt8.ofNat (16 * hi + lo) :: bytes
  | c :: rest =>
      if c = '%' then none
      else (decode rest).map (String.utf8EncodeChar c ++ ·)

/-! ## Examples -/

example : encode ['c', 'a', 'f', 'é', ' ', 'x'] = "caf%C3%A9%20x".toList := by decide +kernel

example : decode "a%C3%A9".toList = some [0x61, 0xC3, 0xA9] := by decide +kernel

end Audience.Text.Percent
