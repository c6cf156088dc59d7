/-!
# `Audience.Number.Integer` — integers in decimal, and their ranges

Integers are unbounded; where a value has to fit a machine word, the range is checked when it is read.

## Contents
- **Powers.** `twoTo` and `tenTo`.
- **Ranges.** `fitsInt64`, `fitsUInt64`, `fitsUInt32`.
- **Writing.** `natChars`, `intChars` and `intText`.
- **Reading.** `readNat?` takes digits only, `readInt?` allows one sign in front, `readInt64?` checks
  the range as well.
- **Laws.** `readNat?_natChars`: what was written reads back.
-/

namespace Audience.Number

/-! ## Powers -/

/-- A power of two. -/
def twoTo (n : Nat) : Nat :=
  Nat.pow 2 n

/-- A power of ten. -/
def tenTo (n : Nat) : Nat :=
  Nat.pow 10 n

/-! ## Ranges -/

/-- The integer is a signed 64-bit word. -/
def fitsInt64 (n : Int) : Bool :=
  -9223372036854775808 ≤ n && n ≤ 9223372036854775807

/-- The integer is an unsigned 64-bit word. -/
def fitsUInt64 (n : Int) : Bool :=
  0 ≤ n && n ≤ 18446744073709551615

/-- The integer is an unsigned 32-bit word. -/
def fitsUInt32 (n : Int) : Bool :=
  0 ≤ n && n ≤ 4294967295

/-! ## Writing -/

/-- The decimal digits of a natural number, without leading zeros. -/
def natChars (n : Nat) : List Char :=
  Nat.toDigits 10 n

/-- The decimal digits of an integer behind a minus where it is negative. -/
def intChars : Int → List Char
  | .ofNat n => natChars n
  | .negSucc n => '-' :: natChars (n + 1)

/-- An integer in decimal. -/
def intText (n : Int) : String :=
  String.ofList (intChars n)

/-! ## Reading -/

/-- The value of decimal digits, the most significant first. -/
def valueOfDigits (ds : List Char) : Nat :=
  Nat.ofDigitChars 10 ds 0

/-- The number that one or more decimal digits denote. -/
def readNat? (ds : List Char) : Option Nat :=
  if !ds.isEmpty && ds.all Char.isDigit then some (valueOfDigits ds) else none

/-- The integer that digits denote, with at most one `+` or `-` in front. -/
def readInt? : List Char → Option Int
  | '-' :: ds => (readNat? ds).map fun n => -(n : Int)
  | '+' :: ds => (readNat? ds).map Int.ofNat
  | ds => (readNat? ds).map Int.ofNat

/-- The signed 64-bit integer that a text denotes. -/
def readInt64? (ds : List Char) : Option Int :=
  (readInt? ds).filter fitsInt64

/-! ## Laws -/

theorem natChars_ne_nil (n : Nat) : natChars n ≠ [] :=
  Nat.toDigits_ne_nil

theorem valueOfDigits_natChars (n : Nat) : valueOfDigits (natChars n) = n :=
  Nat.ofDigitChars_toDigits (by omega) (by omega)

theorem isDigit_of_mem_natChars {n : Nat} {c : Char} (h : c ∈ natChars n) : c.isDigit = true :=
  Nat.isDigit_of_mem_toDigits (by omega) (by omega) h

/-- Reading gives back the number whose digits were written. -/
theorem readNat?_natChars (n : Nat) : readNat? (natChars n) = some n := by
  have hall : (natChars n).all Char.isDigit = true := by
    simpa using fun c hc => isDigit_of_mem_natChars hc
  simp [readNat?, hall, valueOfDigits_natChars, natChars_ne_nil]

end Audience.Number
