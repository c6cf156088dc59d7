import Audience.Number.Binary64
import Audience.Number.Integer

/-!
# `Audience.Number.Literal` — reading floating-point values from settings

A literal has an optional sign, then digits with at most one point among or around them and an optional
exponent, or one of the words `inf`, `infinity` and `nan` in any case. Its value is the binary64 value
nearest to the number written.

## Contents
- **Parts.** `takeDigits`, `readExponent?`.
- **Values.** `valueOfDecimal` rounds `digits · 10^e`, however large the exponent.
- **Literals.** `readMagnitude?`, `readFloat?`.
-/

namespace Audience.Number

/-! ## Parts -/

/-- The digits in front, and the rest. -/
def takeDigits (cs : List Char) : List Char × List Char :=
  (cs.takeWhile Char.isDigit, cs.dropWhile Char.isDigit)

/-- What follows the digits of a literal: nothing, or an exponent. -/
def readExponent? : List Char → Option Int
  | [] => some 0
  | c :: rest => if c = 'e' ∨ c = 'E' then readInt? rest else none

/-! ## Values -/

/-- The value nearest to `digits · 10^e`. Beyond 400 decimal places on either side the answer is
infinite or zero, so that no large power is ever computed. -/
def valueOfDecimal (negative : Bool) (digits : Nat) (e : Int) : Binary64 :=
  let place := e + (natChars digits).length
  if digits = 0 ∨ place < -400 then .ofMagnitude negative (.ofNat 0)
  else if 400 < place then .infinity negative
  else if 0 ≤ e then .ofRatio negative (digits * tenTo e.toNat) 1
  else .ofRatio negative digits (tenTo (-e).toNat)

/-! ## Literals -/

/-- A literal without its sign. -/
def readMagnitude? (negative : Bool) (cs : List Char) : Option Binary64 :=
  let (whole, rest) := takeDigits cs
  let (places, rest) :=
    match rest with
    | '.' :: rest => takeDigits rest
    | rest => ([], rest)
  if whole.isEmpty && places.isEmpty then none
  else
    (readExponent? rest).map fun e =>
      valueOfDecimal negative (valueOfDigits (whole ++ places)) (e - places.length)

/-- The words for values that are not finite, in lower case. -/
def readWord? (negative : Bool) (cs : List Char) : Option Binary64 :=
  let word := cs.map Char.toLower
  if word = ['i', 'n', 'f'] ∨ word = ['i', 'n', 'f', 'i', 'n', 'i', 't', 'y'] then
    some (.infinity negative)
  else if word = ['n', 'a', 'n'] then some .notANumber
  else none

/-- The floating-point value that a text denotes. -/
def readFloat? (cs : List Char) : Option Binary64 :=
  let (negative, cs) :=
    match cs with
    | '-' :: rest => (true, rest)
    | '+' :: rest => (false, rest)
    | cs => (false, cs)
  match readWord? negative cs with
  | some x => some x
  | none => readMagnitude? negative cs

/-! ## Examples -/

example : readFloat? "1.50".toList = some (.ofRatio false 3 2) := by decide +kernel

example : readFloat? "-.5e1".toList = some (.ofInt (-5)) := by decide +kernel

example : readFloat? "1e".toList = none := by decide +kernel

example : readFloat? "1e400".toList = some (.infinity false) := by decide +kernel

end Audience.Number
