import Audience.Number.Integer
import Audience.Number.Shortest

/-!
# `Audience.Number.Layout` — floating-point values as text

Both texts of a value use its shortest decimal. The wire text, which JSON uses, always shows a point
or an exponent; the plain text, for messages and settings, is positional and shows whole numbers
without a point.

## Contents
- **Layouts.** `Layout`, with the two in use: `Layout.wire` and `Layout.plain`.
- **Rendering.** `Layout.magnitudeChars`, `wireChars?` and `plainText`.
-/

namespace Audience.Number

/-! ## Layouts -/

/-- The decisions of a layout: which of two equally near shortest decimals it shows, where the point
may stand for the text to be positional, and what follows a whole number. -/
structure Layout where
  tie : Tie
  positional : Int → Bool
  wholeEnding : List Char

/-- Positional where the point falls at most sixteen places behind the first digit and fewer than five
in front of it; a whole number ends in `.0`. -/
def Layout.wire : Layout :=
  ⟨.toEven, fun point => -5 < point && point ≤ 16, ['.', '0']⟩

/-- Always positional, and a whole number has no ending. -/
def Layout.plain : Layout :=
  ⟨.up, fun _ => true, []⟩

/-! ## Rendering -/

/-- The decimal with its point in place; `point` counts the digits in front of it. -/
def positionalChars (l : Layout) (ds : List Char) (point : Int) : List Char :=
  if ds.length ≤ point then
    ds ++ List.replicate (point.toNat - ds.length) '0' ++ l.wholeEnding
  else if 0 < point then ds.take point.toNat ++ '.' :: ds.drop point.toNat
  else ['0', '.'] ++ List.replicate (-point).toNat '0' ++ ds

/-- An exponent with its sign, which is always written. -/
def exponentChars (n : Int) : List Char :=
  if n < 0 then intChars n else '+' :: intChars n

/-- The decimal with one digit in front of the point and an exponent. -/
def scientificChars (ds : List Char) (point : Int) : List Char :=
  ds.take 1 ++ (if 1 < ds.length then '.' :: ds.drop 1 else []) ++ 'e' :: exponentChars (point - 1)

/-- A magnitude in a layout. -/
def Layout.magnitudeChars (l : Layout) (m : Magnitude) : List Char :=
  if m.significand = 0 then '0' :: l.wholeEnding
  else
    let d := shortest l.tie m
    let ds := natChars d.digits
    let point := d.exponent + ds.length
    if l.positional point then positionalChars l ds point else scientificChars ds point

/-- A minus in front of what is negative. -/
def signed (negative : Bool) (cs : List Char) : List Char :=
  if negative then '-' :: cs else cs

/-- The wire text of a value; one that is not finite has none. -/
def wireChars? (x : Binary64) : Option (List Char) :=
  match x.meaning with
  | .finite negative m => some (signed negative (Layout.wire.magnitudeChars m))
  | _ => none

/-- The plain text of a value. -/
def plainText (x : Binary64) : String :=
  match x.meaning with
  | .finite negative m => String.ofList (signed negative (Layout.plain.magnitudeChars m))
  | .infinite negative => String.ofList (signed negative ['i', 'n', 'f'])
  | .undefined => "NaN"

/-! ## Examples -/

example : wireChars? (.ofRatio false 6 10) = some "0.6".toList := by decide +kernel

example : wireChars? (.ofInt (10 ^ 16)) = some "1e+16".toList := by decide +kernel

example : wireChars? (.ofInt (10 ^ 15)) = some "1000000000000000.0".toList := by decide +kernel

example : plainText (.ofInt 2) = "2" := by decide +kernel

example : plainText (.ofRatio true 1 1000000) = "-0.000001" := by decide +kernel

end Audience.Number
