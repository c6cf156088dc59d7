import Audience.Number.Integer

/-!
# `Audience.Number.Binary64` — binary64 floating-point values in exact arithmetic

A binary64 value is its 64 bits. All computing is done on the magnitudes `m · 2^e` they stand for, in
natural numbers, and rounded once: to the nearest magnitude, a tie to the even significand.

## Contents
- **Magnitudes.** `Magnitude`, its exact `ratio`, `nearest`, and the rounded `times` and `dividedBy`.
- **Values.** `Binary64`, its `meaning` and `ofMagnitude`.
- **Uses.** `isFinite`, `inUnitInterval`, `roundHalfAway?` and `ofInt`.
-/

namespace Audience.Number

/-! ## Magnitudes -/

/-- The magnitude `significand · 2^exponent`. -/
structure Magnitude where
  significand : Nat
  exponent : Int
deriving DecidableEq

namespace Magnitude

/-- The magnitude as a quotient of natural numbers. -/
def ratio (m : Magnitude) : Nat × Nat :=
  if 0 ≤ m.exponent then (m.significand * twoTo m.exponent.toNat, 1)
  else (m.significand, twoTo (-m.exponent).toNat)

/-- The quotient `num / (den · 2^e)` as a quotient of natural numbers. -/
def scaledDown (num den : Nat) (e : Int) : Nat × Nat :=
  if 0 ≤ e then (num, den * twoTo e.toNat) else (num * twoTo (-e).toNat, den)

/-- The natural number nearest to `num / den`, a tie to the even one. -/
def roundedQuotient (num den : Nat) : Nat :=
  let q := num / den
  let r := num % den
  if den < 2 * r || (2 * r == den && q % 2 == 1) then q + 1 else q

/-- The exponent at which `num / den` has 53 binary digits, or the least one there is. -/
def exponentOf (num den : Nat) : Int :=
  let e : Int := (num.log2 : Int) - den.log2 - 52
  let (n, d) := scaledDown num den e
  max (if n / d < twoTo 52 then e - 1 else e) (-1074)

/-- The magnitude nearest to `num / den` among those with at most 53 binary digits and no exponent
below -1074. -/
def nearest (num den : Nat) : Magnitude :=
  if num = 0 then ⟨0, -1074⟩
  else
    let e := exponentOf num den
    let (n, d) := scaledDown num den e
    ⟨roundedQuotient n d, e⟩

/-- The nearest magnitude to a natural number. -/
def ofNat (n : Nat) : Magnitude :=
  nearest n 1

/-- The product, rounded. -/
def times (a b : Magnitude) : Magnitude :=
  nearest (a.ratio.1 * b.ratio.1) (a.ratio.2 * b.ratio.2)

/-- The quotient by a magnitude that is not zero, rounded. -/
def dividedBy (a b : Magnitude) : Magnitude :=
  nearest (a.ratio.1 * b.ratio.2) (a.ratio.2 * b.ratio.1)

end Magnitude

/-! ## Values -/

/-- A binary64 value, held as its bits. -/
structure Binary64 where
  bits : UInt64
deriving DecidableEq

namespace Binary64

/-- What the bits of a value stand for. -/
inductive Meaning where
  | finite (negative : Bool) (magnitude : Magnitude)
  | infinite (negative : Bool)
  | undefined
deriving DecidableEq

/-- One sign bit, eleven bits of exponent, and 52 bits of the significand. -/
def meaning (x : Binary64) : Meaning :=
  let n := x.bits.toNat
  let negative := decide (twoTo 63 ≤ n)
  let e : Nat := n / twoTo 52 % twoTo 11
  let f : Nat := n % twoTo 52
  if e = twoTo 11 - 1 then
    if f = 0 then .infinite negative else .undefined
  else if e = 0 then .finite negative ⟨f, -1074⟩
  else .finite negative ⟨f + twoTo 52, (e : Int) - 1075⟩

/-- The value with this sign and these 63 bits of magnitude. -/
def ofBits (negative : Bool) (n : Nat) : Binary64 :=
  ⟨UInt64.ofNat (if negative then n + twoTo 63 else n)⟩

/-- The value of a rounded magnitude; one too large for the exponent becomes infinite. The carry of a
significand of `2^53` moves into the exponent by itself. -/
def ofMagnitude (negative : Bool) (m : Magnitude) : Binary64 :=
  let n := (m.exponent + 1074).toNat * twoTo 52 + m.significand
  ofBits negative (min n (2047 * twoTo 52))

/-- The infinite value of a sign. -/
def infinity (negative : Bool) : Binary64 :=
  ofBits negative (2047 * twoTo 52)

/-- The value that is not a number. -/
def notANumber : Binary64 :=
  ofBits false (2047 * twoTo 52 + twoTo 51)

/-! ## Uses -/

/-- The value nearest to the quotient of two natural numbers, with a sign. -/
def ofRatio (negative : Bool) (num den : Nat) : Binary64 :=
  ofMagnitude negative (.nearest num den)

/-- The value nearest to an integer. -/
def ofInt (n : Int) : Binary64 :=
  ofMagnitude (n < 0) (.ofNat n.natAbs)

/-- The value is neither infinite nor undefined. -/
def isFinite (x : Binary64) : Bool :=
  match x.meaning with
  | .finite .. => true
  | _ => false

/-- The value lies between zero and one, both included; both zeros do. -/
def inUnitInterval (x : Binary64) : Bool :=
  match x.meaning with
  | .finite negative m => m.significand == 0 || (!negative && m.ratio.1 ≤ m.ratio.2)
  | _ => false

/-- The integer nearest to a finite value, a half going away from zero. -/
def roundHalfAway? (x : Binary64) : Option Int :=
  match x.meaning with
  | .finite negative m =>
      let (num, den) := m.ratio
      let n : Int := ((2 * num + den) / (2 * den) : Nat)
      some (if negative then -n else n)
  | _ => none

/-! ## Examples -/

example : ofRatio false 6 10 = ⟨0x3FE3333333333333⟩ := by decide +kernel

example : (ofRatio false 1 3).meaning = .finite false ⟨6004799503160661, -54⟩ := by decide +kernel

example : ofRatio true (tenTo 309) 1 = infinity true := by decide +kernel

example : (ofRatio false 1 (twoTo 1074)).bits = 1 := by decide +kernel

end Binary64

end Audience.Number
