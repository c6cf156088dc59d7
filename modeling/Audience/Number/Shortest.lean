import Audience.Number.Binary64

/-!
# `Audience.Number.Shortest` — the shortest decimal that reads back

Among the decimals that round to a magnitude, the shortest ones have the least number of digits; of
these the nearest is taken, and an exact tie is decided by the caller.

## Contents
- **Decimals.** `Decimal` and the `decade` of a quotient.
- **What rounds to a magnitude.** `Rounding`: the interval around it, in quarters of its last place.
- **The choice.** `candidate?` on one grid, `shortest` over all grids.
-/

namespace Audience.Number

/-! ## Decimals -/

/-- The decimal `digits · 10^exponent`. -/
structure Decimal where
  digits : Nat
  exponent : Int
deriving DecidableEq

/-- Which of two equally near neighbours is taken. -/
inductive Tie where
  | toEven
  | up

/-- The number of decimal digits of a natural number that is not zero. -/
def digitCount (n : Nat) : Nat :=
  (Nat.toDigits 10 n).length

/-- The exponent `p` with `10^p ≤ num / den < 10^(p+1)`, for a quotient that is not zero. -/
def decade (num den : Nat) : Int :=
  if den ≤ num then (digitCount (num / den) : Int) - 1
  else -(digitCount ((den + num - 1) / num - 1) : Int)

/-- The same value without zeros at the end of its digits. -/
def dropZeros : Nat → Decimal → Decimal
  | 0, d => d
  | fuel + 1, d =>
      if d.digits ≠ 0 ∧ d.digits % 10 = 0 then dropZeros fuel ⟨d.digits / 10, d.exponent + 1⟩ else d

/-! ## What rounds to a magnitude -/

/-- A magnitude with the interval that rounds to it: the value is `value / den`, the ends `low / den`
and `high / den`, and they belong to it when the significand is even. -/
structure Rounding where
  low : Nat
  value : Nat
  high : Nat
  den : Nat
  closed : Bool

/-- The interval reaches half way to the neighbours. The gap below a power of two is half as wide. -/
def Rounding.around (m : Magnitude) : Rounding :=
  let (num, den) := (Magnitude.mk 1 m.exponent).ratio
  let below := if m.significand = twoTo 52 ∧ -1074 < m.exponent then 1 else 2
  ⟨(4 * m.significand - below) * num, 4 * m.significand * num, (4 * m.significand + 2) * num,
   4 * den, m.significand % 2 == 0⟩

/-- The quotient `num / den` lies in the interval. -/
def Rounding.holds (r : Rounding) (num den : Nat) : Bool :=
  if r.closed then r.low * den ≤ num * r.den && num * r.den ≤ r.high * den
  else r.low * den < num * r.den && num * r.den < r.high * den

/-! ## The choice -/

/-- The multiple of `10^k` that lies in the interval and is nearest to the value. -/
def candidate? (tie : Tie) (r : Rounding) (k : Int) : Option Decimal :=
  let (u, v) := if 0 ≤ k then (tenTo k.toNat, 1) else (1, tenTo (-k).toNat)
  let d := r.value * v / (r.den * u)
  let lower := r.holds (d * u) v
  let upper := r.holds ((d + 1) * u) v
  let twice := 2 * r.value * v
  let middle := (2 * d + 1) * u * r.den
  let takeUpper :=
    upper && (!lower || middle < twice ||
      (middle == twice && match tie with
        | .toEven => d % 2 == 1
        | .up => true))
  if takeUpper then some ⟨d + 1, k⟩ else if lower then some ⟨d, k⟩ else none

/-- The shortest decimal that rounds to a magnitude other than zero: seventeen digits always do. -/
def shortest (tie : Tie) (m : Magnitude) : Decimal :=
  let r := Rounding.around m
  let p := decade r.value r.den
  match (List.range 17).findSome? fun (n : Nat) => candidate? tie r (p - (n : Int)) with
  | some d => dropZeros 17 d
  | none => ⟨0, 0⟩

/-! ## Examples -/

example : shortest .toEven ⟨1, -1074⟩ = ⟨5, -324⟩ := by decide +kernel

example : shortest .toEven ⟨6004799503160661, -54⟩ = ⟨3333333333333333, -16⟩ := by decide +kernel

end Audience.Number
