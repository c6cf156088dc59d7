import Audience.Json.Value
import Audience.Number.Literal

/-!
# `Audience.Json.Numeral` — JSON numbers

A numeral without fraction and exponent is an integer while it fits a 64-bit word; any other numeral is
a binary64 value. Its significand takes in as many digits as fit 64 bits, and the power of ten is then
multiplied or divided in, so the value is rounded twice and may miss the nearest one by a last place.

## Contents
- **The significand.** `absorb` and `scale?`.
- **The parts.** `readFraction?`, `readPower?`.
- **Numerals.** `integral?`, `floating?`, `readNumeral?`.
-/

namespace Audience.Json

open Number

/-! ## The significand -/

/-- The digit's value. -/
def digitValue (c : Char) : Nat :=
  c.toNat - 0x30

/-- Takes digits into the significand for as long as it fits 64 bits, and gives the digits left over. -/
def absorb (significand : Nat) : List Char → Nat × List Char
  | [] => (significand, [])
  | d :: ds =>
      let next := significand * 10 + digitValue d
      if next < twoTo 64 then absorb next ds else (significand, d :: ds)

/-- The largest power of ten that is multiplied or divided in at once. -/
def greatestPower : Nat := 308

/-- A magnitude divided by `10^n`, in steps of at most `10^308`. Four steps leave nothing of a 64-bit
significand. -/
def divideByPower : Nat → Magnitude → Nat → Magnitude
  | 0, m, _ => m
  | fuel + 1, m, n =>
      if n ≤ greatestPower then m.dividedBy (.ofNat (tenTo n))
      else if m.significand = 0 then m
      else divideByPower fuel (m.dividedBy (.ofNat (tenTo greatestPower))) (n - greatestPower)

/-- The value of `significand · 10^e`; nothing when it is too large. -/
def scale? (negative : Bool) (significand : Nat) (e : Int) : Option Binary64 :=
  let m := Magnitude.ofNat significand
  if e < 0 then some (.ofMagnitude negative (divideByPower 4 m (-e).toNat))
  else if significand = 0 then some (.ofMagnitude negative m)
  else if greatestPower < e.toNat then none
  else
    let x := Binary64.ofMagnitude negative (m.times (.ofNat (tenTo e.toNat)))
    if x.isFinite then some x else none

/-! ## The parts -/

/-- The digits of a fraction: none without a point, and at least one behind it. -/
def readFraction? : List Char → Option (Option (List Char) × List Char)
  | '.' :: rest =>
      let (ds, rest) := takeDigits rest
      if ds.isEmpty then none else some (some ds, rest)
  | rest => some (none, rest)

/-- The exponent of a numeral: `none` without the letter, and at least one digit behind it. -/
def readPower? : List Char → Option (Option (Bool × Nat) × List Char)
  | [] => some (none, [])
  | c :: rest =>
      if c = 'e' ∨ c = 'E' then
        let (negative, rest) :=
          match rest with
          | '-' :: rest => (true, rest)
          | '+' :: rest => (false, rest)
          | rest => (false, rest)
        let (ds, rest) := takeDigits rest
        if ds.isEmpty then none else some (some (negative, valueOfDigits ds), rest)
      else some (none, c :: rest)

/-! ## Numerals -/

/-- The number of an integer numeral. A zero with a sign is the negative zero, and what does not fit a
64-bit word is floating-point. -/
def integral? (negative : Bool) (ds : List Char) : Option Json :=
  match absorb 0 ds with
  | (n, []) =>
      if !negative then some (.int n)
      else if 0 < n ∧ n ≤ twoTo 63 then some (.int (-n))
      else some (.float (.ofMagnitude true (.ofNat n)))
  | (n, left) => (scale? negative n left.length).map .float

/-- The number of a numeral with a fraction or an exponent. An exponent of more than 31 bits makes every
number zero or too large. -/
def floating? (negative : Bool) (ds fraction : List Char) (power : Bool × Nat) : Option Json :=
  let (n, left) := absorb 0 ds
  let (n, leftOfFraction) := absorb n fraction
  let e : Int := (left.length : Int) - (fraction.length - leftOfFraction.length : Nat)
  let (down, p) := power
  if twoTo 31 ≤ p then
    if n ≠ 0 ∧ !down then none else some (.float (.ofMagnitude negative (.ofNat 0)))
  else (scale? negative n (if down then e - p else e + p)).map .float

/-- The numeral in front of the text. -/
def readNumeral? (cs : List Char) : Option (Json × List Char) := do
  let (negative, cs) :=
    match cs with
    | '-' :: rest => (true, rest)
    | cs => (false, cs)
  let (ds, rest) := takeDigits cs
  if ds.isEmpty || (ds.head? == some '0' && 1 < ds.length) then none
  else
    let (fraction, rest) ← readFraction? rest
    let (power, rest) ← readPower? rest
    let v ←
      if fraction.isNone && power.isNone then integral? negative ds
      else floating? negative ds (fraction.getD []) (power.getD (false, 0))
    return (v, rest)

end Audience.Json
