/-!
# `Audience.Text.Ranges` — classes of characters given by ranges of code points

A property of characters is a list of closed ranges, and a character has the property when one of the
ranges holds its code point. The tables of `Audience.Text` are all of this form.

## Contents
- **Ranges.** `CodeRange`, `CodeRange.holds` and `inRanges`.
- **Reading.** `inRanges_iff`: membership is membership in one of the ranges.
- **ASCII.** `of_ascii`: the first 128 characters are few enough to try them all.
-/

namespace Audience.Text

/-! ## Ranges -/

/-- A closed range of code points. -/
structure CodeRange where
  first : Nat
  last : Nat

/-- The range reaches over the character's code point. -/
def CodeRange.holds (r : CodeRange) (c : Char) : Bool :=
  r.first ≤ c.toNat && c.toNat ≤ r.last

/-- One of the ranges reaches over the character's code point. -/
def inRanges (rs : List CodeRange) (c : Char) : Bool :=
  rs.any (·.holds c)

/-! ## Reading -/

theorem inRanges_iff {rs : List CodeRange} {c : Char} :
    inRanges rs c = true ↔ ∃ r ∈ rs, r.first ≤ c.toNat ∧ c.toNat ≤ r.last := by
  simp [inRanges, CodeRange.holds]

/-! ## ASCII -/

/-- What holds of each of the first 128 code points holds of every character below. -/
theorem of_ascii {P : Char → Prop} {c : Char} (h : ∀ n < 0x80, P (Char.ofNat n))
    (hc : c.toNat < 0x80) : P c := by
  have hchar := h c.toNat hc
  rwa [Char.ofNat_toNat] at hchar

end Audience.Text
