import Audience.Text.Ranges

/-!
# `Audience.Text.Blank` — blank characters, blank texts and trimming

A character is blank when it has the Unicode property White_Space; a text is blank when all its
characters are, and trimming takes the blank characters off both ends.

## Contents
- **Blank characters.** `blankRanges` and `isBlankChar`.
- **Trimming.** `trimChars` on character lists, `trim` and `isBlank` on texts.
- **Reading.** `trimChars_eq_nil_iff`: trimming leaves nothing exactly of blank texts.
-/

namespace Audience.Text

/-! ## Blank characters -/

/-- The code points with the property White_Space. -/
def blankRanges : List CodeRange :=
  [⟨0x09, 0x0D⟩, ⟨0x20, 0x20⟩, ⟨0x85, 0x85⟩, ⟨0xA0, 0xA0⟩, ⟨0x1680, 0x1680⟩,
   ⟨0x2000, 0x200A⟩, ⟨0x2028, 0x2029⟩, ⟨0x202F, 0x202F⟩, ⟨0x205F, 0x205F⟩, ⟨0x3000, 0x3000⟩]

/-- The character has the property White_Space. -/
def isBlankChar (c : Char) : Bool :=
  inRanges blankRanges c

/-! ## Trimming -/

/-- The characters without the blank ones at the end. -/
def trimEnd (cs : List Char) : List Char :=
  (cs.reverse.dropWhile isBlankChar).reverse

/-- The characters without the blank ones at either end. -/
def trimChars (cs : List Char) : List Char :=
  trimEnd (cs.dropWhile isBlankChar)

/-- The text without the blank characters at either end. -/
def trim (s : String) : String :=
  String.ofList (trimChars s.toList)

/-- The text holds no character that is not blank. -/
def isBlank (s : String) : Bool :=
  s.toList.all isBlankChar

/-! ## Reading -/

theorem toList_trim (s : String) : (trim s).toList = trimChars s.toList :=
  String.toList_ofList

theorem dropWhile_isBlankChar_eq_nil_iff {cs : List Char} :
    cs.dropWhile isBlankChar = [] ↔ ∀ c ∈ cs, isBlankChar c = true := by
  induction cs with
  | nil => simp
  | cons c rest ih =>
      by_cases hc : isBlankChar c = true
      · simp [hc, ih]
      · simp [hc]

theorem trimEnd_eq_nil_iff {cs : List Char} : trimEnd cs = [] ↔ ∀ c ∈ cs, isBlankChar c = true := by
  rw [trimEnd, List.reverse_eq_nil_iff, dropWhile_isBlankChar_eq_nil_iff]
  exact forall_congr' fun c => by rw [List.mem_reverse]

theorem trimChars_eq_nil_iff {cs : List Char} :
    trimChars cs = [] ↔ ∀ c ∈ cs, isBlankChar c = true := by
  rw [trimChars, trimEnd_eq_nil_iff]
  induction cs with
  | nil => simp
  | cons c rest ih =>
      by_cases hc : isBlankChar c = true
      · simp [hc, ih]
      · simp [hc]

theorem isBlank_iff {s : String} : isBlank s = true ↔ ∀ c ∈ s.toList, isBlankChar c = true := by
  simp [isBlank]

/-- A text is blank exactly when trimming leaves nothing of it. -/
theorem isBlank_iff_trim_eq_empty {s : String} : isBlank s = true ↔ trim s = "" := by
  rw [isBlank_iff, ← trimChars_eq_nil_iff, ← toList_trim, ← String.toList_inj]
  rfl

end Audience.Text
