import Audience.Number.Integer
import Audience.Proofs.BlankText
import Mathlib.Data.List.Induction

/-!
# `Audience.Proofs.DecimalText` — which texts denote an integer

A text denotes an integer when it is one or more decimal digits behind at most one sign. Many texts
denote one integer, since zeros may stand in front and a sign may be redundant. Reading gives the
integer that a text denotes and fails on all others, and what is written of an integer denotes it.

## Contents
- **Digits.** `Digits`, and `readNat?_eq_some_iff`.
- **Signed digits.** `SignedDigits`, `readInt?_eq_some_iff` and `readInt64?_eq_some_iff`.
- **Written integers.** `signedDigits_intChars`, and `trimChars_intChars` with `not_isBlank_intText`:
  there are no blanks to trim.
-/

namespace Audience.Number

open Text

/-! ## Digits -/

/-- One or more decimal digits, and the number that they denote. -/
inductive Digits : List Char → Nat → Prop
  | one {d : Nat} (hd : d < 10) : Digits [Nat.digitChar d] d
  | more {ds : List Char} {n d : Nat} (h : Digits ds n) (hd : d < 10) :
      Digits (ds ++ [Nat.digitChar d]) (10 * n + d)

variable {ds cs : List Char}

theorem exists_digitChar_eq {c : Char} (h : c.isDigit = true) : ∃ d < 10, Nat.digitChar d = c := by
  have hrange : 48 ≤ c.toNat ∧ c.toNat ≤ 57 := by
    simpa [Char.isDigit, UInt32.le_iff_toNat_le] using h
  refine ⟨c.toNat - 48, by omega, ?_⟩
  rw [← Char.toNat_inj, Nat.toNat_digitChar_of_lt_ten (by omega)]
  omega

theorem valueOfDigits_append {d : Nat} (hd : d < 10) (ds : List Char) :
    valueOfDigits (ds ++ [Nat.digitChar d]) = 10 * valueOfDigits ds + d := by
  rw [valueOfDigits, valueOfDigits, Nat.ofDigitChars_append,
    Nat.ofDigitChars_cons_digitChar_of_lt_ten hd, Nat.ofDigitChars_nil]

theorem Digits.ne_nil {n : Nat} (h : Digits ds n) : ds ≠ [] := by
  cases h <;> simp

theorem Digits.isDigit {n : Nat} (h : Digits ds n) : ∀ c ∈ ds, c.isDigit = true := by
  have hdigit : ∀ {d : Nat}, d < 10 → (Nat.digitChar d).isDigit = true := by
    intro d hd
    simpa using hd
  induction h with
  | one hd => simpa using hdigit hd
  | more _ hd ih =>
      intro c hc
      rcases List.mem_append.mp hc with hc | hc
      · exact ih c hc
      · rw [List.mem_singleton.mp hc]
        exact hdigit hd

theorem Digits.valueOfDigits_eq {n : Nat} (h : Digits ds n) : valueOfDigits ds = n := by
  induction h with
  | one hd => exact (valueOfDigits_append hd []).trans (Nat.zero_add _)
  | more _ hd ih => rw [valueOfDigits_append hd, ih]

/-- Digits denote their value; the last one is taken off first. -/
theorem digits_valueOfDigits (hne : ds ≠ []) (hall : ∀ c ∈ ds, c.isDigit = true) :
    Digits ds (valueOfDigits ds) := by
  induction ds using List.reverseRecOn with
  | nil => exact absurd rfl hne
  | append_singleton ds c ih =>
      obtain ⟨d, hd, rfl⟩ := exists_digitChar_eq (hall c (by simp))
      rw [valueOfDigits_append hd]
      cases ds with
      | nil => simpa [valueOfDigits] using Digits.one hd
      | cons b bs => exact .more (ih (by simp) fun c hc => hall c (List.mem_append_left _ hc)) hd

/-- **Digits are read as the number that they denote.** -/
theorem readNat?_eq_some_iff {n : Nat} : readNat? ds = some n ↔ Digits ds n := by
  constructor
  · intro h
    unfold readNat? at h
    split at h
    · rename_i hdigits
      rw [Bool.and_eq_true, List.all_eq_true] at hdigits
      rw [← Option.some.inj h]
      exact digits_valueOfDigits (by simpa using hdigits.1) hdigits.2
    · cases h
  · intro h
    have hall : ds.all Char.isDigit = true := List.all_eq_true.mpr h.isDigit
    simp [readNat?, hall, h.ne_nil, h.valueOfDigits_eq]

/-! ## Signed digits -/

/-- Digits behind at most one sign, and the integer that they denote. -/
inductive SignedDigits : List Char → Int → Prop
  | unsigned {ds : List Char} {n : Nat} (h : Digits ds n) : SignedDigits ds n
  | plus {ds : List Char} {n : Nat} (h : Digits ds n) : SignedDigits ('+' :: ds) n
  | minus {ds : List Char} {n : Nat} (h : Digits ds n) : SignedDigits ('-' :: ds) (-n)

theorem readInt?_minus (ds : List Char) :
    readInt? ('-' :: ds) = (readNat? ds).map fun n : Nat => -(n : Int) := by
  rw [readInt?]
  cases readNat? ds <;> rfl

theorem readInt?_plus (ds : List Char) : readInt? ('+' :: ds) = (readNat? ds).map Int.ofNat := rfl

theorem readInt?_unsigned (hminus : ∀ ds, cs ≠ '-' :: ds) (hplus : ∀ ds, cs ≠ '+' :: ds) :
    readInt? cs = (readNat? cs).map Int.ofNat := by
  rw [readInt?]
  · exact hminus
  · exact hplus

/-- **A text is read as the integer that it denotes**, and denotes none where it is not read. -/
theorem readInt?_eq_some_iff {n : Int} : readInt? cs = some n ↔ SignedDigits cs n := by
  constructor
  · intro h
    unfold readInt? at h
    split at h
    · obtain ⟨m, hm, rfl⟩ := Option.map_eq_some_iff.mp ((readInt?_minus _).symm.trans h)
      exact .minus (readNat?_eq_some_iff.mp hm)
    · obtain ⟨m, hm, rfl⟩ := Option.map_eq_some_iff.mp h
      exact .plus (readNat?_eq_some_iff.mp hm)
    · obtain ⟨m, hm, rfl⟩ := Option.map_eq_some_iff.mp h
      exact .unsigned (readNat?_eq_some_iff.mp hm)
  · rintro (h | h | h)
    · -- neither sign is a digit
      have hdigit := h.isDigit
      rw [readInt?_unsigned, readNat?_eq_some_iff.mpr h]
      · rfl
      · rintro ds rfl
        exact absurd (hdigit '-' (by simp)) (by decide)
      · rintro ds rfl
        exact absurd (hdigit '+' (by simp)) (by decide)
    · rw [readInt?_plus, readNat?_eq_some_iff.mpr h]
      rfl
    · rw [readInt?_minus, readNat?_eq_some_iff.mpr h]
      rfl

theorem readInt64?_eq_some_iff {n : Int} :
    readInt64? cs = some n ↔ SignedDigits cs n ∧ fitsInt64 n = true := by
  rw [readInt64?, Option.filter_eq_some_iff, readInt?_eq_some_iff]

/-! ## Written integers -/

theorem signedDigits_intChars (n : Int) : SignedDigits (intChars n) n := by
  cases n with
  | ofNat n => exact .unsigned (readNat?_eq_some_iff.mp (readNat?_natChars n))
  | negSucc n => exact .minus (readNat?_eq_some_iff.mp (readNat?_natChars (n + 1)))

theorem not_isBlankChar_of_isDigit {c : Char} (h : c.isDigit = true) : isBlankChar c = false := by
  have hdigits : ∀ d < 10, isBlankChar (Nat.digitChar d) = false := by decide
  obtain ⟨d, hd, rfl⟩ := exists_digitChar_eq h
  exact hdigits d hd

theorem not_isBlankChar_of_mem_intChars {n : Int} {c : Char} (h : c ∈ intChars n) :
    isBlankChar c = false := by
  cases n with
  | ofNat n => exact not_isBlankChar_of_isDigit (isDigit_of_mem_natChars h)
  | negSucc n =>
      rcases List.mem_cons.mp h with rfl | h
      · decide
      · exact not_isBlankChar_of_isDigit (isDigit_of_mem_natChars h)

/-- An integer is written with one character at least, and none of them is blank. -/
theorem not_isBlank_intText (n : Int) : isBlank (intText n) = false := by
  have hne : intChars n ≠ [] := by
    cases n with
    | ofNat n => exact natChars_ne_nil n
    | negSucc n => exact List.cons_ne_nil _ _
  obtain ⟨c, hc⟩ := List.exists_mem_of_ne_nil _ hne
  rw [isBlank_eq_false_iff, intText, String.toList_ofList]
  exact ⟨c, hc, not_isBlankChar_of_mem_intChars hc⟩

theorem trimChars_intChars (n : Int) : trimChars (intChars n) = intChars n :=
  trimChars_eq_self fun _ => not_isBlankChar_of_mem_intChars

end Audience.Number
