import Audience.Json.Printer
import Audience.Json.Reader
import Mathlib.Data.List.Basic

/-!
# `Audience.Proofs.JsonScalar` — written texts and integers read back

What is written between quotes is read one character at a time, for one unit of fuel each, whether the
character stands for itself or has an escape. The digits of an integer make one numeral, which ends
where neither a digit nor a point nor an exponent follows.

## Contents
- **Digits.** `head?_natChars_ne_zero` and `takeDigits_append`.
- **Texts.** `readText?_escapeChar` for one character, `readText?_textChars` for a whole text.
- **Numerals.** `EndsNumeral`, `FitsWord` and `readNumeral?_intChars`.
-/

namespace Audience.Number

/-! ## Digits -/

/-- The digits of a number other than zero begin with no zero. -/
theorem head?_natChars_ne_zero {n : Nat} (h : 0 < n) : (natChars n).head? ≠ some '0' := by
  induction n using Nat.strongRecOn with
  | ind n ih =>
      by_cases hn : n < 10
      · have hall : ∀ n < 10, 0 < n → (natChars n).head? ≠ some '0' := by decide
        exact hall n hn h
      · -- with more than one digit, the first one is that of a tenth of the number
        have hsplit : natChars n = natChars (n / 10) ++ [Nat.digitChar (n % 10)] :=
          Nat.toDigits_of_base_le (by omega) (by omega)
        rw [hsplit, List.head?_append_of_ne_nil _ (natChars_ne_nil (n / 10))]
        exact ih (n / 10) (by omega) (by omega)

theorem takeDigits_append {ds rest : List Char} (hds : ∀ d ∈ ds, d.isDigit = true)
    (hrest : ∀ c ∈ rest.head?, c.isDigit = false) : takeDigits (ds ++ rest) = (ds, rest) := by
  have hstop : rest.takeWhile Char.isDigit = [] ∧ rest.dropWhile Char.isDigit = rest := by
    cases rest with
    | nil => exact ⟨rfl, rfl⟩
    | cons c rest =>
        have hc : c.isDigit = false := hrest c rfl
        simp [hc]
  rw [takeDigits, List.takeWhile_append_of_pos hds, List.dropWhile_append_of_pos hds, hstop.1,
    hstop.2, List.append_nil]

end Audience.Number

namespace Audience.Json

open Number

/-! ## Texts -/

theorem hexDigit?_lowerHexDigit {n : Nat} (h : n < 16) : hexDigit? (lowerHexDigit n) = some n := by
  have hall : ∀ n < 16, hexDigit? (lowerHexDigit n) = some n := by decide
  exact hall n h

/-- A control character reads back from its code point. -/
theorem readCodePoint?_control {c : Char} (h : c.toNat < 0x20) (rest : List Char) :
    readCodePoint? ('0' :: '0' :: lowerHexDigit (c.toNat / 16) :: lowerHexDigit (c.toNat % 16) ::
      rest) = some (c, rest) := by
  have hunit : readUnit? ('0' :: '0' :: lowerHexDigit (c.toNat / 16) ::
      lowerHexDigit (c.toNat % 16) :: rest) = some (c.toNat, rest) := by
    have hzero : hexDigit? '0' = some 0 := by decide
    have hvalue : (0 * 16 + 0) * 16 + c.toNat / 16 = c.toNat / 16 := by omega
    have hhigh : hexDigit? (lowerHexDigit (c.toNat / 16)) = some (c.toNat / 16) :=
      hexDigit?_lowerHexDigit (by omega)
    have hlow : hexDigit? (lowerHexDigit (c.toNat % 16)) = some (c.toNat % 16) :=
      hexDigit?_lowerHexDigit (by omega)
    simp only [readUnit?, hzero, hhigh, hlow, Option.bind_eq_bind, Option.bind_some, hvalue,
      Option.pure_def]
    rw [show c.toNat / 16 * 16 + c.toNat % 16 = c.toNat by omega]
  simp only [readCodePoint?, hunit, Option.bind_eq_bind, Option.bind_some]
  rw [if_neg (by omega), if_neg (by omega), Char.ofNat_toNat]
  rfl

/-- **Each character reads back from its written form**, for one unit of fuel. -/
theorem readText?_escapeChar (c : Char) (fuel : Nat) (rest : List Char) :
    readText? (fuel + 1) (escapeChar c ++ rest) =
      (readText? fuel rest).map fun p => (c :: p.1, p.2) := by
  have hescape : ∀ {d : Char} {cs cs' : List Char}, readEscape? cs = some (d, cs') →
      readText? (fuel + 1) ('\\' :: cs) = (readText? fuel cs').map fun p => (d :: p.1, p.2) := by
    intro d cs cs' h
    rw [readText?, if_neg (by decide), if_pos rfl, h]
    simp only [Option.bind_eq_bind, Option.bind_some]
    cases readText? fuel cs' <;> rfl
  unfold escapeChar
  -- seven characters have an escape of their own
  iterate 7
    split
    · subst c
      exact hescape rfl
  split
  · -- the other controls have their code point
    rename_i hcontrol
    exact hescape (readCodePoint?_control hcontrol rest)
  · rename_i hquote hbackslash _ _ _ _ _ hcontrol
    show readText? (fuel + 1) (c :: rest) = _
    rw [readText?, if_neg hquote, if_neg hbackslash, if_neg hcontrol]
    cases readText? fuel rest <;> rfl

theorem readText?_flatMap_escapeChar {cs : List Char} {fuel : Nat} (hfuel : cs.length < fuel)
    (rest : List Char) :
    readText? fuel (cs.flatMap escapeChar ++ '"' :: rest) = some (cs, rest) := by
  induction cs generalizing fuel with
  | nil =>
      obtain ⟨fuel, rfl⟩ := Nat.exists_eq_add_of_lt hfuel
      rfl
  | cons c cs ih =>
      obtain ⟨fuel, rfl⟩ : ∃ n, fuel = n + 1 := ⟨fuel - 1, by omega⟩
      rw [List.flatMap_cons, List.append_assoc, readText?_escapeChar,
        ih (Nat.lt_of_succ_lt_succ hfuel)]
      rfl

theorem escapeChar_ne_nil (c : Char) : escapeChar c ≠ [] := by
  unfold escapeChar
  repeat' split
  all_goals simp

theorem length_le_length_escaped (cs : List Char) :
    cs.length ≤ (cs.flatMap escapeChar).length := by
  induction cs with
  | nil => simp
  | cons c cs ih =>
      have hpos : 0 < (escapeChar c).length := List.length_pos_iff.mpr (escapeChar_ne_nil c)
      rw [List.flatMap_cons, List.length_append, List.length_cons]
      omega

/-- A text in quotes reads back behind its first quote. -/
theorem readText?_textChars {s : String} {fuel : Nat} (hfuel : (textChars s).length ≤ fuel)
    (rest : List Char) :
    readText? fuel ((textChars s).tail ++ rest) = some (s.toList, rest) := by
  have hlength := length_le_length_escaped s.toList
  have hfuel' : s.toList.length < fuel := by
    simp only [textChars, List.length_cons, List.length_append] at hfuel
    omega
  show readText? fuel ((s.toList.flatMap escapeChar ++ ['"']) ++ rest) = _
  rw [List.append_assoc]
  exact readText?_flatMap_escapeChar hfuel' rest

/-! ## Numerals -/

/-- What follows cannot be read as a part of a numeral. -/
def EndsNumeral (rest : List Char) : Prop :=
  ∀ c ∈ rest.head?, c.isDigit = false ∧ c ≠ '.' ∧ c ≠ 'e' ∧ c ≠ 'E'

theorem readFraction?_of_endsNumeral {rest : List Char} (h : EndsNumeral rest) :
    readFraction? rest = some (none, rest) := by
  unfold readFraction?
  split
  · exact absurd rfl (h '.' rfl).2.1
  · rfl

theorem readPower?_of_endsNumeral {rest : List Char} (h : EndsNumeral rest) :
    readPower? rest = some (none, rest) := by
  cases rest with
  | nil => rfl
  | cons c rest =>
      obtain ⟨-, -, he, hE⟩ := h c rfl
      have hletter : ¬ (c = 'e' ∨ c = 'E') := not_or.mpr ⟨he, hE⟩
      simp only [readPower?, if_neg hletter]

/-- A significand takes in all digits of a number that fits 64 bits. -/
theorem absorb_eq {significand : Nat} {ds : List Char}
    (h : Nat.ofDigitChars 10 ds significand < twoTo 64) :
    absorb significand ds = (Nat.ofDigitChars 10 ds significand, []) := by
  -- digits only add to the significand, so it fits all the way if it fits in the end
  have hle : ∀ (ds : List Char) (n : Nat), n ≤ Nat.ofDigitChars 10 ds n := by
    intro ds
    induction ds with
    | nil => exact fun n => Nat.le_refl n
    | cons d ds ih =>
        intro n
        rw [Nat.ofDigitChars_cons]
        exact Nat.le_trans (by omega) (ih _)
  induction ds generalizing significand with
  | nil => rfl
  | cons d ds ih =>
      have hnext : significand * 10 + digitValue d = 10 * significand + (d.toNat - '0'.toNat) := by
        rw [Nat.mul_comm]
        rfl
      rw [Nat.ofDigitChars_cons] at h ⊢
      rw [absorb, hnext, if_pos (Nat.lt_of_le_of_lt (hle ds _) h), ih h]

theorem absorb_natChars {n : Nat} (h : n < twoTo 64) : absorb 0 (natChars n) = (n, []) := by
  have hvalue : Nat.ofDigitChars 10 (natChars n) 0 = n := valueOfDigits_natChars n
  rw [absorb_eq (by rwa [hvalue]), hvalue]

/-- The digits of a number, behind a minus or not, are one integral numeral. -/
theorem readNumeral?_natChars (negative : Bool) (n : Nat) {rest : List Char}
    (hrest : EndsNumeral rest) :
    readNumeral? (signed negative (natChars n) ++ rest) =
      (integral? negative (natChars n)).map (·, rest) := by
  have hdigits : takeDigits (natChars n ++ rest) = (natChars n, rest) :=
    takeDigits_append (fun _ => isDigit_of_mem_natChars) fun c hc => (hrest c hc).1
  have hzeros : ((natChars n).isEmpty ||
      ((natChars n).head? == some '0' && decide (1 < (natChars n).length))) = false := by
    rcases Nat.eq_zero_or_pos n with rfl | hn
    · rfl
    · simp [natChars_ne_nil, head?_natChars_ne_zero hn]
  -- digits do not begin with a minus, so a sign is taken off only where one was put
  have hminus : ∀ cs, natChars n ++ rest ≠ '-' :: cs := by
    intro cs hcs
    have hhead : '-' ∈ natChars n := by
      cases hchars : natChars n with
      | nil => exact absurd hchars (natChars_ne_nil n)
      | cons d ds =>
          rw [hchars, List.cons_append] at hcs
          rw [(List.cons.inj hcs).1]
          exact List.mem_cons_self
    exact absurd (isDigit_of_mem_natChars hhead) (by decide)
  unfold readNumeral?
  split
  rename_i sign cs hsign
  have hsigned : sign = negative ∧ cs = natChars n ++ rest := by
    cases negative with
    | true =>
        cases hsign
        exact ⟨rfl, rfl⟩
    | false =>
        split at hsign
        · exact absurd ‹_› (hminus _)
        · cases hsign
          exact ⟨rfl, rfl⟩
  obtain ⟨rfl, rfl⟩ := hsigned
  simp only [hdigits, hzeros, readFraction?_of_endsNumeral hrest, Option.bind_eq_bind,
    Option.bind_some, readPower?_of_endsNumeral hrest, Bool.false_eq_true, if_false,
    Option.isNone_none, Bool.and_self, if_true]
  cases integral? sign (natChars n) <;> rfl

/-- An integer that fits a 64-bit word, signed or unsigned. -/
def FitsWord (n : Int) : Prop :=
  fitsInt64 n = true ∨ fitsUInt64 n = true

/-- **The digits of an integer that fits a word read back.** -/
theorem readNumeral?_intChars {n : Int} (hn : FitsWord n) {rest : List Char}
    (hrest : EndsNumeral rest) : readNumeral? (intChars n ++ rest) = some (.int n, rest) := by
  simp only [FitsWord, fitsInt64, fitsUInt64, Bool.and_eq_true, decide_eq_true_eq] at hn
  cases n with
  | ofNat n =>
      have hfits : n < 2 ^ 64 := by
        rw [Int.ofNat_eq_natCast] at hn
        omega
      have hread := readNumeral?_natChars false n hrest
      rw [integral?, absorb_natChars hfits] at hread
      exact hread
  | negSucc n =>
      have hfits : n + 1 < 2 ^ 64 := by omega
      have hlow : 0 < n + 1 ∧ n + 1 ≤ twoTo 63 := by
        show 0 < n + 1 ∧ n + 1 ≤ 2 ^ 63
        omega
      have hread := readNumeral?_natChars true (n + 1) hrest
      rw [integral?, absorb_natChars hfits] at hread
      simp only [Bool.not_true, Bool.false_eq_true, if_false, if_pos hlow] at hread
      exact hread

end Audience.Json
