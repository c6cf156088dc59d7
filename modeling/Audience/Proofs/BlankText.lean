import Audience.Keyword
import Audience.Number.Integer
import Mathlib.Data.List.Basic

/-!
# `Audience.Proofs.BlankText` — what is made of blank texts, and of texts that are not blank

A blank keyword has no slugs and a blank code denotes no integer, so blank entries never reach a
query. The other way round trimming, upper case and padding leave something to match of every text
that is not blank; for upper case this is read off the case data.

## Contents
- **Trimming.** `exists_blanks_around_trimChars`, `trimChars_between` and `isBlank_trim`: what stands
  between the blanks, whatever they are.
- **Upper case.** `not_isBlank_upper`, from the runs and the expansions of the case data.
- **Entries.** `not_isBlank_term`, `slugsOf_of_isBlank` and `readInt64?_of_isBlank`.
-/

namespace Audience.Text

/-! ## Trimming -/

theorem trimEnd_append_blank (cs : List Char) :
    ∃ blanks, cs = trimEnd cs ++ blanks ∧ ∀ c ∈ blanks, isBlankChar c = true := by
  refine ⟨(cs.reverse.takeWhile isBlankChar).reverse, ?_, ?_⟩
  · rw [trimEnd, ← List.reverse_append, List.takeWhile_append_dropWhile, List.reverse_reverse]
  · intro c hc
    exact List.all_eq_true.mp List.all_takeWhile c (List.mem_reverse.mp hc)

/-- Trimming takes blank characters off both ends, and nothing else. -/
theorem exists_blanks_around_trimChars (cs : List Char) :
    ∃ before after, cs = before ++ trimChars cs ++ after ∧
      (∀ c ∈ before, isBlankChar c = true) ∧ ∀ c ∈ after, isBlankChar c = true := by
  obtain ⟨after, hafter, hblank⟩ := trimEnd_append_blank (cs.dropWhile isBlankChar)
  refine ⟨cs.takeWhile isBlankChar, after, ?_, List.all_eq_true.mp List.all_takeWhile, hblank⟩
  rw [trimChars, List.append_assoc, ← hafter, List.takeWhile_append_dropWhile]

/-- Trimming keeps every character that is not blank. -/
theorem mem_trimChars {c : Char} {cs : List Char} (hc : c ∈ cs) (hblank : isBlankChar c = false) :
    c ∈ trimChars cs := by
  obtain ⟨before, after, hcs, hbefore, hafter⟩ := exists_blanks_around_trimChars cs
  rw [hcs] at hc
  rcases List.mem_append.mp hc with hc | hc
  · rcases List.mem_append.mp hc with hc | hc
    · rw [hbefore c hc] at hblank
      exact absurd hblank (by simp)
    · exact hc
  · rw [hafter c hc] at hblank
    exact absurd hblank (by simp)

/-- Trimming adds no character. -/
theorem mem_of_mem_trimChars {c : Char} {cs : List Char} (h : c ∈ trimChars cs) : c ∈ cs := by
  obtain ⟨before, after, hcs, -, -⟩ := exists_blanks_around_trimChars cs
  rw [hcs]
  exact List.mem_append_left _ (List.mem_append_right _ h)

theorem not_isBlankChar_of_head?_trimChars {c : Char} {cs : List Char}
    (h : (trimChars cs).head? = some c) : isBlankChar c = false := by
  obtain ⟨after, hafter, -⟩ := trimEnd_append_blank (cs.dropWhile isBlankChar)
  have hhead : (cs.dropWhile isBlankChar).head? = some c := by
    rw [hafter, List.head?_append, ← trimChars, h]
    rfl
  have hnot := List.head?_dropWhile_not isBlankChar cs
  rw [hhead] at hnot
  exact hnot

theorem not_isBlankChar_of_getLast?_trimChars {c : Char} {cs : List Char}
    (h : (trimChars cs).getLast? = some c) : isBlankChar c = false := by
  rw [trimChars, trimEnd, List.getLast?_reverse] at h
  have hnot := List.head?_dropWhile_not isBlankChar (cs.dropWhile isBlankChar).reverse
  rw [h] at hnot
  exact hnot

theorem dropWhile_isBlankChar_eq_self {cs : List Char}
    (h : ∀ c, cs.head? = some c → isBlankChar c = false) : cs.dropWhile isBlankChar = cs := by
  cases cs with
  | nil => rfl
  | cons c rest => exact List.dropWhile_cons_of_neg (by simp [h c rfl])

/-- **Trimming finds what stands between blanks**, where neither of its ends is blank. -/
theorem trimChars_between {before middle after : List Char}
    (hfirst : ∀ c, middle.head? = some c → isBlankChar c = false)
    (hlast : ∀ c, middle.getLast? = some c → isBlankChar c = false)
    (hbefore : ∀ c ∈ before, isBlankChar c = true) (hafter : ∀ c ∈ after, isBlankChar c = true) :
    trimChars (before ++ middle ++ after) = middle := by
  by_cases hmiddle : middle = []
  · rw [hmiddle, List.append_nil, trimChars_eq_nil_iff]
    intro c hc
    exact (List.mem_append.mp hc).elim (hbefore c) (hafter c)
  · have hstart : (before ++ middle ++ after).dropWhile isBlankChar = middle ++ after := by
      rw [List.append_assoc, List.dropWhile_append_of_pos hbefore]
      apply dropWhile_isBlankChar_eq_self
      intro c hc
      rw [List.head?_append_of_ne_nil _ hmiddle] at hc
      exact hfirst c hc
    have hend : (middle ++ after).reverse.dropWhile isBlankChar = middle.reverse := by
      have hafter' : ∀ c ∈ after.reverse, isBlankChar c = true := by
        intro c hc
        exact hafter c (List.mem_reverse.mp hc)
      rw [List.reverse_append, List.dropWhile_append_of_pos hafter']
      apply dropWhile_isBlankChar_eq_self
      intro c hc
      rw [List.head?_reverse] at hc
      exact hlast c hc
    rw [trimChars, hstart, trimEnd, hend, List.reverse_reverse]

/-- Trimming changes nothing where no character is blank. -/
theorem trimChars_eq_self {cs : List Char} (h : ∀ c ∈ cs, isBlankChar c = false) :
    trimChars cs = cs := by
  have hbetween : trimChars ([] ++ cs ++ []) = cs :=
    trimChars_between (fun c hc => h c (List.mem_of_head? hc))
      (fun c hc => h c (List.mem_of_getLast? hc)) (by simp) (by simp)
  rwa [List.nil_append, List.append_nil] at hbetween

/-- Blanks around a text make no difference to what is left of it. -/
theorem trimChars_surrounded {before after : List Char} (cs : List Char)
    (hbefore : ∀ c ∈ before, isBlankChar c = true) (hafter : ∀ c ∈ after, isBlankChar c = true) :
    trimChars (before ++ cs ++ after) = trimChars cs := by
  obtain ⟨start, rest, hcs, hstart, hrest⟩ := exists_blanks_around_trimChars cs
  have htext : before ++ cs ++ after = (before ++ start) ++ trimChars cs ++ (rest ++ after) :=
    calc before ++ cs ++ after
      _ = before ++ (start ++ trimChars cs ++ rest) ++ after := by rw [← hcs]
      _ = (before ++ start) ++ trimChars cs ++ (rest ++ after) := by simp only [List.append_assoc]
  rw [htext]
  refine trimChars_between (fun _ => not_isBlankChar_of_head?_trimChars)
    (fun _ => not_isBlankChar_of_getLast?_trimChars) ?_ ?_
  · exact List.forall_mem_append.mpr ⟨hbefore, hstart⟩
  · exact List.forall_mem_append.mpr ⟨hrest, hafter⟩

theorem trimChars_trimChars (cs : List Char) : trimChars (trimChars cs) = trimChars cs := by
  have hbetween : trimChars ([] ++ trimChars cs ++ []) = trimChars cs :=
    trimChars_between (fun _ => not_isBlankChar_of_head?_trimChars)
      (fun _ => not_isBlankChar_of_getLast?_trimChars) (by simp) (by simp)
  rwa [List.nil_append, List.append_nil] at hbetween

/-- **A text is trimmed when neither of its ends is blank.** -/
theorem trim_eq_self_iff {s : String} : trim s = s ↔
    (∀ c, s.toList.head? = some c → isBlankChar c = false) ∧
      ∀ c, s.toList.getLast? = some c → isBlankChar c = false := by
  rw [← String.toList_inj, toList_trim]
  constructor
  · intro h
    rw [← h]
    exact ⟨fun _ => not_isBlankChar_of_head?_trimChars,
      fun _ => not_isBlankChar_of_getLast?_trimChars⟩
  · rintro ⟨hfirst, hlast⟩
    have hbetween : trimChars ([] ++ s.toList ++ []) = s.toList :=
      trimChars_between hfirst hlast (by simp) (by simp)
    rwa [List.nil_append, List.append_nil] at hbetween

theorem trim_trim (s : String) : trim (trim s) = trim s := by
  rw [trim, toList_trim, trimChars_trimChars, trim]

theorem isBlank_eq_false_iff {s : String} :
    isBlank s = false ↔ ∃ c ∈ s.toList, isBlankChar c = false := by
  rw [← Bool.not_eq_true, isBlank_iff]
  simp

theorem trimChars_of_isBlank {s : String} (h : isBlank s = true) : trimChars s.toList = [] :=
  trimChars_eq_nil_iff.mpr (isBlank_iff.mp h)

theorem isBlank_trim (s : String) : isBlank (trim s) = isBlank s := by
  cases hs : isBlank s with
  | true =>
      rw [isBlank_iff_trim_eq_empty.mp hs]
      rfl
  | false =>
      obtain ⟨c, hc, hblank⟩ := isBlank_eq_false_iff.mp hs
      refine isBlank_eq_false_iff.mpr ⟨c, ?_, hblank⟩
      rw [toList_trim]
      exact mem_trimChars hc hblank

/-! ## Upper case -/

/-- A code point that names no character stands for the null character. -/
theorem toNat_ofNat_eq_or (n : Nat) :
    (Char.ofNat n).toNat = n ∨ (Char.ofNat n).toNat = 0 := by
  by_cases h : n.isValidChar
  · left
    rw [Char.ofNat, dif_pos h]
    rfl
  · right
    rw [Char.ofNat, dif_neg h]
    rfl

theorem isBlankChar_ofNat {n : Nat} (h : ∀ r ∈ blankRanges, n < r.first ∨ r.last < n) :
    isBlankChar (Char.ofNat n) = false := by
  rw [← Bool.not_eq_true]
  intro hblank
  obtain ⟨r, hr, hlow, hhigh⟩ := inRanges_iff.mp hblank
  have hfirst : ∀ r ∈ blankRanges, 0 < r.first := by decide
  have hpos := hfirst r hr
  have hn := h r hr
  -- an invalid code point has become the null character, which lies below all ranges
  rcases toNat_ofNat_eq_or n with hval | hval <;> omega

theorem not_isBlankChar_toUpper {c : Char} (hc : c.toNat < 0x80) (hblank : isBlankChar c = false) :
    isBlankChar c.toUpper = false :=
  of_ascii (P := fun c => isBlankChar c = false → isBlankChar c.toUpper = false) (by decide) hc
    hblank

/-- No run of the upper-case table reaches a blank code point. -/
theorem upperRuns_miss_blankRanges : ∀ r ∈ upperRuns, 0 ≤ r.first + r.shift ∧
    ∀ b ∈ blankRanges, r.last + r.shift < b.first ∨ b.last < r.first + r.shift := by
  decide +kernel

theorem not_isBlankChar_shiftBy {c : Char} (hblank : isBlankChar c = false) :
    isBlankChar (shiftBy upperRuns c) = false := by
  unfold shiftBy
  split
  · rename_i r hfind
    have hmem : r ∈ upperRuns := List.mem_of_find?_eq_some hfind
    have hholds := List.find?_some hfind
    simp only [CaseRun.holds, Bool.and_eq_true, decide_eq_true_eq] at hholds
    obtain ⟨⟨hfirst, hlast⟩, -⟩ := hholds
    apply isBlankChar_ofNat
    obtain ⟨hpos, hmiss⟩ := upperRuns_miss_blankRanges r hmem
    intro b hb
    rcases hmiss b hb with h | h <;> omega
  · exact hblank

theorem upperExpansions_not_blank : ∀ e ∈ upperExpansions, ∃ n ∈ e.image,
    isBlankChar (Char.ofNat n) = false := by
  decide +kernel

theorem exists_upperChar_not_blank {c : Char} (hblank : isBlankChar c = false) :
    ∃ u ∈ upperChar c, isBlankChar u = false := by
  -- the case data is consulted in this order: the first 128 characters, expansions, runs
  unfold upperChar
  split
  · rename_i hc
    exact ⟨c.toUpper, by simp, not_isBlankChar_toUpper hc hblank⟩
  · split
    · rename_i e hfind
      obtain ⟨n, hn, hnblank⟩ := upperExpansions_not_blank e (List.mem_of_find?_eq_some hfind)
      exact ⟨Char.ofNat n, List.mem_map_of_mem hn, hnblank⟩
    · exact ⟨shiftBy upperRuns c, by simp, not_isBlankChar_shiftBy hblank⟩

/-- **Upper case keeps a text from being blank.** -/
theorem not_isBlank_upper {s : String} (h : isBlank s = false) : isBlank (upper s) = false := by
  obtain ⟨c, hc, hblank⟩ := isBlank_eq_false_iff.mp h
  obtain ⟨u, hu, hublank⟩ := exists_upperChar_not_blank hblank
  refine isBlank_eq_false_iff.mpr ⟨u, ?_, hublank⟩
  rw [upper, String.toList_ofList]
  exact List.mem_flatMap.mpr ⟨c, hc, hu⟩

end Audience.Text

namespace Audience

open Text

/-! ## Entries -/

/-- Padding a keyword leaves all its characters. -/
theorem Keyword.not_isBlank_term {keyword : String} (h : isBlank keyword = false) :
    isBlank (term keyword) = false := by
  rw [term]
  split
  · exact h
  · obtain ⟨c, hc, hblank⟩ := isBlank_eq_false_iff.mp h
    refine isBlank_eq_false_iff.mpr ⟨c, ?_, hblank⟩
    rw [String.toList_ofList]
    simp [hc]

/-- A blank keyword has no slugs. -/
theorem Keyword.slugsOf_of_isBlank {keyword : String} (h : isBlank keyword = true) :
    slugsOf keyword = [] := by
  have hbase : base keyword = [] := by
    rw [base, trimChars_of_isBlank h]
    rfl
  have hkept : isKept keyword = false := by
    rw [isKept, hbase]
    simp
  rw [slugsOf, hkept]
  rfl

/-- A blank code denotes no integer. -/
theorem Number.readInt64?_of_isBlank {code : String} (h : isBlank code = true) :
    readInt64? (trimChars code.toList) = none := by
  rw [trimChars_of_isBlank h]
  rfl

end Audience
