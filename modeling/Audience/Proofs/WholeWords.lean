import Audience.Proofs.BlankText
import Mathlib.Data.List.Basic

/-!
# `Audience.Proofs.WholeWords` — which keywords match whole words only

A short word is matched with a space on either side, so that it cannot match inside a longer one. The
padding depends on the keyword as it is given, and the blanks around its word are left in the term. A
space among them makes the keyword look like several words, and then it is not padded at all: with a
space in front alone, a keyword matches every word that starts like its own.

So a short word is matched as a whole in two cases: nothing stands around it in the keyword, or a space
stands right before and right after it. In every other case there is a text that has the word inside
longer ones only and is matched all the same.

## Contents
- **Occurrences.** `occurrence_unique`: a word that is nowhere else in a text.
- **Words.** `word`, `IsShortWord`, `OnlyInside` and `MatchesWholeWords`.
- **Terms.** `exists_blanks_around_word`: a term is its word with blanks around it.
- **Whole words.** `matchesWholeWords_iff_spaced` on terms, `matchesWholeWords_iff` on keywords.
-/

namespace Audience.Keyword

open Text

/-! ## Occurrences -/

section Occurrences

variable {w before after before' after' : List Char}

/-- A word that starts with a character that is nowhere in front of it does not occur any earlier. -/
theorem before_prefix_of_occurrence (hne : w ≠ []) (hfirst : ∀ c, w.head? = some c → c ∉ before)
    (h : before ++ (w ++ after) = before' ++ (w ++ after')) : before <+: before' := by
  rcases List.append_eq_append_iff.mp h with ⟨between, hbefore, -⟩ | ⟨between, hbefore, hrest⟩
  · exact ⟨between, hbefore.symm⟩
  · -- the word would start between the two
    cases between with
    | nil => simp [hbefore]
    | cons c rest =>
        obtain ⟨first, others, rfl⟩ := List.exists_cons_of_ne_nil hne
        have hc : first = c := (List.cons.inj hrest).1
        have hmem : first ∈ before := by simp [hbefore, hc]
        exact absurd hmem (hfirst first rfl)

/-- **A word occurs once** in a text where its first character is nowhere in front of it, and its last
one nowhere behind it. -/
theorem occurrence_unique (hne : w ≠ []) (hfirst : ∀ c, w.head? = some c → c ∉ before)
    (hlast : ∀ c, w.getLast? = some c → c ∉ after)
    (h : before ++ w ++ after = before' ++ w ++ after') : before' = before ∧ after' = after := by
  have hbefore : before <+: before' := by
    rw [List.append_assoc, List.append_assoc] at h
    exact before_prefix_of_occurrence hne hfirst h
  have hafter : after <:+ after' := by
    -- read from its end, the text has the word in reverse
    have hreverse := congrArg List.reverse h
    simp only [List.reverse_append] at hreverse
    rw [← List.reverse_prefix]
    refine before_prefix_of_occurrence (by simpa using hne) ?_ hreverse
    intro c hc
    rw [List.head?_reverse] at hc
    rw [List.mem_reverse]
    exact hlast c hc
  -- neither side can be longer, since both texts have one length
  have hlength := congrArg List.length h
  simp only [List.length_append] at hlength
  have hle := hbefore.length_le
  have hle' := hafter.length_le
  exact ⟨(hbefore.eq_of_length (by omega)).symm, (hafter.eq_of_length (by omega)).symm⟩

end Occurrences

/-! ## Words -/

/-- The word of a keyword: what is left without the blanks around it. -/
def word (keyword : String) : List Char :=
  trimChars keyword.toList

/-- The word is short: at most seven characters, and no space or hyphen among them. -/
def IsShortWord (w : List Char) : Prop :=
  w ≠ [] ∧ w.length ≤ 7 ∧ ' ' ∉ w ∧ '-' ∉ w

instance : DecidablePred IsShortWord := fun _ => instDecidableAnd

/-- A character that is no space stands right before or right behind. -/
def Touched (before after : List Char) : Prop :=
  (∃ c, before.getLast? = some c ∧ c ≠ ' ') ∨ ∃ c, after.head? = some c ∧ c ≠ ' '

/-- Every occurrence of the word in the text is a part of something longer. -/
def OnlyInside (w text : List Char) : Prop :=
  ∀ before after, text = before ++ w ++ after → Touched before after

/-- The term of the keyword is in no text that has its word inside longer words only. -/
def MatchesWholeWords (keyword : String) : Prop :=
  ∀ text : String, OnlyInside (word keyword) text.toList → ¬ (term keyword).toList <:+: text.toList

/-- The word between two spaces. -/
def spaced (w : List Char) : List Char :=
  ' ' :: (w ++ [' '])

theorem not_onlyInside_of_spaced {w text : List Char} (h : spaced w <:+: text) :
    ¬ OnlyInside w text := by
  obtain ⟨before, after, htext⟩ := h
  intro honly
  have htouched : Touched (before ++ [' ']) (' ' :: after) := by
    apply honly
    rw [← htext]
    simp [spaced]
  rcases htouched with ⟨c, hc, hne⟩ | ⟨c, hc, hne⟩
  · rw [List.getLast?_concat] at hc
    exact hne (Option.some.inj hc).symm
  · exact hne (Option.some.inj hc).symm

/-- A hyphen at either end touches a word that is at that end, so untouched words are spaced. -/
theorem spaced_infix_of_not_touched {w before after : List Char}
    (h : ¬ Touched ('-' :: before) (after ++ ['-'])) : spaced w <:+: before ++ w ++ after := by
  rw [Touched, not_or] at h
  obtain ⟨hlast, hfirst⟩ := h
  rcases List.eq_nil_or_concat' before with rfl | ⟨start, c, rfl⟩
  · exact absurd ⟨'-', rfl, by decide⟩ hlast
  cases after with
  | nil => exact absurd ⟨'-', rfl, by decide⟩ hfirst
  | cons d rest =>
      have hc : c = ' ' := by
        by_contra hne
        exact hlast ⟨c, by rw [← List.cons_append, List.getLast?_concat], hne⟩
      have hd : d = ' ' := by
        by_contra hne
        exact hfirst ⟨d, rfl, hne⟩
      exact ⟨start, rest, by simp [spaced, hc, hd]⟩

/-! ## Terms -/

variable {keyword : String}

/-- A keyword is matched as it is, or with a space on either side. -/
theorem toList_term (keyword : String) :
    (term keyword).toList =
      if isCompound keyword.toList || longestWord < keyword.toList.length then keyword.toList
      else spaced keyword.toList := by
  unfold term
  dsimp only
  split
  · rfl
  · rw [String.toList_ofList]
    rfl

/-- **A term is the word of its keyword with blanks around it.** -/
theorem exists_blanks_around_word (keyword : String) :
    ∃ before after, (term keyword).toList = before ++ word keyword ++ after ∧
      (∀ c ∈ before, isBlankChar c = true) ∧ ∀ c ∈ after, isBlankChar c = true := by
  obtain ⟨before, after, hkeyword, hbefore, hafter⟩ :=
    exists_blanks_around_trimChars keyword.toList
  rw [toList_term]
  split
  · exact ⟨before, after, hkeyword, hbefore, hafter⟩
  · have hspace : isBlankChar ' ' = true := by decide
    refine ⟨' ' :: before, after ++ [' '], ?_, ?_, ?_⟩
    · conv_lhs => rw [hkeyword]
      simp [spaced, word]
    · exact List.forall_mem_cons.mpr ⟨hspace, hbefore⟩
    · intro c hc
      rcases List.mem_append.mp hc with hc | hc
      · exact hafter c hc
      · rw [List.mem_singleton.mp hc]
        exact hspace

/-- The characters at the ends of a word are in none of the blanks around it, and are no hyphens. -/
theorem notMem_of_blanks {w blanks : List Char} {c : Char} (hw : IsShortWord w) (hc : c ∈ w)
    (hblank : isBlankChar c = false) (hblanks : ∀ b ∈ blanks, isBlankChar b = true) :
    c ≠ '-' ∧ c ∉ blanks := by
  refine ⟨?_, ?_⟩
  · rintro rfl
    exact hw.2.2.2 hc
  · intro hmem
    rw [hblanks c hmem] at hblank
    exact absurd hblank (by simp)

/-! ## Whole words -/

/-- **Whole words are matched exactly where the term has a space right before and right after its
word.** Otherwise the term between two hyphens is a text that has the word inside longer ones only. -/
theorem matchesWholeWords_iff_spaced (h : IsShortWord (word keyword)) :
    MatchesWholeWords keyword ↔ spaced (word keyword) <:+: (term keyword).toList := by
  constructor
  · intro hmatches
    obtain ⟨before, after, hterm, hbefore, hafter⟩ := exists_blanks_around_word keyword
    rw [hterm]
    apply spaced_infix_of_not_touched
    intro htouched
    refine hmatches (String.ofList ('-' :: before ++ word keyword ++ (after ++ ['-']))) ?_ ?_
    · rw [String.toList_ofList]
      intro start rest htext
      have hfirst : ∀ c, (word keyword).head? = some c → c ∉ '-' :: before := by
        intro c hc
        have hblank := not_isBlankChar_of_head?_trimChars hc
        simpa using notMem_of_blanks h (List.mem_of_mem_head? hc) hblank hbefore
      have hlast : ∀ c, (word keyword).getLast? = some c → c ∉ after ++ ['-'] := by
        intro c hc
        have hblank := not_isBlankChar_of_getLast?_trimChars hc
        have hnot := notMem_of_blanks h (List.mem_of_getLast? hc) hblank hafter
        simpa using hnot.symm
      obtain ⟨rfl, rfl⟩ := occurrence_unique h.1 hfirst hlast htext
      exact htouched
    · rw [String.toList_ofList, hterm]
      exact ⟨['-'], ['-'], by simp⟩
  · intro hspaced text honly hinfix
    exact not_onlyInside_of_spaced (hspaced.trans hinfix) honly

/-- A text without spaces has between its padding no spaced word but itself. -/
theorem eq_of_spaced_infix_spaced {w cs : List Char} (hcs : ' ' ∉ cs)
    (h : spaced w <:+: spaced cs) : w = cs := by
  obtain ⟨before, after, heq⟩ := h
  cases before with
  | nil =>
      have htail : cs ++ ' ' :: [] = w ++ ' ' :: after := by simpa [spaced] using heq.symm
      exact ((List.append_cons_inj_of_notMem hcs (by simp)).mp htail).1.symm
  | cons c rest =>
      -- the space in front of the word would be the last of all, with the word behind it
      have htail : cs ++ ' ' :: [] = rest ++ ' ' :: (w ++ ' ' :: after) := by
        simpa [spaced] using (List.cons.inj heq).2.symm
      have hnil := ((List.append_cons_inj_of_notMem hcs (by simp)).mp htail).2.2
      exact absurd hnil (by simp)

theorem isCompound_iff {cs : List Char} : isCompound cs = true ↔ ' ' ∈ cs ∨ '-' ∈ cs := by
  simp [isCompound]

/-- A short word is padded. -/
theorem IsShortWord.not_kept {w : List Char} (h : IsShortWord w) :
    ¬ (isCompound w || longestWord < w.length) = true := by
  obtain ⟨-, hlength, hspace, hhyphen⟩ := h
  rw [Bool.or_eq_true, isCompound_iff, decide_eq_true_eq, longestWord]
  rintro ((hmem | hmem) | hlong)
  · exact hspace hmem
  · exact hhyphen hmem
  · omega

/-- **A short word is matched as a whole exactly where the keyword is that word alone, or has a space
right before and right after it.** -/
theorem matchesWholeWords_iff (h : IsShortWord (word keyword)) :
    MatchesWholeWords keyword ↔
      word keyword = keyword.toList ∨ spaced (word keyword) <:+: keyword.toList := by
  rw [matchesWholeWords_iff_spaced h, toList_term]
  split
  · rename_i hkept
    -- the keyword is no short word itself, or it would be padded
    have hne : word keyword ≠ keyword.toList := by
      intro heq
      rw [← heq] at hkept
      exact h.not_kept hkept
    exact (or_iff_right hne).symm
  · rename_i hpadded
    have hspace : ' ' ∉ keyword.toList := by
      intro hmem
      exact hpadded (by simp [isCompound_iff.mpr (Or.inl hmem)])
    constructor
    · intro hspaced
      exact Or.inl (eq_of_spaced_infix_spaced hspace hspaced)
    · rintro (heq | hspaced)
      · exact heq ▸ List.infix_refl _
      · exact absurd (hspaced.subset (by simp [spaced])) hspace

/-- Whole words are matched by a word of exactly seven characters, and by one between two spaces. -/
theorem cookies_and_cat_match_whole_words :
    IsShortWord (word "cookies") ∧ MatchesWholeWords "cookies" ∧
      IsShortWord (word "\t cat  ") ∧ MatchesWholeWords "\t cat  " := by
  have hcookies : IsShortWord (word "cookies") := by decide +kernel
  have hcat : IsShortWord (word "\t cat  ") := by decide +kernel
  refine ⟨hcookies, (matchesWholeWords_iff hcookies).mpr (Or.inl (by decide +kernel)), hcat,
    (matchesWholeWords_iff hcat).mpr (Or.inr ?_)⟩
  exact ⟨['\t'], [' '], by decide +kernel⟩

/-- **A keyword with a space in front is found inside a longer word.** -/
theorem cat_found_in_category :
    IsShortWord (word " cat") ∧ OnlyInside (word " cat") " category".toList ∧
      (term " cat").toList <:+: " category".toList := by
  have hword : word " cat" = ['c', 'a', 't'] := by decide +kernel
  have hegory : "egory".toList = ['e', 'g', 'o', 'r', 'y'] := by decide +kernel
  refine ⟨by decide +kernel, ?_, [], "egory".toList, by decide +kernel⟩
  intro before after htext
  have hwhole : [' '] ++ ['c', 'a', 't'] ++ "egory".toList = before ++ word " cat" ++ after := htext
  rw [hword, hegory] at hwhole
  obtain ⟨rfl, rfl⟩ := occurrence_unique (by simp) (by simp) (by simp) hwhole
  exact Or.inr ⟨'e', rfl, by decide⟩

end Audience.Keyword
