import Audience.Proofs.BlankText
import Audience.Proofs.PercentText
import Audience.Proofs.RosterSet

/-!
# `Audience.Proofs.SlugEncoding` — slugs are two encodings of a keyword

A keyword has slugs unless it is blank or a path: one is its base percent-encoded, and one the base with
spaces hyphenated and accents folded. Hyphens are put around what has been encoded, but a hyphen stands
for itself, so they could as well be put around the base. Hence each slug is the encoded form of a text
that is known, and can be read back to it: a publisher's path can be compared with the keyword itself.

## Contents
- **Keywords.** `Kept`, and `isKept_iff`: lower case and collapsing leave something of every keyword.
- **Hyphens.** `hyphened`, and `hyphenate_encode`: hyphenation commutes with encoding.
- **Folding.** `fold_eq_self_iff`, and `hyphened_fold_eq_iff`: hyphens do not hide what was folded.
- **One slug.** `IsSlug`; `toList_rawSlug` and `toList_foldedSlug`; `rawSlug_eq_foldedSlug_iff`.
- **Slugs.** `mem_slugs_iff`, `slugs_eq_nil_iff`, `slugs_append`, and `slugs_encode_keywords`.
-/

namespace Audience.Keyword

open Text

variable {keyword : String} {cs : List Char}

/-! ## Keywords -/

/-- The keyword is no path, and it is not blank. -/
def Kept (keyword : String) : Prop :=
  keyword.toList.head? ≠ some '/' ∧ isBlank keyword = false

theorem lowerChar_ne_nil (c : Char) : lowerChar c ≠ [] := by
  unfold lowerChar
  split
  · simp
  · split <;> simp

theorem lowerAfter_eq_nil_iff {before : List Char} : lowerAfter before cs = [] ↔ cs = [] := by
  cases cs with
  | nil => exact Iff.rfl
  | cons c rest =>
      unfold lowerAfter
      split
      · simp
      · simp [lowerChar_ne_nil]

theorem collapse_eq_nil_iff : collapse cs = [] ↔ cs = [] := by
  match cs with
  | [] => exact Iff.rfl
  | [c] => simp [collapse]
  | c :: d :: rest =>
      unfold collapse
      split <;> simp

/-- A keyword has an empty base when it is blank. -/
theorem base_eq_nil_iff : base keyword = [] ↔ isBlank keyword = true := by
  rw [base, collapse_eq_nil_iff, lowerChars, lowerAfter_eq_nil_iff, trimChars_eq_nil_iff, isBlank_iff]

theorem isKept_iff : isKept keyword = true ↔ Kept keyword := by
  have hbase : (base keyword).isEmpty = isBlank keyword := by
    rw [Bool.eq_iff_iff, List.isEmpty_iff]
    exact base_eq_nil_iff
  simp [isKept, Kept, hbase]

theorem Kept.base_ne_nil (h : Kept keyword) : base keyword ≠ [] := by
  intro hbase
  rw [base_eq_nil_iff, h.2] at hbase
  exact absurd hbase (by simp)

/-! ## Hyphens -/

/-- What is missing in front of a text that is to begin with a hyphen. -/
def missingStart (cs : List Char) : List Char :=
  if cs.head? = some '-' then [] else ['-']

/-- What is missing behind a text that is to end with a hyphen. -/
def missingEnd (cs : List Char) : List Char :=
  if cs.getLast? = some '-' then [] else ['-']

/-- The text with a hyphen added at each end that lacks one. -/
def hyphened (cs : List Char) : List Char :=
  missingStart cs ++ cs ++ missingEnd cs

theorem hyphenateStart_eq (cs : List Char) : hyphenateStart cs = missingStart cs ++ cs := by
  unfold hyphenateStart missingStart
  split
  · rfl
  · rename_i hhead
    have hne : cs.head? ≠ some '-' := by
      intro heq
      obtain ⟨rest, rfl⟩ := List.head?_eq_some_iff.mp heq
      exact hhead rest rfl
    rw [if_neg hne]
    rfl

theorem hyphenate_eq_hyphened (h : cs ≠ []) : hyphenate cs = hyphened cs := by
  rw [hyphenate, hyphenateStart_eq, hyphenateEnd,
    List.getLast?_append_of_ne_nil _ h, hyphened, missingEnd]
  split <;> simp

theorem head?_hyphenate (cs : List Char) : (hyphenate cs).head? = some '-' := by
  have hstart : ∃ rest, hyphenateStart cs = '-' :: rest := by
    unfold hyphenateStart
    split <;> exact ⟨_, rfl⟩
  obtain ⟨rest, hrest⟩ := hstart
  rw [hyphenate, hrest, hyphenateEnd]
  split <;> rfl

theorem getLast?_hyphenate (cs : List Char) : (hyphenate cs).getLast? = some '-' := by
  unfold hyphenate hyphenateEnd
  split
  · assumption
  · exact List.getLast?_concat

/-- Hyphens are all that is added. -/
theorem mem_hyphened_iff {c : Char} (hc : c ≠ '-') : c ∈ hyphened cs ↔ c ∈ cs := by
  have hstart : c ∉ missingStart cs := by
    unfold missingStart
    split <;> simp [hc]
  have hend : c ∉ missingEnd cs := by
    unfold missingEnd
    split <;> simp [hc]
  rw [hyphened, List.mem_append, List.mem_append, or_iff_left hend, or_iff_right hstart]

theorem encode_ne_nil (h : cs ≠ []) : Percent.encode cs ≠ [] := by
  intro hnil
  exact h (Percent.encode_inj hnil)

/-- **Hyphenation commutes with encoding.** -/
theorem hyphenate_encode (h : cs ≠ []) :
    hyphenate (Percent.encode cs) = Percent.encode (hyphened cs) := by
  have hstart : missingStart (Percent.encode cs) = Percent.encode (missingStart cs) := by
    unfold missingStart
    simp only [Percent.head?_encode_eq_hyphen_iff]
    split <;> rfl
  have hend : missingEnd (Percent.encode cs) = Percent.encode (missingEnd cs) := by
    unfold missingEnd
    simp only [Percent.getLast?_encode_eq_hyphen_iff]
    split <;> rfl
  rw [hyphenate_eq_hyphened (encode_ne_nil h), hyphened, hstart, hend, hyphened,
    Percent.encode_append, Percent.encode_append]

/-! ## Folding -/

theorem accents_ne : ∀ pair ∈ accents, pair.2 ≠ pair.1 := by decide

/-- Folding changes the accented letters of the table. -/
theorem foldAccent_eq_self_iff {c : Char} : foldAccent c = c ↔ c ∉ accents.map Prod.fst := by
  unfold foldAccent
  split
  · rename_i accented plain hfind
    have hmem : (accented, plain) ∈ accents := List.mem_of_find?_eq_some hfind
    have haccented : accented = c := by simpa using List.find?_some hfind
    have hplain : plain ≠ c := by
      rw [← haccented]
      exact accents_ne _ hmem
    have hc : c ∈ accents.map Prod.fst := List.mem_map.mpr ⟨_, hmem, haccented⟩
    exact iff_of_false hplain (not_not_intro hc)
  · rename_i hfind
    have hc : c ∉ accents.map Prod.fst := by
      intro hc
      obtain ⟨pair, hmem, rfl⟩ := List.mem_map.mp hc
      simpa using List.find?_eq_none.mp hfind pair hmem
    exact iff_of_true rfl hc

theorem foldAccent_foldSpace_eq_self_iff {c : Char} :
    foldAccent (foldSpace c) = c ↔ c ≠ ' ' ∧ c ∉ accents.map Prod.fst := by
  by_cases hc : c = ' '
  · subst hc
    decide
  · rw [foldSpace, if_neg hc, foldAccent_eq_self_iff]
    exact (and_iff_right hc).symm

/-- A text is its own folded form when it has no space and no letter of the table. -/
theorem fold_eq_self_iff : fold cs = cs ↔ ∀ c ∈ cs, c ≠ ' ' ∧ c ∉ accents.map Prod.fst := by
  have hmap : fold cs = cs ↔ ∀ c ∈ cs, foldAccent (foldSpace c) = id c := by
    rw [← List.map_inj_left, List.map_id]
    rfl
  rw [hmap]
  exact forall_congr' fun c => forall_congr' fun _ => foldAccent_foldSpace_eq_self_iff

theorem fold_ne_nil (h : cs ≠ []) : fold cs ≠ [] := by
  simpa [fold] using h

/-- Folding leaves a hyphen at an end, so it never makes a hyphen missing. -/
theorem length_missingStart_fold_le : (missingStart (fold cs)).length ≤ (missingStart cs).length := by
  by_cases hcs : cs.head? = some '-'
  · have hfold : (fold cs).head? = some '-' := by
      rw [fold, List.head?_map, hcs]
      decide
    rw [missingStart, if_pos hfold]
    exact Nat.zero_le _
  · rw [missingStart, missingStart, if_neg hcs]
    split <;> simp

theorem length_missingEnd_fold_le : (missingEnd (fold cs)).length ≤ (missingEnd cs).length := by
  by_cases hcs : cs.getLast? = some '-'
  · have hfold : (fold cs).getLast? = some '-' := by
      rw [fold, List.getLast?_map, hcs]
      decide
    rw [missingEnd, if_pos hfold]
    exact Nat.zero_le _
  · rw [missingEnd, missingEnd, if_neg hcs]
    split <;> simp

/-- Hyphens do not hide what folding changes. -/
theorem hyphened_fold_eq_iff : hyphened (fold cs) = hyphened cs ↔ fold cs = cs := by
  constructor
  · intro h
    have hlength := congrArg List.length h
    have hfold : (fold cs).length = cs.length := List.length_map _
    have hstart : (missingStart (fold cs)).length ≤ (missingStart cs).length :=
      length_missingStart_fold_le
    have hend : (missingEnd (fold cs)).length ≤ (missingEnd cs).length := length_missingEnd_fold_le
    simp only [hyphened, List.length_append] at hlength
    -- the texts are of one length, so as many hyphens are missing at each end of both
    have hstart' : (missingStart (fold cs)).length = (missingStart cs).length := by omega
    rw [hyphened, hyphened, List.append_assoc, List.append_assoc] at h
    exact (List.append_inj (List.append_inj h hstart').2 hfold).1
  · intro h
    rw [h]

/-! ## One slug -/

/-- The text begins and ends with a hyphen, and is made of what may stand in a path. -/
structure IsSlug (slug : String) : Prop where
  first : slug.toList.head? = some '-'
  last : slug.toList.getLast? = some '-'
  encoded : Percent.IsEncoded slug.toList

theorem toList_rawSlug (h : cs ≠ []) : (rawSlug cs).toList = Percent.encode (hyphened cs) := by
  rw [rawSlug, String.toList_ofList, hyphenate_encode h]

theorem toList_foldedSlug (h : cs ≠ []) :
    (foldedSlug cs).toList = Percent.encode (hyphened (fold cs)) := by
  rw [foldedSlug, String.toList_ofList, hyphenate_encode (fold_ne_nil h)]

theorem isSlug_rawSlug (h : cs ≠ []) : IsSlug (rawSlug cs) where
  first := by
    rw [rawSlug, String.toList_ofList]
    exact head?_hyphenate _
  last := by
    rw [rawSlug, String.toList_ofList]
    exact getLast?_hyphenate _
  encoded := by
    rw [toList_rawSlug h]
    exact Percent.isEncoded_encode _

theorem isSlug_foldedSlug (h : cs ≠ []) : IsSlug (foldedSlug cs) :=
  isSlug_rawSlug (fold_ne_nil h)

theorem IsSlug.not_isBlank {slug : String} (h : IsSlug slug) : isBlank slug = false :=
  isBlank_eq_false_iff.mpr ⟨'-', List.mem_of_head? h.first, by decide⟩

/-- The slugs of a base coincide when folding changes nothing in it. -/
theorem rawSlug_eq_foldedSlug_iff (h : cs ≠ []) :
    rawSlug cs = foldedSlug cs ↔ ∀ c ∈ cs, c ≠ ' ' ∧ c ∉ accents.map Prod.fst := by
  rw [← fold_eq_self_iff, ← hyphened_fold_eq_iff, ← String.toList_inj, toList_rawSlug h,
    toList_foldedSlug h]
  constructor
  · intro heq
    exact (Percent.encode_inj heq).symm
  · intro heq
    rw [heq]

/-! ## Slugs -/

theorem mem_slugsOf_iff {slug : String} :
    slug ∈ slugsOf keyword ↔
      Kept keyword ∧ (slug = rawSlug (base keyword) ∨ slug = foldedSlug (base keyword)) := by
  rw [← isKept_iff, slugsOf]
  by_cases h : isKept keyword = true
  · simp [h]
  · simp [h]

theorem isSlug_of_mem_slugsOf {slug : String} (h : slug ∈ slugsOf keyword) : IsSlug slug := by
  obtain ⟨hkept, rfl | rfl⟩ := mem_slugsOf_iff.mp h
  · exact isSlug_rawSlug hkept.base_ne_nil
  · exact isSlug_foldedSlug hkept.base_ne_nil

/-- The slugs are those of the keywords that are kept. -/
theorem mem_slugs_iff {keywords : List String} {slug : String} :
    slug ∈ slugs keywords ↔ ∃ keyword ∈ keywords, Kept keyword ∧
      (slug = rawSlug (base keyword) ∨ slug = foldedSlug (base keyword)) := by
  rw [slugs, Roster.mem_ofList, List.mem_flatMap]
  constructor
  · rintro ⟨⟨keyword, hkeyword, hslug⟩, -⟩
    exact ⟨keyword, hkeyword, mem_slugsOf_iff.mp hslug⟩
  · rintro ⟨keyword, hkeyword, h⟩
    have hslug : slug ∈ slugsOf keyword := mem_slugsOf_iff.mpr h
    exact ⟨⟨keyword, hkeyword, hslug⟩, (isSlug_of_mem_slugsOf hslug).not_isBlank⟩

theorem isSlug_of_mem_slugs {keywords : List String} {slug : String} (h : slug ∈ slugs keywords) :
    IsSlug slug := by
  obtain ⟨keyword, -, hslug⟩ := mem_slugs_iff.mp h
  exact isSlug_of_mem_slugsOf (mem_slugsOf_iff.mpr hslug)

/-- There are no slugs when no keyword is kept. -/
theorem slugs_eq_nil_iff {keywords : List String} :
    slugs keywords = [] ↔ ∀ keyword ∈ keywords, ¬ Kept keyword := by
  rw [List.eq_nil_iff_forall_not_mem]
  constructor
  · intro h keyword hkeyword hkept
    exact h _ (mem_slugs_iff.mpr ⟨keyword, hkeyword, hkept, Or.inl rfl⟩)
  · intro h slug hslug
    obtain ⟨keyword, hkeyword, hkept, -⟩ := mem_slugs_iff.mp hslug
    exact h keyword hkeyword hkept

/-- The slugs of keywords from two lists are those of either list. -/
theorem slugs_append (keywords keywords' : List String) :
    slugs (keywords ++ keywords') = Roster.union (slugs keywords) (slugs keywords') := by
  refine (Roster.ascending_ofList _).eq_of_mem_iff (Roster.ascending_ofList _) ?_
  intro slug
  show slug ∈ slugs (keywords ++ keywords') ↔ slug ∈ Roster.union (slugs keywords) (slugs keywords')
  have hsplit : slug ∈ slugs (keywords ++ keywords') ↔
      slug ∈ slugs keywords ∨ slug ∈ slugs keywords' := by
    rw [mem_slugs_iff, mem_slugs_iff, mem_slugs_iff]
    simp [or_and_right, exists_or]
  rw [Roster.mem_union, hsplit]
  constructor
  · intro h
    have hslug : IsSlug slug := h.elim isSlug_of_mem_slugs isSlug_of_mem_slugs
    exact ⟨h, hslug.not_isBlank⟩
  · exact And.left

/-- **Slugs are exactly the two encodings of each keyword, and can be read back.** The slugs of keywords
ascend, they are the raw and the folded slug of each keyword that is kept, and each of them begins and
ends with a hyphen and has no character that may not stand in a path. Decoding a slug gives the base of
its keyword, folded or not, with the hyphens that were missing at its ends. Both slugs of a keyword are
one when its base has no space and no accented letter of the table. -/
theorem slugs_encode_keywords :
    (∀ keywords : List String, Roster.Ascending (slugs keywords) ∧
      (∀ slug, slug ∈ slugs keywords ↔ ∃ keyword ∈ keywords, Kept keyword ∧
        (slug = rawSlug (base keyword) ∨ slug = foldedSlug (base keyword))) ∧
      ∀ slug ∈ slugs keywords, IsSlug slug) ∧
    (∀ keyword : String, Kept keyword →
      Percent.decode (rawSlug (base keyword)).toList =
        some ((hyphened (base keyword)).flatMap String.utf8EncodeChar) ∧
      Percent.decode (foldedSlug (base keyword)).toList =
        some ((hyphened (fold (base keyword))).flatMap String.utf8EncodeChar) ∧
      (rawSlug (base keyword) = foldedSlug (base keyword) ↔
        ∀ c ∈ base keyword, c ≠ ' ' ∧ c ∉ accents.map Prod.fst)) ∧
    ∀ keywords keywords' : List String,
      slugs (keywords ++ keywords') = Roster.union (slugs keywords) (slugs keywords') := by
  refine ⟨?_, ?_, slugs_append⟩
  · intro keywords
    exact ⟨Roster.ascending_ofList _, fun slug => mem_slugs_iff, fun slug => isSlug_of_mem_slugs⟩
  · intro keyword hkept
    have hbase := hkept.base_ne_nil
    refine ⟨?_, ?_, rawSlug_eq_foldedSlug_iff hbase⟩
    · rw [toList_rawSlug hbase, Percent.decode_encode]
    · rw [toList_foldedSlug hbase, Percent.decode_encode]

/-- A keyword with a hyphen at one end, whose two slugs differ. -/
theorem cafe_slugs_read_back :
    Kept " Café  %41-" ∧ base " Café  %41-" = "café %41-".toList ∧
      Percent.decode (rawSlug (base " Café  %41-")).toList =
        some ("-café %41-".toList.flatMap String.utf8EncodeChar) ∧
      Percent.decode (foldedSlug (base " Café  %41-")).toList =
        some ("-cafe-%41-".toList.flatMap String.utf8EncodeChar) ∧
      rawSlug (base " Café  %41-") ≠ foldedSlug (base " Café  %41-") := by
  have hkept : Kept " Café  %41-" := ⟨by decide, by decide +kernel⟩
  have hbase : base " Café  %41-" = "café %41-".toList := by decide +kernel
  have hspace : ¬ ∀ c ∈ "café %41-".toList, c ≠ ' ' ∧ c ∉ accents.map Prod.fst := by
    intro hfixed
    exact (hfixed ' ' (by decide +kernel)).1 rfl
  obtain ⟨hraw, hfolded, hone⟩ := slugs_encode_keywords.2.1 " Café  %41-" hkept
  rw [hbase] at hraw hfolded hone ⊢
  exact ⟨hkept, rfl, hraw, hfolded, fun heq => hspace (hone.mp heq)⟩

end Audience.Keyword
