import Audience.Proofs.SlugEncoding
import Mathlib.Data.Bool.AllAny

/-!
# `Audience.Proofs.AccentFolding` — which accented keywords have a plain slug

A keyword with accents is matched in paths that are written without them: each accented letter becomes
its plain letter, spaces become hyphens, and nothing is left to escape. The table of accents has most of
the letters of Western European languages, but of three families of four accents it lacks one letter
or two. Such a letter stays in the folded slug, which then has an escape in the middle of it and matches
neither way of writing a path.

## Contents
- **Accented letters.** `accentedLetters`, `IsWestern` and `unfoldedLetters`.
- **Plain slugs.** `plainChar`, `plainForm` and `plainSlug`.
- **The base.** `mem_base_iff`: where the characters of a base stem from; `isSmall_of_mem_base` and
  `unfolded_notMem_base_iff`.
- **Folding.** `fold_eq_plainForm` and `mem_fold_of_unfolded`.
- **Slugs.** `plainSlug_mem_slugs_iff`.
-/

namespace Audience.Keyword

open Text

variable {keyword : String} {c d : Char} {cs : List Char}

/-! ## Accented letters -/

/-- A letter with an accent in both cases, and the letter that it is without. -/
structure AccentedLetter where
  capital : Char
  small : Char
  plain : Char

/-- The vowels with grave, acute, circumflex and diaeresis, `a`, `n` and `o` with tilde, and `c` with
cedilla. -/
def accentedLetters : List AccentedLetter :=
  [⟨'À', 'à', 'a'⟩, ⟨'Á', 'á', 'a'⟩, ⟨'Â', 'â', 'a'⟩, ⟨'Ä', 'ä', 'a'⟩,
   ⟨'È', 'è', 'e'⟩, ⟨'É', 'é', 'e'⟩, ⟨'Ê', 'ê', 'e'⟩, ⟨'Ë', 'ë', 'e'⟩,
   ⟨'Ì', 'ì', 'i'⟩, ⟨'Í', 'í', 'i'⟩, ⟨'Î', 'î', 'i'⟩, ⟨'Ï', 'ï', 'i'⟩,
   ⟨'Ò', 'ò', 'o'⟩, ⟨'Ó', 'ó', 'o'⟩, ⟨'Ô', 'ô', 'o'⟩, ⟨'Ö', 'ö', 'o'⟩,
   ⟨'Ù', 'ù', 'u'⟩, ⟨'Ú', 'ú', 'u'⟩, ⟨'Û', 'û', 'u'⟩, ⟨'Ü', 'ü', 'u'⟩,
   ⟨'Ã', 'ã', 'a'⟩, ⟨'Ñ', 'ñ', 'n'⟩, ⟨'Õ', 'õ', 'o'⟩, ⟨'Ç', 'ç', 'c'⟩]

/-- The character is a letter or a digit of ASCII, a space, a hyphen, or an accented letter. -/
def IsWestern (c : Char) : Prop :=
  c.isAlphanum = true ∨ c = ' ' ∨ c = '-' ∨ ∃ l ∈ accentedLetters, c = l.capital ∨ c = l.small

instance : DecidablePred IsWestern := fun _ => inferInstanceAs (Decidable (_ ∨ _))

/-- The accented letters that the table of accents does not have. -/
def unfoldedLetters : List Char :=
  ['ì', 'î', 'ö', 'û', 'Ì', 'Î', 'Ö', 'Û']

theorem ne_sigma_of_isWestern (h : IsWestern c) : c ≠ 'Σ' := by
  rintro rfl
  exact absurd h (by decide)

theorem isBlankChar_western (h : IsWestern c) (hspace : c ≠ ' ') : isBlankChar c = false := by
  rcases h with hletter | rfl | rfl | ⟨l, hl, hc⟩
  · exact of_ascii (P := fun c => c.isAlphanum = true → isBlankChar c = false) (by decide)
      (toNat_lt_of_isAlphanum hletter) hletter
  · exact absurd rfl hspace
  · decide
  · have htable : ∀ l ∈ accentedLetters, isBlankChar l.capital = false ∧
        isBlankChar l.small = false := by
      decide
    rcases hc with rfl | rfl
    · exact (htable l hl).1
    · exact (htable l hl).2

/-! ## Plain slugs -/

/-- The letter without its accent, and any other character as it is. -/
def plainLetter (c : Char) : Char :=
  match accentedLetters.find? (·.small == c) with
  | some l => l.plain
  | none => c

/-- An accented letter becomes its plain letter, and a space a hyphen. -/
def plainChar (c : Char) : Char :=
  if c = ' ' then '-' else plainLetter c

/-- The text with every accented letter and every space replaced. -/
def plainForm (cs : List Char) : List Char :=
  cs.map plainChar

/-- The plain form of the base of a keyword, with hyphens around it. -/
def plainSlug (keyword : String) : String :=
  String.ofList (hyphened (plainForm (base keyword)))

/-! ## The base -/

theorem mem_of_mem_collapse (h : c ∈ collapse cs) : c ∈ cs := by
  fun_induction collapse cs with
  | case1 => exact h
  | case2 => exact h
  | case3 a b rest hpair ih =>
      rcases List.mem_cons.mp h with rfl | h
      · exact List.mem_cons.mpr (.inl hpair.1.symm)
      · exact List.mem_cons_of_mem _ (List.mem_cons_of_mem _ (ih h))
  | case4 a b rest hpair ih =>
      rcases List.mem_cons.mp h with rfl | h
      · exact List.mem_cons_self
      · exact List.mem_cons_of_mem _ (ih h)

/-- Collapsing takes spaces away, and no other character. -/
theorem mem_collapse_iff (hc : c ≠ ' ') : c ∈ collapse cs ↔ c ∈ cs := by
  refine ⟨mem_of_mem_collapse, fun h => ?_⟩
  fun_induction collapse cs with
  | case1 => exact h
  | case2 => exact h
  | case3 a b rest hpair ih =>
      obtain ⟨rfl, rfl⟩ := hpair
      simp only [List.mem_cons, hc, false_or] at h
      exact List.mem_cons_of_mem _ (ih h)
  | case4 a b rest hpair ih =>
      rcases List.mem_cons.mp h with rfl | h
      · exact List.mem_cons_self
      · exact List.mem_cons_of_mem _ (ih h)

/-- **A character of the base is in the lower case of one of the keyword.** -/
theorem mem_base_iff (h : ∀ c ∈ keyword.toList, IsWestern c) (hd : d ≠ ' ') :
    d ∈ base keyword ↔ ∃ c ∈ keyword.toList, d ∈ lowerChar c := by
  have hsigma : 'Σ' ∉ trimChars keyword.toList := fun hmem =>
    ne_sigma_of_isWestern (h _ (mem_of_mem_trimChars hmem)) rfl
  rw [base, mem_collapse_iff hd, lowerChars_eq_flatMap hsigma, List.mem_flatMap]
  constructor
  · rintro ⟨c, hc, hlower⟩
    exact ⟨c, mem_of_mem_trimChars hc, hlower⟩
  · rintro ⟨c, hc, hlower⟩
    have hspace : c ≠ ' ' := by
      rintro rfl
      rw [show lowerChar ' ' = [' '] by decide, List.mem_singleton] at hlower
      exact hd hlower
    exact ⟨c, mem_trimChars hc (isBlankChar_western (h c hc) hspace), hlower⟩

/-- The character is a western one in lower case. -/
def IsSmall (c : Char) : Prop :=
  c.isAlphanum = true ∨ c = ' ' ∨ c = '-' ∨ ∃ l ∈ accentedLetters, c = l.small

theorem unfoldedLetters_not_alphanum : ∀ u ∈ unfoldedLetters, u.isAlphanum = false :=
  List.all_iff_forall_prop.mp (by decide)

/-- A western character has one in lower case, and the table has either both of them or none. -/
theorem lowerChar_western (h : IsWestern c) : ∃ d, lowerChar c = [d] ∧ IsSmall d ∧
    (d ∈ unfoldedLetters ↔ c ∈ unfoldedLetters) := by
  have hascii : ∀ {c : Char}, c.isAlphanum = true → c ∉ unfoldedLetters := by
    intro c hc hmem
    rw [unfoldedLetters_not_alphanum c hmem] at hc
    cases hc
  rcases h with hletter | rfl | rfl | ⟨l, hl, hc⟩
  · obtain ⟨hlower, halphanum⟩ := lowerChar_of_isAlphanum hletter
    exact ⟨c.toLower, hlower, .inl halphanum, iff_of_false (hascii halphanum) (hascii hletter)⟩
  · exact ⟨' ', by decide, .inr (.inl rfl), Iff.rfl⟩
  · exact ⟨'-', by decide, .inr (.inr (.inl rfl)), Iff.rfl⟩
  · have htable : ∀ l ∈ accentedLetters, lowerChar l.capital = [l.small] ∧
        lowerChar l.small = [l.small] ∧ (l.small ∈ unfoldedLetters ↔ l.capital ∈ unfoldedLetters) := by
      decide +kernel
    obtain ⟨hcapital, hsmall, hboth⟩ := htable l hl
    have hd : IsSmall l.small := .inr (.inr (.inr ⟨l, hl, rfl⟩))
    rcases hc with rfl | rfl
    · exact ⟨l.small, hcapital, hd, hboth⟩
    · exact ⟨l.small, hsmall, hd, Iff.rfl⟩

theorem isSmall_of_mem_base (h : ∀ c ∈ keyword.toList, IsWestern c) (hd : d ∈ base keyword) :
    IsSmall d := by
  by_cases hspace : d = ' '
  · exact .inr (.inl hspace)
  · obtain ⟨c, hc, hlower⟩ := (mem_base_iff h hspace).mp hd
    obtain ⟨d', hd', hsmall, -⟩ := lowerChar_western (h c hc)
    rw [hd', List.mem_singleton] at hlower
    rw [hlower]
    exact hsmall

/-- The letters that are not folded are seen on the keyword as well as on its base. -/
theorem unfolded_notMem_base_iff (h : ∀ c ∈ keyword.toList, IsWestern c) :
    (∀ d ∈ base keyword, d ∉ unfoldedLetters) ↔ ∀ c ∈ keyword.toList, c ∉ unfoldedLetters := by
  have hne : ∀ {d : Char}, d ∈ unfoldedLetters → d ≠ ' ' := by
    rintro d hd rfl
    exact absurd hd (by decide)
  constructor
  · intro hbase c hc hunfolded
    obtain ⟨d, hlower, -, hboth⟩ := lowerChar_western (h c hc)
    have hd : d ∈ unfoldedLetters := hboth.mpr hunfolded
    refine hbase d ((mem_base_iff h (hne hd)).mpr ⟨c, hc, ?_⟩) hd
    rw [hlower]
    exact List.mem_singleton_self d
  · intro hkeyword d hd hunfolded
    obtain ⟨c, hc, hmem⟩ := (mem_base_iff h (hne hunfolded)).mp hd
    obtain ⟨d', hlower, -, hboth⟩ := lowerChar_western (h c hc)
    rw [hlower, List.mem_singleton] at hmem
    rw [hmem] at hunfolded
    exact hkeyword c hc (hboth.mp hunfolded)

/-! ## Folding -/

theorem plainLetter_of_isAlphanum (h : c.isAlphanum = true) : plainLetter c = c := by
  have htable : ∀ l ∈ accentedLetters, l.small.isAlphanum = false := by decide
  unfold plainLetter
  split
  · rename_i l hfind
    have hsmall : l.small = c := by simpa using List.find?_some hfind
    have hl := htable l (List.mem_of_find?_eq_some hfind)
    rw [hsmall, h] at hl
    cases hl
  · rfl

/-- What a small western character becomes is plain, and folding makes the same of it unless the table
lacks it. -/
theorem plain_of_isSmall (h : IsSmall c) :
    ((plainChar c).isAlphanum = true ∨ plainChar c = '-') ∧
      (c ∉ unfoldedLetters → foldAccent (foldSpace c) = plainChar c) := by
  rcases h with hletter | rfl | rfl | ⟨l, hl, rfl⟩
  · have hspace : c ≠ ' ' := by
      rintro rfl
      cases hletter
    have haccents : ∀ pair ∈ accents, pair.1.isAlphanum = false := by decide
    have hfold : foldAccent (foldSpace c) = c := by
      refine foldAccent_foldSpace_eq_self_iff.mpr ⟨hspace, ?_⟩
      intro hmem
      obtain ⟨pair, hpair, rfl⟩ := List.mem_map.mp hmem
      rw [haccents pair hpair] at hletter
      cases hletter
    rw [plainChar, if_neg hspace, plainLetter_of_isAlphanum hletter]
    exact ⟨.inl hletter, fun _ => hfold⟩
  · decide
  · decide
  · have htable : ∀ l ∈ accentedLetters,
        ((plainChar l.small).isAlphanum = true ∨ plainChar l.small = '-') ∧
          (l.small ∉ unfoldedLetters → foldAccent (foldSpace l.small) = plainChar l.small) := by
      decide +kernel
    exact htable l hl

theorem fold_eq_plainForm (h : ∀ c ∈ cs, IsSmall c) (hfolded : ∀ c ∈ cs, c ∉ unfoldedLetters) :
    fold cs = plainForm cs :=
  List.map_congr_left fun c hc => (plain_of_isSmall (h c hc)).2 (hfolded c hc)

/-- A letter that the table lacks is still there in the folded form. -/
theorem mem_fold_of_unfolded (hc : c ∈ unfoldedLetters) (hmem : c ∈ cs) : c ∈ fold cs := by
  have hkept : ∀ u ∈ unfoldedLetters, foldAccent (foldSpace u) = u :=
    List.all_iff_forall_prop.mp (by decide)
  exact List.mem_map.mpr ⟨c, hmem, hkept c hc⟩

theorem isPlain_of_mem_hyphened (h : ∀ c ∈ cs, IsSmall c) (hd : d ∈ hyphened (plainForm cs)) :
    d.isAlphanum = true ∨ d = '-' := by
  by_cases hhyphen : d = '-'
  · exact .inr hhyphen
  · obtain ⟨c, hc, rfl⟩ := List.mem_map.mp ((mem_hyphened_iff hhyphen).mp hd)
    exact (plain_of_isSmall (h c hc)).1

/-! ## Slugs -/

/-- **A western keyword has a plain slug exactly when it has no letter that the table of accents lacks.**
The plain slug is made of letters and digits of ASCII and of hyphens, so there is no escape in it. -/
theorem plainSlug_mem_slugs_iff (hwestern : ∀ c ∈ keyword.toList, IsWestern c)
    (hblank : isBlank keyword = false) :
    (plainSlug keyword ∈ slugs [keyword] ↔ ∀ c ∈ keyword.toList, c ∉ unfoldedLetters) ∧
    ∀ c ∈ (plainSlug keyword).toList, c.isAlphanum = true ∨ c = '-' := by
  have hsmall : ∀ c ∈ base keyword, IsSmall c := fun c => isSmall_of_mem_base hwestern
  have hplain : ∀ c ∈ (plainSlug keyword).toList, c.isAlphanum = true ∨ c = '-' := by
    intro c hc
    rw [plainSlug, String.toList_ofList] at hc
    exact isPlain_of_mem_hyphened hsmall hc
  have hkept : Kept keyword := by
    refine ⟨?_, hblank⟩
    intro hslash
    exact absurd (hwestern '/' (List.mem_of_head? hslash)) (by decide)
  have hencoded : (plainSlug keyword).toList = Percent.encode (hyphened (plainForm (base keyword))) := by
    rw [plainSlug, String.toList_ofList] at hplain ⊢
    refine (Percent.encode_eq_self fun c hc => Percent.isUnreserved_iff.mpr ?_).symm
    exact (hplain c hc).imp_right fun hhyphen => by simp [hhyphen]
  refine ⟨?_, hplain⟩
  rw [← unfolded_notMem_base_iff hwestern, mem_slugs_iff]
  constructor
  · -- such a letter would be in both slugs, and it is not in the plain one
    rintro ⟨k, hk, -, hslug⟩ c hc hunfolded
    obtain rfl := List.mem_singleton.mp hk
    have hne : c ≠ '-' := by
      rintro rfl
      exact absurd hunfolded (by decide)
    have hmem : c ∈ hyphened (plainForm (base k)) := by
      rcases hslug with hslug | hslug
      · rw [← String.toList_inj, hencoded, toList_rawSlug hkept.base_ne_nil] at hslug
        rw [Percent.encode_inj hslug]
        exact (mem_hyphened_iff hne).mpr hc
      · rw [← String.toList_inj, hencoded, toList_foldedSlug hkept.base_ne_nil] at hslug
        rw [Percent.encode_inj hslug]
        exact (mem_hyphened_iff hne).mpr (mem_fold_of_unfolded hunfolded hc)
    rcases isPlain_of_mem_hyphened hsmall hmem with hletter | hhyphen
    · rw [unfoldedLetters_not_alphanum c hunfolded] at hletter
      cases hletter
    · exact hne hhyphen
  · intro hfolded
    refine ⟨keyword, List.mem_singleton_self keyword, hkept, .inr ?_⟩
    rw [← String.toList_inj, hencoded, toList_foldedSlug hkept.base_ne_nil,
      fold_eq_plainForm hsmall hfolded]

/-- Letters of the table, in both cases. -/
theorem pinata_has_plain_slug :
    (∀ c ∈ "Piñata Über São-Tomé".toList, IsWestern c) ∧ isBlank "Piñata Über São-Tomé" = false ∧
    plainSlug "Piñata Über São-Tomé" = "-pinata-uber-sao-tome-" ∧
    "-pinata-uber-sao-tome-" ∈ slugs ["Piñata Über São-Tomé"] := by
  have hwestern : ∀ c ∈ "Piñata Über São-Tomé".toList, IsWestern c :=
    List.all_iff_forall_prop.mp (by decide +kernel)
  have hfolded : ∀ c ∈ "Piñata Über São-Tomé".toList, c ∉ unfoldedLetters :=
    List.all_iff_forall_prop.mp (by decide +kernel)
  have hblank : isBlank "Piñata Über São-Tomé" = false := by decide +kernel
  have hplain : plainSlug "Piñata Über São-Tomé" = "-pinata-uber-sao-tome-" := by decide +kernel
  have hmem := (plainSlug_mem_slugs_iff hwestern hblank).1.mpr hfolded
  rw [hplain] at hmem
  exact ⟨hwestern, hblank, hplain, hmem⟩

/-- **A letter that the table lacks leaves an escape in the folded slug.** -/
theorem brulee_half_folded :
    (∀ c ∈ "Crème Brûlée".toList, IsWestern c) ∧ isBlank "Crème Brûlée" = false ∧
    plainSlug "Crème Brûlée" = "-creme-brulee-" ∧
    slugs ["Crème Brûlée"] = ["-cr%C3%A8me%20br%C3%BBl%C3%A9e-", "-creme-br%C3%BBlee-"] := by
  have hwestern : ∀ c ∈ "Crème Brûlée".toList, IsWestern c :=
    List.all_iff_forall_prop.mp (by decide +kernel)
  exact ⟨hwestern, by decide +kernel⟩

end Audience.Keyword
