import Audience.Proofs.SlugEncoding

/-!
# `Audience.Proofs.KeywordBlanks` — blanks around a keyword, and the paths that they hide

A keyword is trimmed before its slugs are made, so blanks around it make no difference to them. But
whether it is a path is seen on the keyword as it is given: blanks in front of a path hide that it is
one, and it has slugs after all, which no URL is likely to hold.

## Contents
- **Slugs of one keyword.** `IsPath` and `baseSlugs`: the slugs depend on the base of a keyword alone,
  unless it is a path.
- **Blanks around a keyword.** `base_surrounded`, `isPath_surrounded_iff` and `slugs_surrounded_iff`.
-/

namespace Audience.Keyword

open Text

variable {keyword before after : String} {cs : List Char}

/-! ## Slugs of one keyword -/

/-- The keyword is a path: it begins with a slash. -/
def IsPath (keyword : String) : Prop :=
  keyword.toList.head? = some '/'

instance : DecidablePred IsPath := fun _ => inferInstanceAs (Decidable (_ = _))

/-- The roster of both slugs of a base, if it is not empty. -/
def baseSlugs (base : List Char) : List String :=
  if base.isEmpty then [] else Roster.ofList [rawSlug base, foldedSlug base]

theorem slugs_of_isPath (h : IsPath keyword) : slugs [keyword] = [] := by
  rw [slugs_eq_nil_iff]
  intro k hk hkept
  obtain rfl := List.mem_singleton.mp hk
  exact hkept.1 h

theorem slugs_of_not_isPath (h : ¬ IsPath keyword) : slugs [keyword] = baseSlugs (base keyword) := by
  have hhead : (keyword.toList.head? != some '/') = true := by simpa [IsPath] using h
  have hkept : isKept keyword = !(base keyword).isEmpty := by rw [isKept, hhead, Bool.true_and]
  rw [slugs, List.flatMap_singleton, slugsOf, hkept, baseSlugs]
  cases (base keyword).isEmpty <;> rfl

theorem mem_baseSlugs {slug : String} :
    slug ∈ baseSlugs cs ↔ cs ≠ [] ∧ (slug = rawSlug cs ∨ slug = foldedSlug cs) := by
  unfold baseSlugs
  by_cases hcs : cs = []
  · simp [hcs]
  · have hslug : slug = rawSlug cs ∨ slug = foldedSlug cs → IsSlug slug := by
      rintro (rfl | rfl)
      · exact isSlug_rawSlug hcs
      · exact isSlug_foldedSlug hcs
    rw [if_neg (by simpa using hcs), Roster.mem_ofList, and_iff_right hcs]
    simp only [List.mem_cons, List.not_mem_nil, or_false]
    exact and_iff_left_of_imp fun h => (hslug h).not_isBlank

/-! ## Blanks around a keyword -/

/-- Blanks around a keyword are trimmed off. -/
theorem base_surrounded (keyword : String) (hbefore : isBlank before = true)
    (hafter : isBlank after = true) : base (before ++ keyword ++ after) = base keyword := by
  rw [base, String.toList_append, String.toList_append,
    trimChars_surrounded _ (isBlank_iff.mp hbefore) (isBlank_iff.mp hafter), base]

/-- A slash is not blank, so blanks in front of a path hide it, and blanks alone are none. -/
theorem isPath_surrounded_iff (hbefore : isBlank before = true) (hafter : isBlank after = true) :
    IsPath (before ++ keyword ++ after) ↔ before = "" ∧ IsPath keyword := by
  have hslash : isBlankChar '/' = false := by decide
  have hfirst : ∀ {blanks : List Char}, (∀ c ∈ blanks, isBlankChar c = true) →
      blanks.head? ≠ some '/' := by
    intro blanks hblanks hhead
    rw [hblanks '/' (List.mem_of_head? hhead)] at hslash
    exact absurd hslash (by simp)
  have hb := hfirst (isBlank_iff.mp hbefore)
  have ha := hfirst (isBlank_iff.mp hafter)
  rw [IsPath, IsPath, String.toList_append, String.toList_append, ← String.toList_inj]
  show _ ↔ before.toList = [] ∧ _
  cases hbs : before.toList with
  | nil =>
      cases hks : keyword.toList with
      | nil => simpa using ha
      | cons c rest => simp
  | cons c rest =>
      rw [hbs] at hb
      simpa using hb

/-- **Blanks around a keyword do not change its slugs, unless they hide a path.** Blanks behind a keyword
never do. A keyword that is a path once it is trimmed has no slugs exactly when it is one as it is. -/
theorem slugs_surrounded_iff (keyword : String) (hbefore : isBlank before = true)
    (hafter : isBlank after = true) :
    (slugs [before ++ keyword ++ after] = slugs [keyword] ↔ (IsPath keyword → before = "")) ∧
    (IsPath (trim keyword) → (slugs [keyword] = [] ↔ IsPath keyword)) := by
  have hbase := base_surrounded keyword hbefore hafter
  have hsurrounded : IsPath (before ++ keyword ++ after) ↔ before = "" ∧ IsPath keyword :=
    isPath_surrounded_iff hbefore hafter
  -- a keyword with a slash in it has a base, and so it has slugs if nothing hides them
  have hsome : '/' ∈ keyword.toList → baseSlugs (base keyword) ≠ [] := by
    intro hslash
    have hblank : isBlank keyword = false := isBlank_eq_false_iff.mpr ⟨'/', hslash, by decide⟩
    have hne : base keyword ≠ [] := by
      intro hnil
      rw [base_eq_nil_iff, hblank] at hnil
      exact absurd hnil (by simp)
    exact List.ne_nil_of_mem (mem_baseSlugs.mpr ⟨hne, Or.inl rfl⟩)
  refine ⟨?_, ?_⟩
  · by_cases hpath : IsPath keyword
    · rw [slugs_of_isPath hpath]
      by_cases hempty : before = ""
      · rw [slugs_of_isPath (hsurrounded.mpr ⟨hempty, hpath⟩)]
        exact iff_of_true rfl fun _ => hempty
      · rw [slugs_of_not_isPath fun h => hempty (hsurrounded.mp h).1, hbase]
        exact iff_of_false (hsome (List.mem_of_head? hpath)) fun h => hempty (h hpath)
    · rw [slugs_of_not_isPath hpath, slugs_of_not_isPath fun h => hpath (hsurrounded.mp h).2, hbase]
      exact iff_of_true rfl fun h => absurd h hpath
  · intro htrim
    refine ⟨fun hnil => ?_, slugs_of_isPath⟩
    by_contra hpath
    rw [slugs_of_not_isPath hpath] at hnil
    refine hsome ?_ hnil
    obtain ⟨start, rest, hkeyword, -, -⟩ := exists_blanks_around_trimChars keyword.toList
    rw [IsPath, toList_trim] at htrim
    rw [hkeyword]
    exact List.mem_append_left _ (List.mem_append_right _ (List.mem_of_head? htrim))

/-- Blanks around a path that others hide already. -/
theorem hidden_path_slugs :
    slugs ["\t" ++ " /news/" ++ "  "] = slugs [" /news/"] ∧
      IsPath (trim " /news/") ∧ slugs [" /news/"] ≠ [] := by
  have hpath : ¬ IsPath " /news/" := by decide
  have htrim : IsPath (trim " /news/") := by decide
  have hbefore : isBlank "\t" = true := by decide
  have hafter : isBlank "  " = true := by decide
  obtain ⟨heq, hnil⟩ := slugs_surrounded_iff " /news/" hbefore hafter
  exact ⟨heq.mpr fun h => absurd h hpath, htrim, fun h => hpath ((hnil htrim).mp h)⟩

/-- **A path with a space in front has a slug.** -/
theorem path_behind_space_has_slug :
    isBlank " " = true ∧ isBlank "" = true ∧ slugs ["/news/local/"] = [] ∧
      slugs [" " ++ "/news/local/" ++ ""] = ["-/news/local/-"] := by
  decide +kernel

end Audience.Keyword
