import Audience.Proofs.MergedForm

/-!
# `Audience.Proofs.RepeatedMerge` — what merging a source once more changes

A list that the target lacks is adopted as it stands: it may be in any order, and hold blanks and
repetitions. When the same source is merged once more the list is there already, and what was adopted is
united with itself, which puts it in order. All other lists are united with entries that they have. So
a second merge changes an adopted list that is not a roster, and nothing else; and a third merge finds
every list in order.

## Contents
- **One list.** `mergeField_mergeField`, and `AdoptsRoster`: when the second merge of a list is idle.
- **Definitions.** `putInOrder`, what a second merge does, and `AdoptsRosters`, when it does nothing.
- **Merging again and again.** `mergeAll_replicate`, and `merge_again`.
-/

namespace Audience.Definition

section Lists

variable {α : Type} [Roster.Entry α]

/-! ## One list -/

/-- What a second merge makes of a list: one that the target had lacked is put in order. -/
def putInOrder (target merged : Option (List α)) : Option (List α) :=
  if target.isNone then merged.map Roster.ofList else merged

/-- A list that the target lacks is a roster in the source. -/
def AdoptsRoster (target source : Option (List α)) : Prop :=
  target = none → ∀ as ∈ source, Roster.IsRoster as

theorem mergeField_mergeField (target source : Option (List α)) :
    mergeField (mergeField target source) source =
      putInOrder target (mergeField target source) := by
  by_cases hsource : source.getD [] = []
  · -- the source brings nothing, neither the first time nor the second
    rw [mergeField_of_nothing _ hsource, mergeField_of_nothing _ hsource]
    cases target <;> rfl
  · cases source with
    | none => exact absurd rfl hsource
    | some as =>
        have has : as ≠ [] := hsource
        cases target with
        | none =>
            rw [mergeField_none_some has, mergeField_some_some as has, Roster.union_self]
            rfl
        | some existing =>
            rw [mergeField_some_some existing has, mergeField_some_some _ has,
              Roster.union_union_right]
            rfl

/-- **The second merge of a list is idle** exactly where no list is adopted that is not a roster. -/
theorem putInOrder_eq_self_iff (target source : Option (List α)) :
    putInOrder target (mergeField target source) = mergeField target source ↔
      AdoptsRoster target source := by
  cases target with
  | some existing => exact iff_of_true rfl fun hnone => absurd hnone (by simp)
  | none =>
      show (mergeField none source).map Roster.ofList = mergeField none source ↔ _
      rw [AdoptsRoster, forall_prop_of_true rfl]
      by_cases hsource : source.getD [] = []
      · -- an empty list is not adopted, and it is a roster
        rw [mergeField_of_nothing none hsource]
        refine iff_of_true rfl ?_
        rintro as rfl
        have has : as = [] := hsource
        rw [has]
        exact Roster.isRoster_nil
      · cases source with
        | none => exact absurd rfl hsource
        | some as =>
            have has : as ≠ [] := hsource
            rw [mergeField_none_some has, Option.map_some, Option.some_inj,
              Roster.ofList_eq_self_iff]
            simp

/-- What a merge has brought is not adopted again. -/
theorem adoptsRoster_mergeField (target source : Option (List α)) :
    AdoptsRoster (mergeField target source) source := by
  intro hnone
  rintro as rfl
  by_cases has : as = []
  · rw [has]
    exact Roster.isRoster_nil
  · cases target with
    | none =>
        rw [mergeField_none_some has] at hnone
        cases hnone
    | some existing =>
        rw [mergeField_some_some existing has] at hnone
        cases hnone

end Lists

/-! ## Definitions -/

/-- The merged definition with every list put in order that the target had lacked. -/
def adoptedInOrder (target merged : Definition) : Definition :=
  { merged with
    segments := putInOrder target.segments merged.segments
    accurateSegments := putInOrder target.accurateSegments merged.accurateSegments
    volumeSegments := putInOrder target.volumeSegments merged.volumeSegments
    obsidianSegments := putInOrder target.obsidianSegments merged.obsidianSegments
    keywords := putInOrder target.keywords merged.keywords
    taxonomy := putInOrder target.taxonomy merged.taxonomy
    urls := putInOrder target.urls merged.urls
    secondPartySegments := putInOrder target.secondPartySegments merged.secondPartySegments
    thirdPartySegments := putInOrder target.thirdPartySegments merged.thirdPartySegments }

/-- Every list that the target lacks is a roster in the source. -/
structure AdoptsRosters (target source : Definition) : Prop where
  segments : AdoptsRoster target.segments source.segments
  accurateSegments : AdoptsRoster target.accurateSegments source.accurateSegments
  volumeSegments : AdoptsRoster target.volumeSegments source.volumeSegments
  obsidianSegments : AdoptsRoster target.obsidianSegments source.obsidianSegments
  keywords : AdoptsRoster target.keywords source.keywords
  taxonomy : AdoptsRoster target.taxonomy source.taxonomy
  urls : AdoptsRoster target.urls source.urls
  secondPartySegments : AdoptsRoster target.secondPartySegments source.secondPartySegments
  thirdPartySegments : AdoptsRoster target.thirdPartySegments source.thirdPartySegments

variable (target source : Definition)

/-- **A second merge puts in order what the first one adopted**, and does nothing else. -/
theorem merge_merge :
    (target.merge source).merge source = adoptedInOrder target (target.merge source) := by
  simp only [merge, adoptedInOrder, mergeField_mergeField]

theorem adoptedInOrder_merge_eq_self_iff :
    adoptedInOrder target (target.merge source) = target.merge source ↔
      AdoptsRosters target source := by
  -- the fields that a merge does not touch are equal on both sides
  simp only [adoptedInOrder, merge, Definition.mk.injEq, true_and, and_true,
    putInOrder_eq_self_iff]
  constructor
  · rintro ⟨hkeywords, htaxonomy, hurls, hsegments, hsecond, hthird, haccurate, hvolume, hobsidian⟩
    exact ⟨hsegments, haccurate, hvolume, hobsidian, hkeywords, htaxonomy, hurls, hsecond, hthird⟩
  · intro h
    exact ⟨h.keywords, h.taxonomy, h.urls, h.segments, h.secondPartySegments,
      h.thirdPartySegments, h.accurateSegments, h.volumeSegments, h.obsidianSegments⟩

/-! ## Merging again and again -/

/-- After one merge nothing is adopted any more. -/
theorem adoptsRosters_merge : AdoptsRosters (target.merge source) source where
  segments := adoptsRoster_mergeField _ _
  accurateSegments := adoptsRoster_mergeField _ _
  volumeSegments := adoptsRoster_mergeField _ _
  obsidianSegments := adoptsRoster_mergeField _ _
  keywords := adoptsRoster_mergeField _ _
  taxonomy := adoptsRoster_mergeField _ _
  urls := adoptsRoster_mergeField _ _
  secondPartySegments := adoptsRoster_mergeField _ _
  thirdPartySegments := adoptsRoster_mergeField _ _

/-- A third merge changes nothing. -/
theorem merge_merge_merge :
    ((target.merge source).merge source).merge source = (target.merge source).merge source := by
  rw [merge_merge (target.merge source), adoptedInOrder_merge_eq_self_iff]
  exact adoptsRosters_merge target source

/-- **Merges after the second change nothing**, however many there are. -/
theorem mergeAll_replicate (n : Nat) :
    target.mergeAll (List.replicate (n + 2) source) = (target.merge source).merge source := by
  induction n with
  | zero => rfl
  | succ n ih =>
      rw [List.replicate_succ', mergeAll, List.foldl_append]
      show (target.mergeAll (List.replicate (n + 2) source)).merge source = _
      rw [ih, merge_merge_merge]

/-- **What merging a source again changes.** A second merge puts the lists in order that the first one
adopted, and changes nothing else. So it changes nothing at all exactly where every list that the target
lacks is a roster in the source; and a third merge and all further ones never change anything. -/
theorem merge_again (target source : Definition) :
    (target.merge source).merge source = adoptedInOrder target (target.merge source) ∧
    ((target.merge source).merge source = target.merge source ↔ AdoptsRosters target source) ∧
    ∀ n, target.mergeAll (List.replicate (n + 2) source) = (target.merge source).merge source := by
  refine ⟨merge_merge target source, ?_, mergeAll_replicate target source⟩
  rw [merge_merge]
  exact adoptedInOrder_merge_eq_self_iff target source

/-- A target with nothing but a name. -/
def racquets : Definition :=
  ofName "Racquets"

/-- A source whose keywords do not ascend. -/
def badminton : Definition :=
  { name := "Badminton", keywords := some ["smash", "shuttle"] }

/-- **A second merge of the same source may change the definition**: keywords that were adopted are put
in order. -/
theorem racquets_reordered :
    (racquets.merge badminton).keywords = some ["smash", "shuttle"] ∧
      (racquets.merge badminton).merge badminton ≠ racquets.merge badminton := by
  decide +kernel

end Audience.Definition
