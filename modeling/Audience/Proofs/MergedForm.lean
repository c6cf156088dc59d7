import Audience.Definition.Merge
import Audience.Proofs.RosterSet

/-!
# `Audience.Proofs.MergedForm` — what a definition is after merges

A merge treats a list in one of three ways: a source that brings nothing leaves it alone, a list that
the target lacks is taken over as it stands, and any other two lists become one roster. Read over a
whole sequence of merges the three ways stay apart, and they can be told from the lists alone: how many
sources bring entries, and whether the target has a list of its own. This closed form has no order in
it, so the order of the sources does not matter, even though a list that was taken over need not ascend.

## Contents
- **Lists that bring entries.** `bringing`, and what it holds.
- **The closed form of a list.** `MergesTo`; it determines the list, in whatever order
  (`MergesTo.eq_of_perm`).
- **One merge.** `MergesTo.mergeField`: the closed form is kept, with the source as another list.
- **Definitions.** `IsMerged`, the closed form of a definition; it is kept by one merge, and so by merges
  in turn. `mergeAll_closed_form`.
-/

namespace Audience.Definition

section Lists

variable {α : Type}

/-! ## Lists that bring entries -/

/-- The lists with entries among those that are merged in; no list and an empty one bring nothing. -/
def bringing (incoming : List (Option (List α))) : List (List α) :=
  incoming.filterMap (Option.filter fun as => !as.isEmpty)

theorem mem_bringing {incoming : List (Option (List α))} {as : List α} :
    as ∈ bringing incoming ↔ some as ∈ incoming ∧ as ≠ [] := by
  simp [bringing, Option.filter_eq_some_iff]

/-- The entries that are brought are those of all lists. -/
theorem exists_mem_bringing {incoming : List (Option (List α))} {a : α} :
    (∃ as ∈ bringing incoming, a ∈ as) ↔ ∃ list ∈ incoming, a ∈ list.getD [] := by
  constructor
  · rintro ⟨as, has, ha⟩
    exact ⟨some as, (mem_bringing.mp has).1, ha⟩
  · rintro ⟨list, hlist, ha⟩
    cases list with
    | none => exact absurd ha (by simp)
    | some as => exact ⟨as, mem_bringing.mpr ⟨hlist, List.ne_nil_of_mem ha⟩, ha⟩

theorem bringing_append_of_nothing (incoming : List (Option (List α))) {source : Option (List α)}
    (h : source.getD [] = []) : bringing (incoming ++ [source]) = bringing incoming := by
  cases source with
  | none => simp [bringing]
  | some as =>
      have has : as = [] := h
      simp [bringing, has]

theorem bringing_append_of_entries (incoming : List (Option (List α))) {as : List α}
    (h : as ≠ []) : bringing (incoming ++ [some as]) = bringing incoming ++ [as] := by
  have hkept : (some as).filter (fun as => !as.isEmpty) = some as := by simp [h]
  rw [bringing, List.filterMap_append, List.filterMap_cons_some hkept, List.filterMap_nil]
  rfl

theorem bringing_perm {incoming incoming' : List (Option (List α))} (h : incoming.Perm incoming') :
    (bringing incoming).Perm (bringing incoming') :=
  h.filterMap _

variable [Roster.Entry α]

/-! ## The closed form of a list -/

/-- What a list becomes when others are merged into it in turn. Where nothing is brought it stays as it
is; where there is none, and one list is brought, that one stands as it is; and otherwise the entries of
all lists are in one roster. -/
inductive MergesTo (own : Option (List α)) (incoming : List (Option (List α))) :
    Option (List α) → Prop
  | kept (hnone : bringing incoming = []) : MergesTo own incoming own
  | adopted {as : List α} (hown : own = none) (hone : bringing incoming = [as]) :
      MergesTo own incoming (some as)
  | united {as : List α} (hsome : bringing incoming ≠ [])
      (hmore : own = none → 2 ≤ (bringing incoming).length)
      (hentries : Roster.IsRosterOf as fun a =>
        a ∈ own.getD [] ∨ ∃ list ∈ incoming, a ∈ list.getD []) :
      MergesTo own incoming (some as)

variable {own result result' : Option (List α)} {incoming incoming' : List (Option (List α))}

/-- **The closed form has no order.** Lists that are merged in two orders have one result. -/
theorem MergesTo.eq_of_perm (h : MergesTo own incoming result) (h' : MergesTo own incoming' result')
    (hperm : incoming.Perm incoming') : result = result' := by
  have hbringing := bringing_perm hperm
  have hlength := hbringing.length_eq
  -- each way is told by the number of lists that bring entries, which both orders share
  cases h with
  | kept hnone =>
      rw [hnone, List.length_nil] at hlength
      have hnone' : bringing incoming' = [] := List.length_eq_zero_iff.mp hlength.symm
      cases h' with
      | kept _ => rfl
      | adopted _ hone => exact absurd (hnone'.symm.trans hone) (by simp)
      | united hsome _ _ => exact absurd hnone' hsome
  | @adopted as hown hone =>
      rw [hone] at hbringing hlength
      cases h' with
      | kept hnone =>
          rw [hnone] at hlength
          exact absurd hlength (by simp)
      | adopted _ hone' =>
          rw [hone', List.singleton_perm_singleton] at hbringing
          rw [hbringing]
      | united _ hmore _ =>
          have htwo := hmore hown
          rw [← hlength, List.length_singleton] at htwo
          omega
  | @united as hsome hmore hentries =>
      cases h' with
      | kept hnone =>
          rw [hnone, List.length_nil] at hlength
          exact absurd (List.length_eq_zero_iff.mp hlength) hsome
      | adopted hown hone =>
          have htwo := hmore hown
          rw [hlength, hone, List.length_singleton] at htwo
          omega
      | @united as' _ _ hentries' =>
          have hmem : ∀ a, (∃ list ∈ incoming, a ∈ list.getD []) ↔
              ∃ list ∈ incoming', a ∈ list.getD [] := fun a =>
            exists_congr fun list => and_congr_left fun _ => hperm.mem_iff
          rw [hentries.eq_of_iff hentries' fun a => or_congr_right (hmem a)]

/-- The entries of a closed form are those of all lists. -/
theorem MergesTo.mem_iff (h : MergesTo own incoming result) {a : α}
    (hblank : Roster.Entry.isBlank a = false) :
    a ∈ result.getD [] ↔ a ∈ own.getD [] ∨ ∃ list ∈ incoming, a ∈ list.getD [] := by
  cases h with
  | kept hnone =>
      rw [← exists_mem_bringing, hnone]
      simp
  | adopted hown hone =>
      rw [← exists_mem_bringing, hone, hown]
      simp
  | united _ _ hentries =>
      rw [Option.getD_some, hentries.2]
      exact and_iff_left hblank

/-- Where a list comes from nothing, something was brought. -/
theorem MergesTo.bringing_ne_nil (h : MergesTo own incoming result) (hown : own = none)
    {as : List α} (hresult : result = some as) : bringing incoming ≠ [] := by
  cases h with
  | kept _ => exact absurd (hown.symm.trans hresult) (by simp)
  | adopted _ hone => simp [hone]
  | united hsome _ _ => exact hsome

/-! ## One merge -/

theorem mergeField_of_nothing (target : Option (List α)) {source : Option (List α)}
    (h : source.getD [] = []) : mergeField target source = target := by
  cases source with
  | none => rfl
  | some as =>
      have has : as = [] := h
      rw [has]
      rfl

theorem mergeField_none_some {as : List α} (h : as ≠ []) : mergeField none (some as) = some as := by
  cases as with
  | nil => exact absurd rfl h
  | cons a rest => rfl

theorem mergeField_some_some (existing : List α) {as : List α} (h : as ≠ []) :
    mergeField (some existing) (some as) = some (Roster.union existing as) := by
  cases as with
  | nil => exact absurd rfl h
  | cons a rest => rfl

/-- A source that brings nothing leaves a list alone. -/
theorem MergesTo.mergeField_of_nothing (h : MergesTo own incoming result)
    {source : Option (List α)} (hsource : source.getD [] = []) :
    MergesTo own (incoming ++ [source]) (mergeField result source) := by
  have hbringing := bringing_append_of_nothing incoming hsource
  rw [Definition.mergeField_of_nothing result hsource]
  cases h with
  | kept hnone => exact .kept (hbringing.trans hnone)
  | adopted hown hone => exact .adopted hown (hbringing.trans hone)
  | united hsome hmore hentries =>
      refine .united (hbringing ▸ hsome) (hbringing ▸ hmore) (hentries.congr ?_)
      intro a
      rw [← exists_mem_bringing, ← exists_mem_bringing, hbringing]

/-- A list with entries is adopted where there is none, and united with one that there is. -/
theorem MergesTo.mergeField_of_entries (h : MergesTo own incoming result) {as : List α}
    (has : as ≠ []) : MergesTo own (incoming ++ [some as]) (mergeField result (some as)) := by
  have hbringing := bringing_append_of_entries incoming has
  cases hresult : result with
  | none =>
      -- only a list that nothing was brought to can be missing
      subst hresult
      cases h with
      | kept hnone =>
          rw [mergeField_none_some has]
          exact .adopted rfl (by rw [hbringing, hnone, List.nil_append])
  | some existing =>
      rw [mergeField_some_some existing has]
      have hmem : ∀ a, (∃ list ∈ incoming ++ [some as], a ∈ list.getD []) ↔
          (∃ list ∈ incoming, a ∈ list.getD []) ∨ a ∈ as := by
        intro a
        simp [or_and_right, exists_or]
      refine .united (by simp [hbringing]) ?_ ⟨Roster.ascending_ofList _, ?_⟩
      · intro hown
        have hsome := List.length_pos_iff.mpr (h.bringing_ne_nil hown hresult)
        rw [hbringing, List.length_append, List.length_singleton]
        omega
      · intro a
        show a ∈ Roster.union existing as ↔
          (a ∈ own.getD [] ∨ ∃ list ∈ incoming ++ [some as], a ∈ list.getD []) ∧ _
        rw [Roster.mem_union, hmem, ← or_assoc]
        refine and_congr_left fun hblank => or_congr_left ?_
        rw [← h.mem_iff hblank, hresult, Option.getD_some]

/-- **One merge keeps the closed form**, with the source as the last of the lists. -/
theorem MergesTo.mergeField (h : MergesTo own incoming result) (source : Option (List α)) :
    MergesTo own (incoming ++ [source]) (mergeField result source) := by
  by_cases hsource : source.getD [] = []
  · exact h.mergeField_of_nothing hsource
  · cases source with
    | none => exact absurd rfl hsource
    | some as => exact h.mergeField_of_entries hsource

/-- The same with the lists that a field of the sources holds. -/
theorem MergesTo.mergeField_map {list : Definition → Option (List α)} {sources : List Definition}
    (h : MergesTo own (sources.map list) result) (source : Definition) :
    MergesTo own ((sources ++ [source]).map list) (Definition.mergeField result (list source)) := by
  rw [List.map_append]
  exact h.mergeField (list source)

end Lists

/-! ## Definitions -/

/-- What a definition is after sources were merged into it: each of the nine lists is in closed form, and
nothing else has changed. -/
structure IsMerged (target : Definition) (sources : List Definition) (d : Definition) : Prop where
  segments : MergesTo target.segments (sources.map Definition.segments) d.segments
  accurateSegments :
    MergesTo target.accurateSegments (sources.map Definition.accurateSegments) d.accurateSegments
  volumeSegments :
    MergesTo target.volumeSegments (sources.map Definition.volumeSegments) d.volumeSegments
  obsidianSegments :
    MergesTo target.obsidianSegments (sources.map Definition.obsidianSegments) d.obsidianSegments
  keywords : MergesTo target.keywords (sources.map Definition.keywords) d.keywords
  taxonomy : MergesTo target.taxonomy (sources.map Definition.taxonomy) d.taxonomy
  urls : MergesTo target.urls (sources.map Definition.urls) d.urls
  secondPartySegments :
    MergesTo target.secondPartySegments (sources.map Definition.secondPartySegments)
      d.secondPartySegments
  thirdPartySegments :
    MergesTo target.thirdPartySegments (sources.map Definition.thirdPartySegments)
      d.thirdPartySegments
  others : d =
    { target with
      segments := d.segments, accurateSegments := d.accurateSegments
      volumeSegments := d.volumeSegments, obsidianSegments := d.obsidianSegments
      keywords := d.keywords, taxonomy := d.taxonomy, urls := d.urls
      secondPartySegments := d.secondPartySegments, thirdPartySegments := d.thirdPartySegments }

namespace IsMerged

variable {target d d' : Definition} {sources sources' : List Definition}

/-- A definition into which nothing was merged. -/
theorem start (target : Definition) : IsMerged target [] target where
  segments := .kept rfl
  accurateSegments := .kept rfl
  volumeSegments := .kept rfl
  obsidianSegments := .kept rfl
  keywords := .kept rfl
  taxonomy := .kept rfl
  urls := .kept rfl
  secondPartySegments := .kept rfl
  thirdPartySegments := .kept rfl
  others := rfl

/-- **One merge keeps the closed form** of all lists, and adds nothing to what has changed. -/
theorem merge (h : IsMerged target sources d) (source : Definition) :
    IsMerged target (sources ++ [source]) (d.merge source) where
  segments := h.segments.mergeField_map source
  accurateSegments := h.accurateSegments.mergeField_map source
  volumeSegments := h.volumeSegments.mergeField_map source
  obsidianSegments := h.obsidianSegments.mergeField_map source
  keywords := h.keywords.mergeField_map source
  taxonomy := h.taxonomy.mergeField_map source
  urls := h.urls.mergeField_map source
  secondPartySegments := h.secondPartySegments.mergeField_map source
  thirdPartySegments := h.thirdPartySegments.mergeField_map source
  others := by
    rw [h.others]
    rfl

/-- **Merges in turn keep the closed form**, with their sources behind those merged before. -/
theorem mergeAll (h : IsMerged target sources d) (next : List Definition) :
    IsMerged target (sources ++ next) (d.mergeAll next) := by
  induction next generalizing d sources with
  | nil =>
      rw [List.append_nil]
      exact h
  | cons source rest ih =>
      rw [List.append_cons]
      exact ih (h.merge source)

/-- **The closed form has no order.** Sources that are merged in two orders have one result. -/
theorem eq_of_perm (h : IsMerged target sources d) (h' : IsMerged target sources' d')
    (hperm : sources.Perm sources') : d = d' := by
  have hlists : ∀ {α : Type} (list : Definition → Option (List α)),
      (sources.map list).Perm (sources'.map list) := fun list => hperm.map list
  rw [h.others, h'.others, h.segments.eq_of_perm h'.segments (hlists _),
    h.accurateSegments.eq_of_perm h'.accurateSegments (hlists _),
    h.volumeSegments.eq_of_perm h'.volumeSegments (hlists _),
    h.obsidianSegments.eq_of_perm h'.obsidianSegments (hlists _),
    h.keywords.eq_of_perm h'.keywords (hlists _), h.taxonomy.eq_of_perm h'.taxonomy (hlists _),
    h.urls.eq_of_perm h'.urls (hlists _),
    h.secondPartySegments.eq_of_perm h'.secondPartySegments (hlists _),
    h.thirdPartySegments.eq_of_perm h'.thirdPartySegments (hlists _)]

end IsMerged

/-- What merging makes of a target is in closed form. -/
theorem isMerged_mergeAll (target : Definition) (sources : List Definition) :
    IsMerged target sources (target.mergeAll sources) :=
  (IsMerged.start target).mergeAll sources

/-- A target without keywords and taxonomy. -/
def music : Definition :=
  { name := "Music", segments := some ["40", "", "7"], urls := some [] }

/-- A source whose keywords do not ascend. -/
def jazz : Definition :=
  { name := "Jazz", keywords := some ["swing", "bebop"], segments := some ["7", "12"],
    taxonomy := some ["/music", " "], urls := some [] }

/-- Another source, without keywords. -/
def opera : Definition :=
  { name := "Opera", taxonomy := some ["/arts", "/music"], days := 7 }

/-- **The closed form of merging.** After sources were merged in turn each of the nine lists is the
target's own one where no source brings entries; it is the one list that is brought, as it stands, where
the target has none; and otherwise it is the roster of all entries. All else is the target's. The closed
form determines the definition, and every order of the sources gives the same one, although a list that
was adopted need not ascend. -/
theorem mergeAll_closed_form :
    (∀ (target : Definition) (sources : List Definition) (d : Definition),
      d = target.mergeAll sources ↔ IsMerged target sources d) ∧
    (∀ (target : Definition) (sources sources' : List Definition), sources.Perm sources' →
      target.mergeAll sources = target.mergeAll sources') ∧
    ∃ (target source : Definition) (adopted : List String),
      (target.merge source).keywords = some adopted ∧ ¬ Roster.Ascending adopted := by
  refine ⟨?_, ?_, music, jazz, ["swing", "bebop"], rfl, by decide⟩
  · intro target sources d
    have hmerged := isMerged_mergeAll target sources
    constructor
    · rintro rfl
      exact hmerged
    · intro h
      exact h.eq_of_perm hmerged (.refl sources)
  · intro target sources sources' hperm
    exact (isMerged_mergeAll target sources).eq_of_perm (isMerged_mergeAll target sources') hperm

/-- Keywords are adopted, segments and taxonomy united, and URLs kept, in either order. -/
theorem music_merged_in_either_order :
    [jazz, opera].Perm [opera, jazz] ∧ music.mergeAll [jazz, opera] = music.mergeAll [opera, jazz] ∧
      music.mergeAll [jazz, opera] =
        { name := "Music", keywords := some ["swing", "bebop"], segments := some ["12", "40", "7"],
          taxonomy := some ["/arts", "/music"], urls := some [] } := by
  have hperm : [jazz, opera].Perm [opera, jazz] := List.Perm.swap opera jazz []
  exact ⟨hperm, mergeAll_closed_form.2.1 music _ _ hperm, by decide +kernel⟩

end Audience.Definition
