import Audience.Proofs.Contribution

/-!
# `Audience.Proofs.SameSignals` — a query depends on the signals of a definition alone

Two definitions have the same signals when their counts and flags are equal, and their lists denote
the same sets: order, repetitions and blank entries do not count, and no list is an empty one. Such
definitions compile to one query, or fail with one error. A client that watches queries for changes
can therefore reorder, clean up or rename definitions freely.

The statement compares two runs of the compiler. Each part of a source reads the lists through their
rosters, so the parts of the two sources are equal one by one; then so are the contributions.

## Contents
- **The relation.** `SameSignals`, and `SameSignals.refl`.
- **Parts of a source.** `SameSignals.clientUrls` … `SameSignals.slotCodes`: equal, one by one.
- **Two runs.** `SameSignals.contribution`, `SameSignals.query` and `SameSignals.clickersQuery`;
  `compile_eq_of_sameSignals` for both queries.
-/

namespace Audience.Definition

open Text

/-! ## The relation -/

/-- The definitions have the same signals. What is not mentioned here never reaches a query. -/
structure SameSignals (d d' : Definition) : Prop where
  frequency : d.frequency = d'.frequency
  days : d.days = d'.days
  pageView : d.pageView = d'.pageView
  linkClick : d.linkClick = d'.linkClick
  slotClick : d.slotClick = d'.slotClick
  engagedTime : d.engagedTime = d'.engagedTime
  engagedCompletion : d.engagedCompletion = d'.engagedCompletion
  platformCode : d.platformCode = d'.platformCode
  contextId : d.contextId = d'.contextId
  keywords : Roster.SameEntries (d.keywords.getD []) (d'.keywords.getD [])
  taxonomy : Roster.SameEntries (d.taxonomy.getD []) (d'.taxonomy.getD [])
  urls : Roster.SameEntries (d.urls.getD []) (d'.urls.getD [])
  segments : Roster.SameEntries (d.segments.getD []) (d'.segments.getD [])
  secondPartySegments :
    Roster.SameEntries (d.secondPartySegments.getD []) (d'.secondPartySegments.getD [])
  thirdPartySegments :
    Roster.SameEntries (d.thirdPartySegments.getD []) (d'.thirdPartySegments.getD [])
  domains : Roster.SameEntries (d.domains.getD []) (d'.domains.getD [])

/-- Every definition has its own signals. One that was changed in some lists has those of the original
as soon as these lists do. -/
theorem SameSignals.refl (d : Definition) : SameSignals d d where
  frequency := rfl
  days := rfl
  pageView := rfl
  linkClick := rfl
  slotClick := rfl
  engagedTime := rfl
  engagedCompletion := rfl
  platformCode := rfl
  contextId := rfl
  keywords := .refl _
  taxonomy := .refl _
  urls := .refl _
  segments := .refl _
  secondPartySegments := .refl _
  thirdPartySegments := .refl _
  domains := .refl _

theorem populated_congr {entries entries' : Option (List String)}
    (h : Roster.SameEntries (entries.getD []) (entries'.getD [])) :
    populated entries = populated entries' := by
  rw [populated_eq, populated_eq, Roster.ofList_congr h]

theorem slugs_congr {keywords keywords' : List String} (h : Roster.SameEntries keywords keywords') :
    Keyword.slugs keywords = Keyword.slugs keywords' := by
  -- each list of slugs includes the other for one reason
  have hsub : ∀ {as bs : List String}, Roster.SameEntries as bs →
      Roster.Includes (Keyword.slugs as) (Keyword.slugs bs) := fun h =>
    Keyword.includes_slugs fun a ha => (h a ha).mp
  refine (Roster.ascending_ofList _).eq_of_mem_iff (Roster.ascending_ofList _) ?_
  intro slug
  have hblank : ∀ {as : List String}, slug ∈ Keyword.slugs as → isBlank slug = false :=
    fun hslug => (Keyword.mem_slugs.mp hslug).2
  constructor
  · intro hslug
    exact hsub h slug (hblank hslug) hslug
  · intro hslug
    exact hsub h.symm slug (hblank hslug) hslug

/-! ## Parts of a source -/

namespace SameSignals

variable {d d' : Definition}

section Parts

variable (h : SameSignals d d') (settings : Settings)

include h

theorem hasContent : d.hasContent = d'.hasContent := by
  unfold Definition.hasContent hasKeywords hasTaxonomy hasUrls
  rw [hasObsidianId_eq, hasObsidianId_eq, populated_congr h.keywords, populated_congr h.taxonomy,
    populated_congr h.urls, h.contextId]

theorem window : (Source.ofDefinition settings d).window =
    (Source.ofDefinition settings d').window := by
  simp only [Source.window, Source.definition_ofDefinition, h.days]

theorem atLeast : (Source.ofDefinition settings d).frequency =
    (Source.ofDefinition settings d').frequency := by
  simp only [Source.frequency, Source.definition_ofDefinition, h.frequency]

theorem keywordRoster : (Source.ofDefinition settings d).keywords =
    (Source.ofDefinition settings d').keywords :=
  Roster.ofList_congr h.keywords

theorem clientUrls : (Source.ofDefinition settings d).clientUrls =
    (Source.ofDefinition settings d').clientUrls := by
  unfold Source.clientUrls
  rw [Source.slugs_ofDefinition, Source.slugs_ofDefinition, slugs_congr h.keywords]
  exact Roster.union_congr h.urls fun _ _ => Iff.rfl

theorem contentLeaves : contentLeaves (.ofDefinition settings d) =
    Audience.contentLeaves (.ofDefinition settings d') := by
  have htaxonomy : taxonomyLeaves d = taxonomyLeaves d' := by
    unfold taxonomyLeaves hasTaxonomy
    rw [populated_congr h.taxonomy, Roster.ofList_congr h.taxonomy]
  have hcontext : contextLeaves d = contextLeaves d' := by
    rw [contextLeaves_eq, contextLeaves_eq, h.contextId]
  unfold Audience.contentLeaves
  rw [h.keywordRoster, h.clientUrls, Source.definition_ofDefinition,
    Source.definition_ofDefinition, htaxonomy, hcontext]

theorem slotCodes : (Source.ofDefinition settings d).slotCodes =
    (Source.ofDefinition settings d').slotCodes := by
  simp only [Source.slotCodes, Source.definition_ofDefinition, h.platformCode,
    Roster.ofList_congr h.segments]

theorem enteredSegments : Signal.enteredSegments d = Signal.enteredSegments d' := by
  have hiff : ∀ n, n ∈ Signal.enteredSegments d ↔ n ∈ Signal.enteredSegments d' := by
    intro n
    rw [Signal.mem_enteredSegments, Signal.mem_enteredSegments]
    constructor
    · rintro ⟨code, hcode, hblank, hread⟩
      exact ⟨code, (h.segments code hblank).mp hcode, hblank, hread⟩
    · rintro ⟨code, hcode, hblank, hread⟩
      exact ⟨code, (h.segments code hblank).mpr hcode, hblank, hread⟩
  exact (Roster.ascending_sorted _).eq_of_mem_iff (Roster.ascending_sorted _) hiff

theorem narrow : d.narrow = d'.narrow := by
  funext q
  unfold Definition.narrow hasDomains domainFilter
  rw [populated_congr h.domains, Roster.ofList_congr h.domains]

theorem buildSlotClick : Signal.buildSlotClick (.ofDefinition settings d) =
    Signal.buildSlotClick (.ofDefinition settings d') := by
  unfold Signal.buildSlotClick
  rw [h.slotCodes]
  rfl

/-! ## Two runs -/

/-- Each signal contributes the same to both queries, its error included. -/
theorem contribution (signal : Signal) :
    d.contribution settings signal = d'.contribution settings signal := by
  -- the flags decide alike; after the parts are rewritten, the builders read the settings alone
  cases signal with
  | pageView =>
      apply contribution_congr
      · rw [Signal.applies, Signal.applies, h.pageView, h.hasContent]
      · simp only [Signal.build, Signal.buildPageView, h.window, h.atLeast, h.contentLeaves]
  | videoView =>
      apply contribution_congr
      · rw [Signal.applies, Signal.applies, hasKeywords, hasKeywords, h.pageView, h.hasContent,
          populated_congr h.keywords]
      · simp only [Signal.build, Signal.buildVideoView, h.window, h.atLeast, h.keywordRoster]
  | linkClick =>
      apply contribution_congr
      · rw [Signal.applies, Signal.applies, h.linkClick]
      · unfold Signal.build Signal.buildLinkClick
        rw [h.clientUrls]
        rfl
  | engagedTime =>
      apply contribution_congr
      · rw [Signal.applies, Signal.applies, h.engagedTime]
      · unfold Signal.build Signal.buildEngagedTime
        rw [h.contentLeaves, Source.definition_ofDefinition, Source.definition_ofDefinition,
          h.hasContent]
        rfl
  | engagedCompletion =>
      apply contribution_congr
      · rw [Signal.applies, Signal.applies, h.engagedCompletion]
      · unfold Signal.build Signal.buildEngagedCompletion
        rw [h.contentLeaves, Source.definition_ofDefinition, Source.definition_ofDefinition,
          h.hasContent]
        rfl
  | slotClick =>
      apply contribution_congr
      · rw [Signal.applies, Signal.applies, h.slotClick]
      · rw [Signal.build, Signal.build, h.buildSlotClick]
  | segmentEntry =>
      rw [contribution_segmentEntry, contribution_segmentEntry, h.enteredSegments, h.days]
  | secondParty =>
      rw [contribution_secondParty, contribution_secondParty,
        Roster.ofList_congr h.secondPartySegments]
  | thirdParty =>
      rw [contribution_thirdParty, contribution_thirdParty,
        Roster.ofList_congr h.thirdPartySegments]

theorem query : d.query settings = d'.query settings :=
  query_congr (h.contribution settings) h.narrow

theorem clickersQuery : d.clickersQuery settings = d'.clickersQuery settings := by
  rw [Definition.clickersQuery, Definition.clickersQuery, h.buildSlotClick]

end Parts

end SameSignals

/-- **Compilation depends on the signals alone.** Two definitions with the same signals have the same
query and the same query of clickers, or fail with the same error. -/
theorem compile_eq_of_sameSignals (settings : Settings) {d d' : Definition}
    (h : SameSignals d d') :
    d.query settings = d'.query settings ∧ d.clickersQuery settings = d'.clickersQuery settings :=
  ⟨h.query settings, h.clickersQuery settings⟩

/-- A definition with blank and repeated entries. -/
def untidy : Definition :=
  { name := "Golf", code := some " 7 ", keywords := some ["putter", " ", "golf", "putter"],
    urls := some [], segments := some ["12", "", "3"],
    secondPartySegments := some [⟨"acme", "s-1"⟩, ⟨"acme", " "⟩], linkClick := true,
    slotClick := true }

/-- The same signals written down tidily, in an older form and under another name. -/
def tidy : Definition :=
  { name := "Golf and putting", number := some "7", market := some "FR", obsidianId := some " ",
    keywords := some ["golf", "putter"], segments := some ["3", "12"],
    secondPartySegments := some [⟨"acme", "s-1"⟩], linkClick := true, slotClick := true,
    tags := some ["#golf"] }

theorem compile_untidy_eq_compile_tidy :
    SameSignals untidy tidy ∧ untidy.query {} = tidy.query {} ∧
      untidy.clickersQuery {} = tidy.clickersQuery {} := by
  have h : SameSignals untidy tidy :=
    { frequency := rfl, days := rfl, pageView := rfl, linkClick := rfl, slotClick := rfl
      engagedTime := rfl, engagedCompletion := rfl
      platformCode := by decide +kernel
      contextId := by decide +kernel
      keywords := Roster.sameEntries_iff.mpr (by decide +kernel)
      taxonomy := Roster.sameEntries_iff.mpr rfl
      urls := Roster.sameEntries_iff.mpr rfl
      segments := Roster.sameEntries_iff.mpr (by decide +kernel)
      secondPartySegments := Roster.sameEntries_iff.mpr (by decide +kernel)
      thirdPartySegments := Roster.sameEntries_iff.mpr rfl
      domains := Roster.sameEntries_iff.mpr rfl }
  exact ⟨h, compile_eq_of_sameSignals {} h⟩

end Audience.Definition
