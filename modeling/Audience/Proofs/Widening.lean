import Audience.Definition.Merge
import Audience.Proofs.Contribution
import Mathlib.Data.List.Forall2
import Mathlib.Tactic.Choose

/-!
# `Audience.Proofs.Widening` — merging widens a compiled query

A merge adds entries to the lists of its target and leaves everything else alone. The query of the
target then only grows: each branch stays where it is among the others, with the same kind, event,
window and thresholds, and each of its lists keeps its entries. Guards and errors follow the same
direction: a signal that applies keeps applying, and one that can be built can still be built, so a
merge never turns a query into an error.

## Contents
- **The relation.** `WidensTo` on operands, leaves, conditions.
- **Branches in order.** `List.SublistForall₂` of concatenated lists.
- **More entries.** `ExtendedBy`, and `extendedBy_merge`.
- **Leaves.** `contentLeaves_widen`.
- **Signals.** `contribution_widens`: what each signal contributes, and that it does so at all.
- **Queries.** `merge_widens_query`.
-/

namespace Audience

open Text

/-! ## The relation -/

/-- A list keeps its items and may gain some; any other operand stays as it is. -/
inductive Json.WidensTo : Json → Json → Prop where
  | list {items items' : List Json} (h : items ⊆ items') : WidensTo (.list items) (.list items')
  | same (v : Json) : WidensTo v v

/-- The same operator with a wider operand. -/
structure Comparison.WidensTo (c c' : Comparison) : Prop where
  operator : c.operator = c'.operator
  operand : c.operand.WidensTo c'.operand

/-- The same test of the same property with a wider operand, however deep it stands. -/
inductive Leaf.WidensTo : Leaf → Leaf → Prop where
  | compare {property : String} {c c' : Comparison} (h : c.WidensTo c') :
      WidensTo (.compare property c) (.compare property c')
  | anyElement {property key : String} {c : Comparison} {inner inner' : Leaf}
      (h : inner.WidensTo inner') :
      WidensTo (.anyElement property key c inner) (.anyElement property key c inner')

/-- The same combination, in which each leaf has a wider one. Where all leaves have to hold, none is
added. -/
inductive Where.WidensTo : Where → Where → Prop where
  | any {leaves leaves' : List Leaf} (h : ∀ leaf ∈ leaves, ∃ leaf' ∈ leaves', leaf.WidensTo leaf') :
      WidensTo (.any leaves) (.any leaves')
  | all {leaves leaves' : List Leaf} (h : List.Forall₂ Leaf.WidensTo leaves leaves') :
      WidensTo (.all leaves) (.all leaves')
  | single {leaf leaf' : Leaf} (h : leaf.WidensTo leaf') : WidensTo (.single leaf) (.single leaf')

/-- The same kind of condition, with the same event, window, threshold, segment or partner segment, on
wider content. -/
inductive Condition.WidensTo : Condition → Condition → Prop where
  | event {window : Option Window} {name : String} {frequency : Comparison} {content content' : Where}
      (h : content.WidensTo content') :
      WidensTo (.event window name frequency content) (.event window name frequency content')
  | engagedTime {seconds : Comparison} {content content' : Where} (h : content.WidensTo content') :
      WidensTo (.engagedTime seconds content) (.engagedTime seconds content')
  | engagedCompletion {completion : Comparison} {content content' : Where}
      (h : content.WidensTo content') :
      WidensTo (.engagedCompletion completion content) (.engagedCompletion completion content')
  | hasEntered (window : Option Window) (segment : Int) :
      WidensTo (.hasEntered window segment) (.hasEntered window segment)
  | inSecondPartySegment (provider segment : String) :
      WidensTo (.inSecondPartySegment provider segment) (.inSecondPartySegment provider segment)
  | inThirdPartySegment (provider segment : String) :
      WidensTo (.inThirdPartySegment provider segment) (.inThirdPartySegment provider segment)

theorem Leaf.WidensTo.refl (leaf : Leaf) : leaf.WidensTo leaf := by
  induction leaf with
  | compare property c => exact .compare ⟨rfl, .same _⟩
  | anyElement property key c inner ih => exact .anyElement ih

theorem Json.widensTo_ofTexts {texts texts' : List String} (h : texts ⊆ texts') :
    (ofTexts texts).WidensTo (ofTexts texts') :=
  .list (List.map_subset _ h)

section Operands

variable {texts texts' : List String} (property : String) (h : texts ⊆ texts')
include h

theorem Leaf.widensTo_contains :
    (compare property (.contains texts)).WidensTo (compare property (.contains texts')) :=
  .compare ⟨rfl, Json.widensTo_ofTexts h⟩

theorem Leaf.widensTo_equalToAny :
    (compare property (.equalToAny texts)).WidensTo (compare property (.equalToAny texts')) :=
  .compare ⟨rfl, Json.widensTo_ofTexts h⟩

theorem Leaf.widensTo_listContains :
    (compare property (.listContains texts)).WidensTo (compare property (.listContains texts')) :=
  .compare ⟨rfl, Json.widensTo_ofTexts h⟩

end Operands

/-! ## Branches in order -/

section Branches

variable {α β : Type} {R : α → β → Prop}

theorem sublistForall₂_append {as as' : List α} {bs bs' : List β}
    (h : List.SublistForall₂ R as bs) (h' : List.SublistForall₂ R as' bs') :
    List.SublistForall₂ R (as ++ as') (bs ++ bs') := by
  rw [List.sublistForall₂_iff] at h h' ⊢
  obtain ⟨image, himage, hsub⟩ := h
  obtain ⟨image', himage', hsub'⟩ := h'
  exact ⟨image ++ image', List.rel_append himage himage', hsub.append hsub'⟩

/-- Lists that are put together from parts widen when each part does. -/
theorem sublistForall₂_flatMap {γ : Type} {part : γ → List α} {part' : γ → List β}
    (h : ∀ c, List.SublistForall₂ R (part c) (part' c)) (cs : List γ) :
    List.SublistForall₂ R (cs.flatMap part) (cs.flatMap part') := by
  induction cs with
  | nil => exact .nil
  | cons c rest ih =>
      rw [List.flatMap_cons, List.flatMap_cons]
      exact sublistForall₂_append (h c) ih

theorem sublistForall₂_map_of_sublist {γ : Type} {f : γ → α} {g : γ → β}
    (hfg : ∀ c, R (f c) (g c)) {cs cs' : List γ} (h : cs.Sublist cs') :
    List.SublistForall₂ R (cs.map f) (cs'.map g) := by
  refine List.sublistForall₂_iff.mpr ⟨cs.map g, ?_, h.map g⟩
  rw [List.forall₂_map_left_iff, List.forall₂_map_right_iff]
  exact List.forall₂_same.mpr fun c _ => hfg c

theorem sublistForall₂_singleton {a : α} {b : β} (h : R a b) : List.SublistForall₂ R [a] [b] :=
  .cons h .nil

end Branches

/-! ## More entries -/

namespace Definition

/-- The second definition has all signals of the first, and perhaps further entries in the lists that
a merge adds to. -/
structure ExtendedBy (d d' : Definition) : Prop where
  frequency : d.frequency = d'.frequency
  days : d.days = d'.days
  pageView : d.pageView = d'.pageView
  linkClick : d.linkClick = d'.linkClick
  slotClick : d.slotClick = d'.slotClick
  engagedTime : d.engagedTime = d'.engagedTime
  engagedCompletion : d.engagedCompletion = d'.engagedCompletion
  platformCode : d.platformCode = d'.platformCode
  contextId : d.contextId = d'.contextId
  domains : d.domains = d'.domains
  keywords : Roster.Includes (d.keywords.getD []) (d'.keywords.getD [])
  taxonomy : Roster.Includes (d.taxonomy.getD []) (d'.taxonomy.getD [])
  urls : Roster.Includes (d.urls.getD []) (d'.urls.getD [])
  segments : Roster.Includes (d.segments.getD []) (d'.segments.getD [])
  secondPartySegments :
    Roster.Includes (d.secondPartySegments.getD []) (d'.secondPartySegments.getD [])
  thirdPartySegments :
    Roster.Includes (d.thirdPartySegments.getD []) (d'.thirdPartySegments.getD [])

/-- A merged list has the entries of both lists. -/
theorem sameEntries_mergeField {α : Type} [Roster.Entry α] (target source : Option (List α)) :
    Roster.SameEntries ((mergeField target source).getD []) (target.getD [] ++ source.getD []) := by
  unfold mergeField
  split
  · simpa using Roster.SameEntries.refl _
  · simpa using Roster.SameEntries.refl _
  · exact Roster.SameEntries.refl _
  · exact Roster.sameEntries_union _ _

/-- A merged list keeps the entries of its target. -/
theorem includes_mergeField {α : Type} [Roster.Entry α] (target source : Option (List α)) :
    Roster.Includes (target.getD []) ((mergeField target source).getD []) := by
  intro a hblank ha
  exact (sameEntries_mergeField target source a hblank).mpr (List.mem_append_left _ ha)

theorem extendedBy_merge (target source : Definition) :
    target.ExtendedBy (target.merge source) where
  frequency := rfl
  days := rfl
  pageView := rfl
  linkClick := rfl
  slotClick := rfl
  engagedTime := rfl
  engagedCompletion := rfl
  platformCode := rfl
  contextId := rfl
  domains := rfl
  keywords := includes_mergeField _ _
  taxonomy := includes_mergeField _ _
  urls := includes_mergeField _ _
  segments := includes_mergeField _ _
  secondPartySegments := includes_mergeField _ _
  thirdPartySegments := includes_mergeField _ _

theorem populated_of_includes {entries entries' : Option (List String)}
    (h : Roster.Includes (entries.getD []) (entries'.getD [])) (hpop : populated entries = true) :
    populated entries' = true := by
  obtain ⟨s, hs, hblank⟩ := populated_iff.mp hpop
  exact populated_iff.mpr ⟨s, h s hblank hs, hblank⟩

end Definition

/-! ## Parts of a source -/

namespace Definition.ExtendedBy

variable {d d' : Definition} (h : d.ExtendedBy d') (settings : Settings)

include h

theorem hasContent (hcontent : d.hasContent = true) : d'.hasContent = true := by
  unfold Definition.hasContent hasKeywords hasTaxonomy hasUrls at hcontent ⊢
  rw [hasObsidianId_eq, Bool.or_eq_true, Bool.or_eq_true, Bool.or_eq_true] at hcontent ⊢
  rw [← h.contextId]
  rcases hcontent with ((hpop | hpop) | hpop) | hcontext
  · exact Or.inl (Or.inl (Or.inl (populated_of_includes h.keywords hpop)))
  · exact Or.inl (Or.inl (Or.inr (populated_of_includes h.taxonomy hpop)))
  · exact Or.inl (Or.inr (populated_of_includes h.urls hpop))
  · exact Or.inr hcontext

theorem keywordRoster_subset :
    (Source.ofDefinition settings d).keywords ⊆ (Source.ofDefinition settings d').keywords :=
  (Roster.ofList_sublist h.keywords).subset

theorem clientUrls_subset :
    (Source.ofDefinition settings d).clientUrls ⊆ (Source.ofDefinition settings d').clientUrls := by
  unfold Source.clientUrls
  rw [Source.slugs_ofDefinition, Source.slugs_ofDefinition]
  exact (Roster.union_sublist h.urls (Keyword.includes_slugs h.keywords)).subset

theorem slotCodes_subset :
    (Source.ofDefinition settings d).slotCodes ⊆ (Source.ofDefinition settings d').slotCodes := by
  have hcodes := (Roster.ofList_sublist h.segments).subset
  unfold Source.slotCodes
  rw [Source.definition_ofDefinition, Source.definition_ofDefinition, ← h.platformCode]
  cases d.platformCode with
  | none => exact hcodes
  | some own =>
      intro code hcode
      obtain ⟨hmem, hblank⟩ := Roster.mem_add.mp hcode
      exact Roster.mem_add.mpr ⟨hmem.imp_left fun hmem => hcodes hmem, hblank⟩

theorem enteredSegments_sublist :
    (Signal.enteredSegments d).Sublist (Signal.enteredSegments d') := by
  have hsub : Signal.enteredSegments d ⊆ Signal.enteredSegments d' := by
    intro n hn
    obtain ⟨code, hcode, hblank, hread⟩ := Signal.mem_enteredSegments.mp hn
    exact Signal.mem_enteredSegments.mpr ⟨code, h.segments code hblank hcode, hblank, hread⟩
  exact (Roster.ascending_sorted _).sublist_of_subset (Roster.ascending_sorted _) hsub

end Definition.ExtendedBy

/-! ## Leaves -/

theorem ne_nil_of_subset {α : Type} {as bs : List α} (h : as ⊆ bs) (hne : as ≠ []) : bs ≠ [] := by
  rintro rfl
  exact hne (List.subset_nil.mp h)

theorem keywordLeaves_widen {keywords keywords' : List String} (h : keywords ⊆ keywords') :
    ∀ leaf ∈ keywordLeaves keywords, ∃ leaf' ∈ keywordLeaves keywords', leaf.WidensTo leaf' := by
  intro leaf hleaf
  unfold keywordLeaves at hleaf
  split at hleaf
  · exact absurd hleaf (by simp)
  · rename_i hne
    have hne' : keywords' ≠ [] := ne_nil_of_subset h (by simpa using hne)
    have hterms : Keyword.terms keywords ⊆ Keyword.terms keywords' := List.map_subset _ h
    simp only [List.mem_cons, List.not_mem_nil, or_false] at hleaf
    rcases hleaf with rfl | rfl | rfl | rfl | rfl
    · exact ⟨_, by simp [keywordLeaves, hne'], Leaf.widensTo_contains _ hterms⟩
    · exact ⟨_, by simp [keywordLeaves, hne'], Leaf.widensTo_contains _ hterms⟩
    · exact ⟨_, by simp [keywordLeaves, hne'], Leaf.widensTo_equalToAny _ h⟩
    · exact ⟨_, by simp [keywordLeaves, hne'], Leaf.widensTo_equalToAny _ h⟩
    · exact ⟨_, by simp [keywordLeaves, hne'], Leaf.widensTo_listContains _ h⟩

theorem urlLeaves_widen {urls urls' : List String} (h : urls ⊆ urls') :
    ∀ leaf ∈ urlLeaves urls, ∃ leaf' ∈ urlLeaves urls', leaf.WidensTo leaf' := by
  intro leaf hleaf
  unfold urlLeaves at hleaf
  split at hleaf
  · exact absurd hleaf (by simp)
  · rename_i hne
    have hne' : urls' ≠ [] := ne_nil_of_subset h (by simpa using hne)
    obtain rfl := List.mem_singleton.mp hleaf
    exact ⟨_, by simp [urlLeaves, hne'], Leaf.widensTo_contains _ h⟩

variable {d d' : Definition} {settings : Settings}

theorem taxonomyLeaves_widen (h : d.ExtendedBy d') :
    ∀ leaf ∈ taxonomyLeaves d, ∃ leaf' ∈ taxonomyLeaves d', leaf.WidensTo leaf' := by
  intro leaf hleaf
  unfold taxonomyLeaves at hleaf
  split at hleaf
  · rename_i hpop
    have hpop' : d'.hasTaxonomy = true := Definition.populated_of_includes h.taxonomy hpop
    obtain rfl := List.mem_singleton.mp hleaf
    have hlabels := (Roster.ofList_sublist h.taxonomy).subset
    exact ⟨_, by simp [taxonomyLeaves, hpop'], Leaf.widensTo_listContains _ hlabels⟩
  · exact absurd hleaf (by simp)

theorem contentLeaves_widen (h : d.ExtendedBy d') :
    ∀ leaf ∈ contentLeaves (.ofDefinition settings d),
      ∃ leaf' ∈ contentLeaves (.ofDefinition settings d'), leaf.WidensTo leaf' := by
  intro leaf hleaf
  simp only [contentLeaves, List.mem_append] at hleaf ⊢
  rcases hleaf with ((hleaf | hleaf) | hleaf) | hleaf
  · obtain ⟨leaf', hmem, hwide⟩ := keywordLeaves_widen (h.keywordRoster_subset settings) leaf hleaf
    exact ⟨leaf', Or.inl (Or.inl (Or.inl hmem)), hwide⟩
  · obtain ⟨leaf', hmem, hwide⟩ := taxonomyLeaves_widen h leaf hleaf
    exact ⟨leaf', Or.inl (Or.inl (Or.inr hmem)), hwide⟩
  · -- a merge never adds a context segment
    rw [Source.definition_ofDefinition, Definition.contextLeaves_eq, h.contextId,
      ← Definition.contextLeaves_eq] at hleaf
    exact ⟨leaf, Or.inl (Or.inr hleaf), .refl leaf⟩
  · obtain ⟨leaf', hmem, hwide⟩ := urlLeaves_widen (h.clientUrls_subset settings) leaf hleaf
    exact ⟨leaf', Or.inr hmem, hwide⟩

/-! ## Signals -/

/-- One view that stays or is added. -/
theorem sublistForall₂_ite {c c' : Condition} (hwide : c.WidensTo c') {p p' : Bool}
    (hp : p = true → p' = true) :
    List.SublistForall₂ Condition.WidensTo (if p then [c] else []) (if p' then [c'] else []) := by
  cases p with
  | false => exact .nil
  | true =>
      rw [hp rfl]
      exact sublistForall₂_singleton hwide

theorem buildPageView_widens (h : d.ExtendedBy d') :
    (Signal.buildPageView (.ofDefinition settings d)).WidensTo
      (Signal.buildPageView (.ofDefinition settings d')) := by
  unfold Signal.buildPageView Source.window Source.frequency
  rw [Source.definition_ofDefinition, Source.definition_ofDefinition, h.days, h.frequency]
  exact .event (.any (contentLeaves_widen h))

theorem buildVideoView_widens (h : d.ExtendedBy d') :
    (Signal.buildVideoView (.ofDefinition settings d)).WidensTo
      (Signal.buildVideoView (.ofDefinition settings d')) := by
  unfold Signal.buildVideoView Source.window Source.frequency
  rw [Source.definition_ofDefinition, Source.definition_ofDefinition, h.days, h.frequency]
  refine .event (.any ?_)
  intro leaf hleaf
  obtain rfl := List.mem_singleton.mp hleaf
  have hterms := List.map_subset Keyword.term (h.keywordRoster_subset settings)
  exact ⟨_, List.mem_singleton_self _, Leaf.widensTo_contains _ hterms⟩

theorem buildLinkClick_widens (h : d.ExtendedBy d') {c : Condition}
    (hc : Signal.buildLinkClick (.ofDefinition settings d) = .ok c) :
    ∃ c', Signal.buildLinkClick (.ofDefinition settings d') = .ok c' ∧ c.WidensTo c' := by
  have hurls := h.clientUrls_subset settings
  unfold Signal.buildLinkClick at hc ⊢
  split at hc
  · cases hc
  · rename_i hne
    cases hc
    have hne' := ne_nil_of_subset hurls (by simpa using hne)
    rw [if_neg (by simpa using hne')]
    -- the destinations stay as configured, the URLs widen
    refine ⟨_, rfl, .event (.all ?_)⟩
    exact .cons (.refl _) (.cons (Leaf.widensTo_contains _ hurls) .nil)

/-- A condition that is built on content, and only where there is content. -/
theorem engaged_widens (h : d.ExtendedBy d') {engaged : Where → Condition} {e : MissingContent}
    (hengaged : ∀ {content content'}, content.WidensTo content' →
      (engaged content).WidensTo (engaged content')) {c : Condition}
    (hc : (if d.hasContent then
        Except.ok (engaged (.any (contentLeaves (.ofDefinition settings d))))
      else .error e) = .ok c) :
    ∃ c', (if d'.hasContent then
        Except.ok (engaged (.any (contentLeaves (.ofDefinition settings d'))))
      else .error e) = .ok c' ∧ c.WidensTo c' := by
  split at hc
  · rename_i hcontent
    cases hc
    rw [if_pos (h.hasContent hcontent)]
    exact ⟨_, rfl, hengaged (.any (contentLeaves_widen h))⟩
  · cases hc

theorem buildEngagedTime_widens (h : d.ExtendedBy d') {c : Condition}
    (hc : Signal.buildEngagedTime (.ofDefinition settings d) = .ok c) :
    ∃ c', Signal.buildEngagedTime (.ofDefinition settings d') = .ok c' ∧ c.WidensTo c' :=
  engaged_widens h .engagedTime hc

theorem buildEngagedCompletion_widens (h : d.ExtendedBy d') {c : Condition}
    (hc : Signal.buildEngagedCompletion (.ofDefinition settings d) = .ok c) :
    ∃ c', Signal.buildEngagedCompletion (.ofDefinition settings d') = .ok c' ∧ c.WidensTo c' :=
  engaged_widens h .engagedCompletion hc

theorem buildSlotClick_widens (h : d.ExtendedBy d') {c : Condition}
    (hc : Signal.buildSlotClick (.ofDefinition settings d) = .ok c) :
    ∃ c', Signal.buildSlotClick (.ofDefinition settings d') = .ok c' ∧ c.WidensTo c' := by
  have hcodes := h.slotCodes_subset settings
  unfold Signal.buildSlotClick at hc ⊢
  split at hc
  · cases hc
  · rename_i hne
    cases hc
    have hne' := ne_nil_of_subset hcodes (by simpa using hne)
    rw [if_neg (by simpa using hne')]
    exact ⟨_, rfl, .event (.single (.anyElement (Leaf.widensTo_listContains _ hcodes)))⟩

/-- A signal that applies by its flag alone, and is built into one branch. -/
theorem contribution_widens_of_flag (signal : Signal)
    {build build' : Except MissingContent Condition}
    (happlies : signal.applies d = signal.applies d')
    (hbuild : signal.build (.ofDefinition settings d) = build.map ([·]))
    (hbuild' : signal.build (.ofDefinition settings d') = build'.map ([·]))
    (hwide : ∀ c, build = .ok c → ∃ c', build' = .ok c' ∧ c.WidensTo c') {bs : List Condition}
    (hbs : d.contribution settings signal = .ok bs) :
    ∃ bs', d'.contribution settings signal = .ok bs' ∧
      List.SublistForall₂ Condition.WidensTo bs bs' := by
  unfold Definition.contribution at hbs ⊢
  rw [happlies, hbuild] at hbs
  rw [hbuild']
  split at hbs
  · rename_i happ
    obtain ⟨c, hc, rfl⟩ := map_eq_ok_iff.mp hbs
    obtain ⟨c', hc', hwidens⟩ := hwide c hc
    rw [if_pos happ, hc']
    exact ⟨[c'], rfl, sublistForall₂_singleton hwidens⟩
  · rename_i happ
    cases hbs
    rw [if_neg happ]
    exact ⟨[], rfl, .nil⟩

/-- **Each signal contributes no less, and it still contributes at all.** -/
theorem contribution_widens (h : d.ExtendedBy d') {signal : Signal} {bs : List Condition}
    (hbs : d.contribution settings signal = .ok bs) :
    ∃ bs', d'.contribution settings signal = .ok bs' ∧
      List.SublistForall₂ Condition.WidensTo bs bs' := by
  cases signal with
  | pageView =>
      rw [Definition.contribution_pageView] at hbs ⊢
      cases hbs
      refine ⟨_, rfl, sublistForall₂_ite (buildPageView_widens h) ?_⟩
      intro happ
      rw [Bool.and_eq_true] at happ ⊢
      exact ⟨h.pageView ▸ happ.1, h.hasContent happ.2⟩
  | videoView =>
      rw [Definition.contribution_videoView] at hbs ⊢
      cases hbs
      refine ⟨_, rfl, sublistForall₂_ite (buildVideoView_widens h) ?_⟩
      intro happ
      rw [Bool.and_eq_true] at happ ⊢
      exact ⟨h.pageView ▸ happ.1, Definition.populated_of_includes h.keywords happ.2⟩
  | linkClick =>
      exact contribution_widens_of_flag .linkClick h.linkClick rfl rfl
        (fun _ hc => buildLinkClick_widens h hc) hbs
  | engagedTime =>
      exact contribution_widens_of_flag .engagedTime h.engagedTime rfl rfl
        (fun _ hc => buildEngagedTime_widens h hc) hbs
  | engagedCompletion =>
      exact contribution_widens_of_flag .engagedCompletion h.engagedCompletion rfl rfl
        (fun _ hc => buildEngagedCompletion_widens h hc) hbs
  | slotClick =>
      exact contribution_widens_of_flag .slotClick h.slotClick rfl rfl
        (fun _ hc => buildSlotClick_widens h hc) hbs
  | segmentEntry =>
      rw [Definition.contribution_segmentEntry] at hbs ⊢
      cases hbs
      refine ⟨_, rfl, sublistForall₂_map_of_sublist ?_ h.enteredSegments_sublist⟩
      intro n
      rw [h.days]
      exact .hasEntered _ n
  | secondParty =>
      rw [Definition.contribution_secondParty] at hbs ⊢
      cases hbs
      exact ⟨_, rfl, sublistForall₂_map_of_sublist (fun p => .inSecondPartySegment _ _)
        (Roster.ofList_sublist h.secondPartySegments)⟩
  | thirdParty =>
      rw [Definition.contribution_thirdParty] at hbs ⊢
      cases hbs
      exact ⟨_, rfl, sublistForall₂_map_of_sublist (fun p => .inThirdPartySegment _ _)
        (Roster.ofList_sublist h.thirdPartySegments)⟩

/-! ## Queries -/

/-- The filter of a narrowed query depends on the domains alone. -/
theorem filter?_narrow_congr (h : d.domains = d'.domains) (bs bs' : List Condition) :
    (d.narrow (.any bs)).filter? = (d'.narrow (.any bs')).filter? := by
  unfold Definition.narrow Definition.hasDomains domainFilter
  rw [h]
  split <;> rfl

/-- A definition with more entries has a wider query. -/
theorem query_widens (h : d.ExtendedBy d') {q : Query} (hq : d.query settings = .ok q) :
    ∃ q', d'.query settings = .ok q' ∧ q'.filter? = q.filter? ∧
      List.SublistForall₂ Condition.WidensTo q.branches q'.branches := by
  obtain ⟨part, hpart, rfl⟩ := Definition.query_eq_ok_iff.mp hq
  -- every signal of the extended definition can make its contribution, so the query compiles
  choose part' hpart' hwidens using fun signal => contribution_widens h (hpart signal)
  refine ⟨_, Definition.query_eq_ok_iff.mpr ⟨part', hpart', rfl⟩, ?_, ?_⟩
  · exact filter?_narrow_congr h.domains.symm _ _
  · rw [Definition.branches_narrow, Definition.branches_narrow]
    exact sublistForall₂_flatMap hwidens Signal.all

/-- **Merging only widens a compiled query.** If the target compiles, so does the target with any
source merged in; the filter stays, and the branches of the first query have wider branches of the
second one in the same order. -/
theorem merge_widens_query {settings : Settings} {target : Definition} (source : Definition)
    {q : Query} (h : target.query settings = .ok q) :
    ∃ q', (target.merge source).query settings = .ok q' ∧ q'.filter? = q.filter? ∧
      List.SublistForall₂ Condition.WidensTo q.branches q'.branches :=
  query_widens (Definition.extendedBy_merge target source) h

/-- A cohort with two signals, and one with which it gains entries and two branches. -/
def sailing : Definition :=
  { name := "Sailing", keywords := some ["sailing", "/boats"], segments := some ["12", "x"],
    slotClick := true }

def yachts : Definition :=
  { name := "Yachts", keywords := some ["yacht", " "], segments := some ["3", "12"],
    secondPartySegments := some [⟨"acme", "s-1"⟩] }

theorem merge_widens_sailing :
    ∃ q q', sailing.query {} = .ok q ∧ (sailing.merge yachts).query {} = .ok q' ∧
      List.SublistForall₂ Condition.WidensTo q.branches q'.branches := by
  have hok : (sailing.query {}).isOk = true := by decide +kernel
  obtain ⟨q, hq⟩ := exists_of_isOk hok
  obtain ⟨q', hq', -, hwidens⟩ := merge_widens_query yachts hq
  exact ⟨q, q', hq, hq', hwidens⟩

end Audience
