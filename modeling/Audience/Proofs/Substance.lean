import Audience.Proofs.Contribution

/-!
# `Audience.Proofs.Substance` — no compiled condition is vacuous

A condition without leaves, a list operand without entries and a blank text match nothing, or match
everything; neither is what a definition means. Under valid settings no query holds one of them. What
lets a signal apply is decided apart from what the signal renders, so each guard has to be shown to
leave something after trimming, dropping of blanks, slugs and upper case.

The destinations of a click are the one list that is rendered as it is configured: validity gives one
host among them that is not blank, and no more.

## Contents
- **The predicate.** `IsSubstantial` on operands, leaves, conditions and queries.
- **Operands.** Rosters and terms are substantial where they have an entry.
- **Leaves.** `contentLeaves_substantial` and `contentLeaves_ne_nil`.
- **Signals.** `contribution_substantial`: what a signal contributes, for each signal.
- **Queries.** `compile_substantial`.
-/

namespace Audience

open Text

/-! ## The predicate -/

/-- Something can match the operand: a text is not blank, and a list has entries, which are texts that
are not blank. -/
def Json.IsSubstantial : Json → Prop
  | .text s => isBlank s = false
  | .list items => items ≠ [] ∧ ∀ item ∈ items, ∃ s, item = .text s ∧ isBlank s = false
  | _ => True

/-- Some destination is not blank. -/
def Settings.NamesHost (settings : Settings) : Prop :=
  ∃ host ∈ settings.linkClickDestinations, isBlank host = false

/-- The operands of a leaf are substantial. The leaf for the destinations has them as configured, and
an element of a list is selected by a key that is not blank. -/
def Leaf.IsSubstantial (settings : Settings) : Leaf → Prop
  | .compare property comparison =>
      if property = "properties.dest_url" then
        comparison.operand = .ofTexts settings.linkClickDestinations ∧ settings.NamesHost
      else comparison.operand.IsSubstantial
  | .anyElement _ _ comparison inner =>
      (∃ key, comparison.operand = .text key ∧ isBlank key = false) ∧
        inner.IsSubstantial settings

/-- There are leaves, and all of them are substantial. -/
def Where.IsSubstantial (settings : Settings) (content : Where) : Prop :=
  content.leaves ≠ [] ∧ ∀ leaf ∈ content.leaves, leaf.IsSubstantial settings

/-- All that a condition compares with is substantial, and so are the names of partner segments. -/
def Condition.IsSubstantial (settings : Settings) : Condition → Prop
  | .event _ _ frequency content =>
      frequency.operand.IsSubstantial ∧ content.IsSubstantial settings
  | .engagedTime seconds content =>
      seconds.operand.IsSubstantial ∧ content.IsSubstantial settings
  | .engagedCompletion completion content =>
      completion.operand.IsSubstantial ∧ content.IsSubstantial settings
  | .hasEntered _ _ => True
  | .inSecondPartySegment provider segment => isBlank provider = false ∧ isBlank segment = false
  | .inThirdPartySegment provider segment => isBlank provider = false ∧ isBlank segment = false

/-- All conditions of a query are substantial, its filters included. -/
def Query.IsSubstantial (settings : Settings) : Query → Prop
  | .any branches => ∀ branch ∈ branches, branch.IsSubstantial settings
  | .narrowed inner filter => inner.IsSubstantial settings ∧ filter.IsSubstantial settings

variable {settings : Settings} {d : Definition}

/-! ## Operands -/

namespace Json

theorem substantial_ofTexts {texts : List String} (hne : texts ≠ [])
    (hblank : ∀ s ∈ texts, isBlank s = false) : (ofTexts texts).IsSubstantial := by
  refine ⟨by simpa using hne, ?_⟩
  intro item hitem
  obtain ⟨s, hs, rfl⟩ := List.mem_map.mp hitem
  exact ⟨s, rfl, hblank s hs⟩

/-- A roster has no blank entry, so it only has to have one at all. -/
theorem substantial_roster {texts : List String} (hne : Roster.ofList texts ≠ []) :
    (ofTexts (Roster.ofList texts)).IsSubstantial :=
  substantial_ofTexts hne fun _ hs => (Roster.mem_ofList.mp hs).2

theorem substantial_terms {texts : List String} (hne : Roster.ofList texts ≠ []) :
    (ofTexts (Keyword.terms (Roster.ofList texts))).IsSubstantial := by
  refine substantial_ofTexts (by simpa [Keyword.terms] using hne) ?_
  intro s hs
  obtain ⟨keyword, hkeyword, rfl⟩ := List.mem_map.mp hs
  exact Keyword.not_isBlank_term (Roster.mem_ofList.mp hkeyword).2

theorem substantial_ofFloat (x : Number.Binary64) : (ofFloat x).IsSubstantial := by
  unfold ofFloat
  split <;> trivial

end Json

/-! ## Leaves -/

theorem Leaf.substantial_compare {property : String} {comparison : Comparison}
    (hproperty : property ≠ "properties.dest_url") (h : comparison.operand.IsSubstantial) :
    (Leaf.compare property comparison).IsSubstantial settings := by
  unfold Leaf.IsSubstantial
  rw [if_neg hproperty]
  exact h

theorem keywordLeaves_substantial (keywords : List String) :
    ∀ leaf ∈ keywordLeaves (Roster.ofList keywords), leaf.IsSubstantial settings := by
  intro leaf hleaf
  unfold keywordLeaves at hleaf
  split at hleaf
  · exact absurd hleaf (by simp)
  · rename_i hne
    have hne : Roster.ofList keywords ≠ [] := by simpa using hne
    have hkeywords := Json.substantial_roster hne
    have hterms := Json.substantial_terms hne
    simp only [List.mem_cons, List.not_mem_nil, or_false] at hleaf
    rcases hleaf with rfl | rfl | rfl | rfl | rfl
    · exact Leaf.substantial_compare (by decide) hterms
    · exact Leaf.substantial_compare (by decide) hterms
    · exact Leaf.substantial_compare (by decide) hkeywords
    · exact Leaf.substantial_compare (by decide) hkeywords
    · exact Leaf.substantial_compare (by decide) hkeywords

/-- A populated list has a roster with entries. -/
theorem Definition.ofList_ne_nil {entries : Option (List String)} (h : populated entries = true) :
    Roster.ofList (entries.getD []) ≠ [] := by
  rw [populated_eq] at h
  simpa using h

theorem taxonomyLeaves_substantial :
    ∀ leaf ∈ taxonomyLeaves d, leaf.IsSubstantial settings := by
  intro leaf hleaf
  unfold taxonomyLeaves at hleaf
  split at hleaf
  · rename_i h
    obtain rfl := List.mem_singleton.mp hleaf
    exact Leaf.substantial_compare (by decide) (Json.substantial_roster (Definition.ofList_ne_nil h))
  · exact absurd hleaf (by simp)

theorem contextLeaves_substantial :
    ∀ leaf ∈ contextLeaves d, leaf.IsSubstantial settings := by
  intro leaf hleaf
  rw [Definition.contextLeaves_eq] at hleaf
  split at hleaf
  · exact absurd hleaf (by simp)
  · rename_i h
    obtain rfl := List.mem_singleton.mp hleaf
    refine Leaf.substantial_compare (by decide) (Json.substantial_ofTexts (by simp) ?_)
    intro s hs
    obtain rfl := List.mem_singleton.mp hs
    -- the guard looks at the id as it is, the leaf has it in upper case
    exact not_isBlank_upper (by simpa using h)

theorem urlLeaves_substantial (urls : List String) :
    ∀ leaf ∈ urlLeaves (Roster.ofList urls), leaf.IsSubstantial settings := by
  intro leaf hleaf
  unfold urlLeaves at hleaf
  split at hleaf
  · exact absurd hleaf (by simp)
  · rename_i h
    obtain rfl := List.mem_singleton.mp hleaf
    exact Leaf.substantial_compare (by decide) (Json.substantial_roster (by simpa using h))

theorem contentLeaves_substantial (s : Source) :
    ∀ leaf ∈ contentLeaves s, leaf.IsSubstantial settings := by
  intro leaf hleaf
  simp only [contentLeaves, List.mem_append] at hleaf
  rcases hleaf with ((h | h) | h) | h
  · exact keywordLeaves_substantial _ leaf h
  · exact taxonomyLeaves_substantial leaf h
  · exact contextLeaves_substantial leaf h
  · exact urlLeaves_substantial _ leaf h

/-- **Content has leaves.** Each of the four signals of content brings its own leaf. -/
theorem contentLeaves_ne_nil (h : d.hasContent = true) :
    contentLeaves (.ofDefinition settings d) ≠ [] := by
  simp only [Definition.hasContent, Bool.or_eq_true] at h
  simp only [contentLeaves, ne_eq, List.append_eq_nil_iff, not_and_or]
  rcases h with ((h | h) | h) | h
  · have hne := Definition.ofList_ne_nil h
    left; left; left
    simp [keywordLeaves, Source.keywords, hne]
  · left; left; right
    simp [taxonomyLeaves, h]
  · -- a URL is in the roster whatever slugs come beside it
    right
    obtain ⟨url, hurl, hblank⟩ := Definition.populated_iff.mp h
    have hmem : url ∈ (Source.ofDefinition settings d).clientUrls :=
      Roster.mem_union.mpr ⟨Or.inl hurl, hblank⟩
    simp [urlLeaves, List.ne_nil_of_mem hmem]
  · left; right
    rw [Definition.hasObsidianId_eq, Bool.not_eq_true'] at h
    simp [Definition.contextLeaves_eq, h]

/-- A condition on one leaf has leaves, and that leaf is all of them. -/
theorem Where.substantial_of_leaves_eq {content : Where} {leaf : Leaf}
    (hleaves : content.leaves = [leaf]) (h : leaf.IsSubstantial settings) :
    content.IsSubstantial settings := by
  refine ⟨by simp [hleaves], ?_⟩
  intro leaf' hleaf'
  rw [hleaves] at hleaf'
  obtain rfl := List.mem_singleton.mp hleaf'
  exact h

/-- The content of a view or of engaged time is substantial. -/
theorem content_substantial (h : d.hasContent = true) :
    (Where.any (contentLeaves (.ofDefinition settings d))).IsSubstantial settings :=
  ⟨contentLeaves_ne_nil h, contentLeaves_substantial _⟩

/-! ## Signals -/

/-- Valid settings name a host and a key. -/
theorem Settings.validate_eq_ok (h : settings.validate = .ok ()) :
    settings.NamesHost ∧ isBlank settings.slotTargetingKey = false := by
  unfold Settings.validate at h
  split at h
  · cases h
  · rename_i hhosts
    split at h
    · cases h
    · split at h
      · cases h
      · rename_i hkey
        refine ⟨?_, by simpa using hkey⟩
        simpa [Settings.NamesHost] using hhosts

theorem buildLinkClick_substantial (hhost : settings.NamesHost) {c : Condition}
    (h : Signal.buildLinkClick (.ofDefinition settings d) = .ok c) : c.IsSubstantial settings := by
  unfold Signal.buildLinkClick at h
  split at h
  · cases h
  · rename_i hurls
    cases h
    refine ⟨trivial, by simp [Where.leaves], ?_⟩
    intro leaf hleaf
    rcases List.mem_cons.mp hleaf with rfl | hleaf
    · -- the destinations are rendered as they are configured
      unfold Leaf.IsSubstantial
      rw [if_pos rfl]
      exact ⟨rfl, hhost⟩
    · obtain rfl := List.mem_singleton.mp hleaf
      have hne : (Source.ofDefinition settings d).clientUrls ≠ [] := by simpa using hurls
      exact Leaf.substantial_compare (by decide)
        (Json.substantial_ofTexts hne fun _ hs => (Roster.mem_union.mp hs).2)

/-- A condition that is built on content, and only where there is content. -/
theorem engaged_substantial {engaged : Where → Condition} {e : MissingContent}
    (hengaged : ∀ content, content.IsSubstantial settings →
      (engaged content).IsSubstantial settings) {c : Condition}
    (h : (if d.hasContent then
        Except.ok (engaged (.any (contentLeaves (.ofDefinition settings d))))
      else .error e) = .ok c) : c.IsSubstantial settings := by
  split at h
  · rename_i hcontent
    cases h
    exact hengaged _ (content_substantial hcontent)
  · cases h

theorem buildEngagedTime_substantial {c : Condition}
    (h : Signal.buildEngagedTime (.ofDefinition settings d) = .ok c) :
    c.IsSubstantial settings := by
  refine engaged_substantial ?_ h
  intro content hcontent
  exact ⟨trivial, hcontent⟩

theorem buildEngagedCompletion_substantial {c : Condition}
    (h : Signal.buildEngagedCompletion (.ofDefinition settings d) = .ok c) :
    c.IsSubstantial settings := by
  refine engaged_substantial ?_ h
  intro content hcontent
  exact ⟨Json.substantial_ofFloat _, hcontent⟩

theorem slotCodes_not_blank {code : String} {s : Source} (h : code ∈ s.slotCodes) :
    isBlank code = false := by
  unfold Source.slotCodes at h
  split at h
  · exact (Roster.mem_ofList.mp h).2
  · exact (Roster.mem_add.mp h).2

theorem buildSlotClick_substantial (hkey : isBlank settings.slotTargetingKey = false)
    {c : Condition} (h : Signal.buildSlotClick (.ofDefinition settings d) = .ok c) :
    c.IsSubstantial settings := by
  unfold Signal.buildSlotClick at h
  split at h
  · cases h
  · rename_i hcodes
    cases h
    have hinner : (Leaf.compare "value" (.listContains
        (Source.ofDefinition settings d).slotCodes)).IsSubstantial settings :=
      Leaf.substantial_compare (by decide)
        (Json.substantial_ofTexts (by simpa using hcodes) fun _ hs => slotCodes_not_blank hs)
    exact ⟨trivial, Where.substantial_of_leaves_eq rfl
      ⟨⟨settings.slotTargetingKey, rfl, hkey⟩, hinner⟩⟩

theorem not_blank_of_mem_partners {p : PartnerSegment} {ps : List PartnerSegment}
    (h : p ∈ Roster.ofList ps) : isBlank p.provider = false ∧ isBlank p.segment = false := by
  have hblank : (isBlank p.provider || isBlank p.segment) = false := (Roster.mem_ofList.mp h).2
  simpa using hblank

/-- **What a signal contributes is substantial.** -/
theorem contribution_substantial (hhost : settings.NamesHost)
    (hkey : isBlank settings.slotTargetingKey = false) {signal : Signal} {bs : List Condition}
    (h : d.contribution settings signal = .ok bs) : ∀ b ∈ bs, b.IsSubstantial settings := by
  intro b hb
  unfold Definition.contribution at h
  split at h
  · rename_i happlies
    cases signal with
    | pageView =>
        cases h
        obtain rfl := List.mem_singleton.mp hb
        simp only [Signal.applies, Bool.and_eq_true] at happlies
        exact ⟨trivial, content_substantial happlies.2⟩
    | videoView =>
        cases h
        obtain rfl := List.mem_singleton.mp hb
        simp only [Signal.applies, Bool.and_eq_true] at happlies
        -- content alone would not do: the title is matched by the keywords
        have hterms := Json.substantial_terms (Definition.ofList_ne_nil happlies.2)
        exact ⟨trivial, Where.substantial_of_leaves_eq rfl
          (Leaf.substantial_compare (by decide) hterms)⟩
    | linkClick =>
        exact forall_mem_of_map h (fun _ hc => buildLinkClick_substantial hhost hc) b hb
    | engagedTime =>
        exact forall_mem_of_map h (fun _ hc => buildEngagedTime_substantial hc) b hb
    | engagedCompletion =>
        exact forall_mem_of_map h (fun _ hc => buildEngagedCompletion_substantial hc) b hb
    | slotClick =>
        exact forall_mem_of_map h (fun _ hc => buildSlotClick_substantial hkey hc) b hb
    | segmentEntry =>
        cases h
        obtain ⟨n, -, rfl⟩ := List.mem_map.mp hb
        trivial
    | secondParty =>
        cases h
        obtain ⟨p, hp, rfl⟩ := List.mem_map.mp hb
        exact not_blank_of_mem_partners hp
    | thirdParty =>
        cases h
        obtain ⟨p, hp, rfl⟩ := List.mem_map.mp hb
        exact not_blank_of_mem_partners hp
  · cases h
    exact absurd hb (by simp)

/-! ## Queries -/

theorem domainFilter_substantial (h : d.hasDomains = true) :
    (domainFilter d).IsSubstantial settings := by
  have hdomains := Json.substantial_roster (Definition.ofList_ne_nil h)
  exact ⟨trivial, Where.substantial_of_leaves_eq rfl
    (Leaf.substantial_compare (by decide) hdomains)⟩

theorem query_substantial (hhost : settings.NamesHost)
    (hkey : isBlank settings.slotTargetingKey = false) {q : Query}
    (h : d.query settings = .ok q) : q.IsSubstantial settings := by
  obtain ⟨part, hpart, rfl⟩ := Definition.query_eq_ok_iff.mp h
  have hbranches : (Query.any (Signal.all.flatMap part)).IsSubstantial settings := by
    intro b hb
    obtain ⟨signal, -, hb⟩ := List.mem_flatMap.mp hb
    exact contribution_substantial hhost hkey (hpart signal) b hb
  unfold Definition.narrow
  split
  · rename_i hdomains
    exact ⟨hbranches, domainFilter_substantial hdomains⟩
  · exact hbranches

theorem clickersQuery_substantial (hkey : isBlank settings.slotTargetingKey = false) {q : Query}
    (h : d.clickersQuery settings = .ok q) : q.IsSubstantial settings := by
  obtain ⟨c, hc, rfl⟩ := map_eq_ok_iff.mp h
  -- the query of clickers is the one branch of a slot click
  intro b hb
  obtain rfl := List.mem_singleton.mp hb
  exact buildSlotClick_substantial hkey hc

/-- **No vacuous condition is compiled.** Under valid settings each condition of a compiled query, and
of a compiled query of clickers, has leaves; every list in it has entries and none of them is blank;
the destinations name a host, and the key of the ad slots is not blank. -/
theorem compile_substantial (hvalid : settings.validate = .ok ()) {q : Query}
    (h : d.query settings = .ok q ∨ d.clickersQuery settings = .ok q) :
    q.IsSubstantial settings := by
  obtain ⟨hhost, hkey⟩ := Settings.validate_eq_ok hvalid
  rcases h with h | h
  · exact query_substantial hhost hkey h
  · exact clickersQuery_substantial hkey h

/-- A definition that uses every signal, each with something to drop. -/
def everything : Definition :=
  { name := "Everything", code := some "40", keywords := some ["art", "/sport", " "],
    taxonomy := some ["/travel"], urls := some ["/cars/"], obsidianId := some " xß9 ",
    segments := some ["12", "3", "x"], secondPartySegments := some [⟨"acme", "s-1"⟩, ⟨"", "2"⟩],
    thirdPartySegments := some [⟨"oracle", "auto"⟩], domains := some ["example.com", ""],
    days := 7, linkClick := true, slotClick := true, engagedTime := true,
    engagedCompletion := true }

theorem everything_substantial :
    ({} : Settings).validate = .ok () ∧
      ∃ q, everything.query {} = .ok q ∧ q.IsSubstantial {} := by
  have hvalid : ({} : Settings).validate = .ok () := by decide +kernel
  have hok : (everything.query {}).isOk = true := by decide +kernel
  obtain ⟨q, hq⟩ := exists_of_isOk hok
  exact ⟨hvalid, q, hq, compile_substantial hvalid (Or.inl hq)⟩

end Audience
