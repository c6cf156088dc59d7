import Audience.Proofs.Contribution
import Audience.Proofs.SlugEncoding

/-!
# `Audience.Proofs.Refusals` — which definitions do not compile

Four kinds of condition need something that a definition may lack: a click needs links, engaged time and
engaged reading need content, and a click on a slot needs codes. A definition that asks for such a
condition and lacks what it needs does not compile, and nothing else keeps one from compiling. Where
several needs are not met, the first of them in the order of the conditions is reported, so a client that
repairs what is reported comes to the next one.

What is lacking is said here of the lists of the definition as they are. The compiler decides it by what
is left after trimming, slugs and rosters, and the two are shown to agree.

## Contents
- **Errors of runs.** `refusal?`, and `refusal?_mapM`: a run has the first error of its elements.
- **Needs.** `Definition.LacksLinks`, `LacksContent`, `LacksCodes`, and `Definition.Lacks`.
- **Parts of a source.** When URLs and codes are empty, in terms of the needs.
- **Signals.** `refusal?_contribution`: the error of each signal.
- **Queries.** `refusal?_query`, and `query_refused_iff`.
-/

namespace Audience

open Text

/-! ## Errors of runs -/

section Runs

variable {α β ε : Type}

/-- The error of a run, if it has one. -/
def refusal? : Except ε α → Option ε
  | .error e => some e
  | .ok _ => none

theorem refusal?_eq_some_iff {x : Except ε α} {e : ε} : refusal? x = some e ↔ x = .error e := by
  cases x <;> simp [refusal?]

theorem refusal?_map (f : α → β) (x : Except ε α) : refusal? (x.map f) = refusal? x := by
  cases x <;> rfl

theorem refusal?_refused_if (P : Prop) [Decidable P] (e : ε) (a : α) :
    refusal? (if P then .error e else .ok a) = if P then some e else none := by
  split <;> rfl

theorem refusal?_built_if (P : Prop) [Decidable P] (e : ε) (a : α) :
    refusal? (if P then .ok a else .error e) = if P then none else some e := by
  split <;> rfl

/-- **A run over a list has the first error of its elements.** -/
theorem refusal?_mapM (f : α → Except ε β) (as : List α) :
    refusal? (as.mapM f) = as.findSome? fun a => refusal? (f a) := by
  induction as with
  | nil => rfl
  | cons a rest ih =>
      rw [List.mapM_cons, List.findSome?_cons]
      cases f a with
      | error e => rfl
      | ok b =>
          -- the results so far do not matter to the error of the rest
          show _ = rest.findSome? fun a => refusal? (f a)
          rw [← ih]
          cases rest.mapM f <;> rfl

/-- The first value that is made and passes is the first that passes of those that are made. -/
theorem findSome?_filter (f : α → Option β) (p : β → Bool) (as : List α) :
    (as.findSome? fun a => (f a).filter p) = (as.filterMap f).find? p := by
  induction as with
  | nil => rfl
  | cons a rest ih =>
      rw [List.findSome?_cons, ih]
      cases ha : f a with
      | none => rw [List.filterMap_cons_none ha, Option.filter_none]
      | some b =>
          rw [List.filterMap_cons_some ha, List.find?_cons]
          cases hp : p b with
          | true => rw [Option.filter_some_pos hp]
          | false => rw [Option.filter_some_neg hp]

end Runs

variable {settings : Settings} {d : Definition}

namespace Definition

/-! ## Needs -/

/-- None of the texts can match anything. -/
def AllBlank (texts : List String) : Prop :=
  ∀ s ∈ texts, isBlank s = true

/-- There are no links: no URL, and no keyword but paths, which have no slugs. -/
def LacksLinks (d : Definition) : Prop :=
  AllBlank (d.urls.getD []) ∧
    ∀ keyword ∈ d.keywords.getD [], isBlank keyword = true ∨ keyword.toList.head? = some '/'

/-- There is no content: no keyword, taxonomy label or URL, and no context segment. -/
def LacksContent (d : Definition) : Prop :=
  AllBlank (d.keywords.getD []) ∧ AllBlank (d.taxonomy.getD []) ∧ AllBlank (d.urls.getD []) ∧
    AllBlank d.obsidianId.toList

/-- There are no codes: none of segments, and none of the audience itself in either field. -/
def LacksCodes (d : Definition) : Prop :=
  AllBlank (d.segments.getD []) ∧ AllBlank d.code.toList ∧ AllBlank d.number.toList

/-- The definition asks for a condition, and lacks what the condition needs. -/
def Lacks (d : Definition) : MissingContent → Prop
  | .linkClick => d.linkClick = true ∧ d.LacksLinks
  | .engagedTime => d.engagedTime = true ∧ d.LacksContent
  | .engagedCompletion => d.engagedCompletion = true ∧ d.LacksContent
  | .slotClick => d.slotClick = true ∧ d.LacksCodes

instance (texts : List String) : Decidable (AllBlank texts) :=
  inferInstanceAs (Decidable (∀ s ∈ texts, isBlank s = true))

instance (d : Definition) : Decidable d.LacksLinks := instDecidableAnd

instance (d : Definition) : Decidable d.LacksContent := instDecidableAnd

instance (d : Definition) : Decidable d.LacksCodes := instDecidableAnd

instance (d : Definition) : DecidablePred d.Lacks
  | .linkClick | .engagedTime | .engagedCompletion | .slotClick => instDecidableAnd

/-! ## Parts of a source -/

theorem ofList_eq_nil_iff_allBlank {texts : List String} :
    Roster.ofList texts = [] ↔ AllBlank texts :=
  Roster.ofList_eq_nil_iff

/-- A keyword that has no slugs is blank or a path. -/
theorem not_kept_iff {keyword : String} :
    ¬ Keyword.Kept keyword ↔ isBlank keyword = true ∨ keyword.toList.head? = some '/' := by
  unfold Keyword.Kept
  cases isBlank keyword <;> simp

/-- **There are no client URLs when there are no links.** -/
theorem clientUrls_eq_nil_iff :
    (Source.ofDefinition settings d).clientUrls = [] ↔ d.LacksLinks := by
  rw [Source.clientUrls, Source.slugs_ofDefinition, Roster.union, ofList_eq_nil_iff_allBlank]
  constructor
  · intro h
    refine ⟨fun url hurl => h url (List.mem_append_left _ hurl), ?_⟩
    intro keyword hkeyword
    rw [← not_kept_iff]
    intro hkept
    -- a keyword that is kept has a slug, and a slug is not blank
    have hslug : Keyword.rawSlug (Keyword.base keyword) ∈ Keyword.slugs (d.keywords.getD []) :=
      Keyword.mem_slugs_iff.mpr ⟨keyword, hkeyword, hkept, Or.inl rfl⟩
    have hblank := h _ (List.mem_append_right _ hslug)
    rw [(Keyword.isSlug_of_mem_slugs hslug).not_isBlank] at hblank
    exact absurd hblank (by simp)
  · rintro ⟨hurls, hkeywords⟩
    have hslugs : Keyword.slugs (d.keywords.getD []) = [] := by
      rw [Keyword.slugs_eq_nil_iff]
      intro keyword hkeyword
      exact not_kept_iff.mpr (hkeywords keyword hkeyword)
    rw [hslugs, List.append_nil]
    exact hurls

theorem trimmedCode?_eq_none_iff {code : Option String} :
    trimmedCode? code = none ↔ AllBlank code.toList := by
  cases code with
  | none => simp [trimmedCode?, AllBlank]
  | some s => simp [trimmedCode?, AllBlank, isBlank_iff_trim_eq_empty]

theorem not_isBlank_of_trimmedCode? {code : Option String} {own : String}
    (h : trimmedCode? code = some own) : isBlank own = false := by
  obtain ⟨hown, hne⟩ := Option.filter_eq_some_iff.mp h
  obtain ⟨s, -, rfl⟩ := Option.map_eq_some_iff.mp hown
  rw [isBlank_trim, ← Bool.not_eq_true, isBlank_iff_trim_eq_empty]
  simpa using hne

/-- There is no code of the audience's own when both fields are blank. -/
theorem platformCode_eq_none_iff :
    d.platformCode = none ↔ AllBlank d.code.toList ∧ AllBlank d.number.toList := by
  rw [platformCode, Option.or_eq_none_iff, trimmedCode?_eq_none_iff, trimmedCode?_eq_none_iff]

theorem not_isBlank_of_platformCode {own : String} (h : d.platformCode = some own) :
    isBlank own = false := by
  rcases Option.or_eq_some_iff.mp h with hcode | ⟨-, hnumber⟩
  · exact not_isBlank_of_trimmedCode? hcode
  · exact not_isBlank_of_trimmedCode? hnumber

/-- **There are no slot codes when there are no codes.** -/
theorem slotCodes_eq_nil_iff :
    (Source.ofDefinition settings d).slotCodes = [] ↔ d.LacksCodes := by
  rw [Source.slotCodes, Source.definition_ofDefinition, LacksCodes, ← platformCode_eq_none_iff]
  cases hown : d.platformCode with
  | none => simp [ofList_eq_nil_iff_allBlank]
  | some own =>
      have hmem : own ∈ Roster.add (Roster.ofList (d.segments.getD [])) own :=
        Roster.mem_add.mpr ⟨Or.inr rfl, not_isBlank_of_platformCode hown⟩
      simp [List.ne_nil_of_mem hmem]

theorem populated_eq_false_iff {entries : Option (List String)} :
    populated entries = false ↔ AllBlank (entries.getD []) := by
  rw [populated_eq, Bool.not_eq_false', List.isEmpty_iff, ofList_eq_nil_iff_allBlank]

/-- **There is content unless all four signals lack it.** -/
theorem hasContent_eq_false_iff : d.hasContent = false ↔ d.LacksContent := by
  have hcontext : d.hasObsidianId = false ↔ AllBlank d.obsidianId.toList := by
    unfold hasObsidianId AllBlank
    cases d.obsidianId <;> simp
  unfold hasContent LacksContent hasKeywords hasTaxonomy hasUrls
  rw [Bool.or_eq_false_iff, Bool.or_eq_false_iff, Bool.or_eq_false_iff, hcontext,
    populated_eq_false_iff, populated_eq_false_iff, populated_eq_false_iff, and_assoc, and_assoc]

end Definition

/-! ## Signals -/

namespace MissingContent

/-- The errors in the order of the conditions. -/
def all : List MissingContent :=
  [.linkClick, .engagedTime, .engagedCompletion, .slotClick]

end MissingContent

/-- The error that a signal can have. -/
def Signal.error? : Signal → Option MissingContent
  | .linkClick => some .linkClick
  | .engagedTime => some .engagedTime
  | .engagedCompletion => some .engagedCompletion
  | .slotClick => some .slotClick
  | _ => none

theorem refusal?_buildLinkClick :
    refusal? (Signal.buildLinkClick (.ofDefinition settings d)) =
      if d.LacksLinks then some .linkClick else none := by
  rw [Signal.buildLinkClick, refusal?_refused_if]
  exact if_congr (List.isEmpty_iff.trans Definition.clientUrls_eq_nil_iff) rfl rfl

theorem refusal?_buildSlotClick :
    refusal? (Signal.buildSlotClick (.ofDefinition settings d)) =
      if d.LacksCodes then some .slotClick else none := by
  rw [Signal.buildSlotClick, refusal?_refused_if]
  exact if_congr (List.isEmpty_iff.trans Definition.slotCodes_eq_nil_iff) rfl rfl

/-- A condition that is built only where there is content. -/
theorem refusal?_ofContent (c : Condition) (e : MissingContent) :
    refusal? (if d.hasContent then .ok c else .error e) = if d.LacksContent then some e else none := by
  have hcontent : d.hasContent = true ↔ ¬ d.LacksContent := by
    rw [← Definition.hasContent_eq_false_iff, Bool.not_eq_false]
  rw [refusal?_built_if, if_congr hcontent rfl rfl, ite_not]

/-- A signal that builds one condition, and has one need. -/
theorem refusal?_contribution_of_need {signal : Signal} {e : MissingContent} {P : Prop} [Decidable P]
    {x : Except MissingContent Condition}
    (hbuild : signal.build (.ofDefinition settings d) = x.map ([·]))
    (hx : refusal? x = if P then some e else none)
    (hlacks : d.Lacks e ↔ signal.applies d = true ∧ P) :
    refusal? (d.contribution settings signal) = (some e).filter (d.Lacks ·) := by
  rw [Definition.contribution, hbuild]
  by_cases h : d.Lacks e
  · obtain ⟨happlies, hP⟩ := hlacks.mp h
    rw [if_pos happlies, refusal?_map, hx, if_pos hP, Option.filter_some_pos (by simpa using h)]
  · rw [Option.filter_some_neg (by simpa using h)]
    by_cases happlies : signal.applies d = true
    · have hP : ¬ P := fun hP => h (hlacks.mpr ⟨happlies, hP⟩)
      rw [if_pos happlies, refusal?_map, hx, if_neg hP]
    · rw [if_neg happlies]
      rfl

/-- **A signal has its own error, where the definition lacks what it needs.** -/
theorem refusal?_contribution (settings : Settings) (d : Definition) (signal : Signal) :
    refusal? (d.contribution settings signal) = signal.error?.filter (d.Lacks ·) := by
  cases signal with
  | pageView =>
      rw [Definition.contribution_pageView]
      rfl
  | videoView =>
      rw [Definition.contribution_videoView]
      rfl
  | linkClick => exact refusal?_contribution_of_need rfl refusal?_buildLinkClick Iff.rfl
  | engagedTime => exact refusal?_contribution_of_need rfl (refusal?_ofContent _ _) Iff.rfl
  | engagedCompletion => exact refusal?_contribution_of_need rfl (refusal?_ofContent _ _) Iff.rfl
  | slotClick => exact refusal?_contribution_of_need rfl refusal?_buildSlotClick Iff.rfl
  | segmentEntry =>
      rw [Definition.contribution_segmentEntry]
      rfl
  | secondParty =>
      rw [Definition.contribution_secondParty]
      rfl
  | thirdParty =>
      rw [Definition.contribution_thirdParty]
      rfl

/-! ## Queries -/

/-- **A query has the first error that applies.** -/
theorem refusal?_query (settings : Settings) (d : Definition) :
    refusal? (d.query settings) = MissingContent.all.find? (d.Lacks ·) := by
  rw [Definition.query, Definition.branches_eq, refusal?_map, refusal?_map, refusal?_mapM]
  simp only [refusal?_contribution]
  exact findSome?_filter Signal.error? (d.Lacks ·) Signal.all

theorem refusal?_clickersQuery (settings : Settings) (d : Definition) :
    refusal? (d.clickersQuery settings) = if d.LacksCodes then some .slotClick else none := by
  rw [Definition.clickersQuery, refusal?_map, refusal?_buildSlotClick]

theorem MissingContent.mem_all (e : MissingContent) : e ∈ all := by
  cases e <;> decide

/-- **A definition is refused exactly when it lacks what one of its conditions needs.** The error names
the first such condition in the order of links, engaged time, engaged reading and slots. A query of
clickers is refused exactly when there are no codes, whether or not the definition asks for slots. -/
theorem query_refused_iff :
    (∀ (settings : Settings) (d : Definition),
      (∃ e, d.query settings = .error e) ↔ ∃ e, d.Lacks e) ∧
    (∀ (settings : Settings) (d : Definition) (e : MissingContent),
      d.query settings = .error e ↔ MissingContent.all.find? (d.Lacks ·) = some e) ∧
    ∀ (settings : Settings) (d : Definition) (e : MissingContent),
      d.clickersQuery settings = .error e ↔ e = .slotClick ∧ d.LacksCodes := by
  have hquery : ∀ (settings : Settings) (d : Definition) (e : MissingContent),
      d.query settings = .error e ↔ MissingContent.all.find? (d.Lacks ·) = some e := by
    intro settings d e
    rw [← refusal?_eq_some_iff, refusal?_query]
  refine ⟨?_, hquery, ?_⟩
  · intro settings d
    constructor
    · rintro ⟨e, he⟩
      have hfirst := (hquery settings d e).mp he
      exact ⟨e, by simpa using List.find?_some hfirst⟩
    · rintro ⟨e, he⟩
      have hsome : (MissingContent.all.find? (d.Lacks ·)).isSome = true :=
        List.find?_isSome.mpr ⟨e, e.mem_all, by simpa using he⟩
      obtain ⟨first, hfirst⟩ := Option.isSome_iff_exists.mp hsome
      exact ⟨first, (hquery settings d first).mpr hfirst⟩
  · intro settings d e
    rw [← refusal?_eq_some_iff, refusal?_clickersQuery]
    by_cases h : d.LacksCodes
    · simp [h, eq_comm]
    · simp [h]

/-- A definition with blank keywords and a path has no links and no slugs, but codes. -/
example : refusal? (Definition.query {}
    { name := "Ferries", keywords := some ["/boats", " "], number := some "7", linkClick := true,
      engagedTime := true, slotClick := true }) = some .linkClick := by
  decide +kernel

end Audience
