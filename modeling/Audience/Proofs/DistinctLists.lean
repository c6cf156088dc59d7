import Audience.Proofs.Contribution
import Audience.Proofs.WholeWords
import Mathlib.Data.List.Nodup

/-!
# `Audience.Proofs.DistinctLists` — which lists of a query repeat an entry

A list of a query is made from a roster, which has no entry twice. Most are the roster itself. The lists
of terms are not: the keywords are padded after they have gone through the roster, and a keyword that is
padded may become another keyword that has its spaces already. So a query repeats an entry exactly where
it has terms at all and a definition lists some keyword both with and without its padding.

The destinations of a click are configured and do not come from the definition; they are left out here.

## Contents
- **Lists of a query.** `ListTest`, and `lists` of leaves, conditions and queries.
- **Terms.** `Keyword.HasPaddedTwin`, and `Keyword.nodup_terms_iff`.
- **Leaves.** `ListTest.IsFrom`: where a list comes from, for the leaves of each kind.
- **Signals.** `isFrom_of_contribution`, and `exists_content_branch` for the signals of content.
- **Queries.** `isDistinct_iff`.
-/

namespace Audience

open Text

variable {settings : Settings} {d : Definition}

/-! ## Lists of a query -/

/-- A list that a property is compared with. -/
structure ListTest where
  property : String
  items : List Json

/-- The list in the comparison of a property. -/
def Comparison.lists (property : String) (c : Comparison) : List ListTest :=
  match c.operand with
  | .list items => [⟨property, items⟩]
  | _ => []

/-- The lists in a leaf, those of its inner leaf included. -/
def Leaf.lists : Leaf → List ListTest
  | .compare property comparison => comparison.lists property
  | .anyElement _ key comparison inner => comparison.lists key ++ inner.lists

/-- The lists in a condition. -/
def Condition.lists (c : Condition) : List ListTest :=
  match c.content? with
  | none => []
  | some content => content.leaves.flatMap Leaf.lists

/-- The lists in a query, those of its filters included. -/
def Query.lists : Query → List ListTest
  | .any branches => branches.flatMap Condition.lists
  | .narrowed inner filter => inner.lists ++ filter.lists

/-- No list of the query that comes from the definition repeats an entry. -/
def Query.IsDistinct (q : Query) : Prop :=
  ∀ list ∈ q.lists, list.property ≠ "properties.dest_url" → list.items.Nodup

theorem Query.mem_lists_of_branch {q : Query} {b : Condition} {list : ListTest}
    (hb : b ∈ q.branches) (hlist : list ∈ b.lists) : list ∈ q.lists := by
  induction q with
  | any branches => exact List.mem_flatMap.mpr ⟨b, hb, hlist⟩
  | narrowed inner filter ih => exact List.mem_append_left _ (ih hb)

/-! ## Terms -/

namespace Keyword

variable {keyword : String} {keywords : List String}

theorem term_eq_or (keyword : String) :
    term keyword = keyword ∨ (term keyword).toList = spaced keyword.toList := by
  have h := toList_term keyword
  split at h
  · exact Or.inl (String.toList_inj.mp h)
  · exact Or.inr h

/-- What has been padded is several words, and is not padded again. -/
theorem term_term (keyword : String) : term (term keyword) = term keyword := by
  rcases term_eq_or keyword with h | h
  · rw [h, h]
  · have hspace : ' ' ∈ (term keyword).toList := by simp [h, spaced]
    rw [← String.toList_inj, toList_term, if_pos]
    simp [isCompound_iff.mpr (Or.inl hspace)]

theorem spaced_injective : Function.Injective spaced := by
  intro cs ds h
  exact List.append_cancel_right (List.cons.inj h).2

/-- Some keyword is padded, and is among the keywords with its padding as well. -/
def HasPaddedTwin (keywords : List String) : Prop :=
  ∃ keyword ∈ keywords, isBlank keyword = false ∧ term keyword ≠ keyword ∧
    term keyword ∈ keywords

instance : DecidablePred HasPaddedTwin :=
  fun keywords => inferInstanceAs (Decidable (∃ keyword ∈ keywords, _))

/-- **The terms of a roster repeat one another exactly where a keyword has a padded twin.** Two
keywords that are padded have different terms, and so have two that are not. -/
theorem nodup_terms_iff :
    (terms (Roster.ofList keywords)).Nodup ↔ ¬ HasPaddedTwin keywords := by
  rw [terms, List.nodup_map_iff_inj_on (Roster.nodup_ofList keywords)]
  constructor
  · rintro hinj ⟨keyword, hkeyword, hblank, hpadded, htwin⟩
    have hmem : keyword ∈ Roster.ofList keywords := Roster.mem_ofList.mpr ⟨hkeyword, hblank⟩
    have hmem' : term keyword ∈ Roster.ofList keywords :=
      Roster.mem_ofList.mpr ⟨htwin, not_isBlank_term hblank⟩
    exact hpadded (hinj _ hmem' _ hmem (term_term keyword))
  · intro htwin
    -- a keyword whose term is another keyword of the roster is not padded
    have hfixed : ∀ k ∈ Roster.ofList keywords, term k ∈ keywords → term k = k := by
      intro k hk hterm
      obtain ⟨hmem, hblank⟩ := Roster.mem_ofList.mp hk
      by_contra hne
      exact htwin ⟨k, hmem, hblank, hne, hterm⟩
    intro k hk l hl heq
    rcases term_eq_or k with hkept | hpadded
    · have hmem : term l ∈ keywords := by
        rw [← heq, hkept]
        exact (Roster.mem_ofList.mp hk).1
      rw [← hkept, heq, hfixed l hl hmem]
    · rcases term_eq_or l with hkept' | hpadded'
      · have hmem : term k ∈ keywords := by
          rw [heq, hkept']
          exact (Roster.mem_ofList.mp hl).1
        rw [← hkept', ← heq, hfixed k hk hmem]
      · rw [heq, hpadded'] at hpadded
        exact (String.toList_inj.mp (spaced_injective hpadded)).symm

end Keyword

/-! ## Leaves -/

/-- The properties that are compared with the terms of the keywords. -/
def termProperties : List String :=
  ["properties.article.title", "properties.article.description", "properties.videoTitle"]

/-- The definition asks for a condition on content, which is matched against titles. -/
def Definition.AsksContent (d : Definition) : Prop :=
  d.pageView = true ∨ d.engagedTime = true ∨ d.engagedCompletion = true

instance (d : Definition) : Decidable d.AsksContent := instDecidableOr

/-- Where a list comes from: it holds the configured destinations, or the terms of the keywords, or
distinct entries. There are terms only where content is asked for. -/
inductive ListTest.IsFrom (d : Definition) : ListTest → Prop
  | destinations (items : List Json) : IsFrom d ⟨"properties.dest_url", items⟩
  | terms {property : String} (hproperty : property ∈ termProperties) (hasks : d.AsksContent) :
      IsFrom d ⟨property,
        (Keyword.terms (Roster.ofList (d.keywords.getD []))).map .text⟩
  | distinct {property : String} (hproperty : property ∉ termProperties) {texts : List String}
      (hnodup : texts.Nodup) : IsFrom d ⟨property, texts.map .text⟩

/-- All lists of the leaves come from the definition, or are the destinations. -/
def LeavesFrom (d : Definition) (leaves : List Leaf) : Prop :=
  ∀ leaf ∈ leaves, ∀ list ∈ leaf.lists, list.IsFrom d

namespace LeavesFrom

theorem nil : LeavesFrom d [] := fun _ hleaf => absurd hleaf (by simp)

theorem cons {leaf : Leaf} {leaves : List Leaf} (h : ∀ list ∈ leaf.lists, list.IsFrom d)
    (hrest : LeavesFrom d leaves) : LeavesFrom d (leaf :: leaves) :=
  List.forall_mem_cons.mpr ⟨h, hrest⟩

theorem append {leaves leaves' : List Leaf} (h : LeavesFrom d leaves)
    (h' : LeavesFrom d leaves') : LeavesFrom d (leaves ++ leaves') :=
  List.forall_mem_append.mpr ⟨h, h'⟩

/-- A leaf that compares a property with distinct texts. -/
theorem distinct {property : String} {op : Operator} {texts : List String} {leaves : List Leaf}
    (hproperty : property ∉ termProperties) (hnodup : texts.Nodup) (hrest : LeavesFrom d leaves) :
    LeavesFrom d (.compare property ⟨op, .ofTexts texts⟩ :: leaves) :=
  hrest.cons (List.forall_mem_singleton.mpr (.distinct hproperty hnodup))

/-- A leaf that compares a property with the terms. -/
theorem terms {property : String} {op : Operator} {leaves : List Leaf}
    (hproperty : property ∈ termProperties) (hasks : d.AsksContent)
    (hrest : LeavesFrom d leaves) :
    LeavesFrom d (.compare property ⟨op,
      .ofTexts (Keyword.terms (Roster.ofList (d.keywords.getD [])))⟩ :: leaves) :=
  hrest.cons (List.forall_mem_singleton.mpr (.terms hproperty hasks))

end LeavesFrom

theorem nodup_slotCodes (s : Source) : s.slotCodes.Nodup := by
  unfold Source.slotCodes
  split
  · exact Roster.nodup_ofList _
  · exact Roster.nodup_ofList _

theorem keywordLeaves_from (settings : Settings) (hasks : d.AsksContent) :
    LeavesFrom d (keywordLeaves (Source.ofDefinition settings d).keywords) := by
  have hnodup : (Source.ofDefinition settings d).keywords.Nodup := Roster.nodup_ofList _
  unfold keywordLeaves
  split
  · exact .nil
  · exact .terms (by decide) hasks (.terms (by decide) hasks (.distinct (by decide) hnodup
      (.distinct (by decide) hnodup (.distinct (by decide) hnodup .nil))))

theorem taxonomyLeaves_from (d : Definition) : LeavesFrom d (taxonomyLeaves d) := by
  unfold taxonomyLeaves
  split
  · exact .distinct (by decide) (Roster.nodup_ofList _) .nil
  · exact .nil

theorem contextLeaves_from (d : Definition) : LeavesFrom d (contextLeaves d) := by
  rw [Definition.contextLeaves_eq]
  split
  · exact .nil
  · exact .distinct (by decide) (List.nodup_singleton _) .nil

theorem urlLeaves_from {urls : List String} (h : urls.Nodup) : LeavesFrom d (urlLeaves urls) := by
  unfold urlLeaves
  split
  · exact .nil
  · exact .distinct (by decide) h .nil

theorem contentLeaves_from (settings : Settings) (hasks : d.AsksContent) :
    LeavesFrom d (contentLeaves (.ofDefinition settings d)) :=
  (((keywordLeaves_from settings hasks).append (taxonomyLeaves_from d)).append
    (contextLeaves_from d)).append (urlLeaves_from (Roster.nodup_ofList _))

/-! ## Signals -/

theorem isFrom_of_content {c : Condition} {content : Where} (hcontent : c.content? = some content)
    (h : LeavesFrom d content.leaves) : ∀ list ∈ c.lists, list.IsFrom d := by
  intro list hlist
  unfold Condition.lists at hlist
  rw [hcontent] at hlist
  obtain ⟨leaf, hleaf, hlist⟩ := List.mem_flatMap.mp hlist
  exact h leaf hleaf list hlist

theorem lists_eq_nil_of_content {c : Condition} (hcontent : c.content? = none) : c.lists = [] := by
  unfold Condition.lists
  rw [hcontent]

theorem isFrom_buildLinkClick {c : Condition}
    (h : Signal.buildLinkClick (.ofDefinition settings d) = .ok c) :
    ∀ list ∈ c.lists, list.IsFrom d := by
  unfold Signal.buildLinkClick at h
  split at h
  · cases h
  · cases h
    refine isFrom_of_content rfl (.cons ?_ (.distinct (by decide) (Roster.nodup_ofList _) .nil))
    exact List.forall_mem_singleton.mpr (.destinations _)

theorem isFrom_buildSlotClick {c : Condition}
    (h : Signal.buildSlotClick (.ofDefinition settings d) = .ok c) :
    ∀ list ∈ c.lists, list.IsFrom d := by
  unfold Signal.buildSlotClick at h
  split at h
  · cases h
  · cases h
    refine isFrom_of_content rfl (.cons ?_ .nil)
    -- the key is one text, and the list is that of the inner leaf
    exact List.forall_mem_singleton.mpr (.distinct (by decide) (nodup_slotCodes _))

/-- A condition that is built on content. -/
theorem isFrom_of_engaged {engaged : Where → Condition} {c : Condition} {e : MissingContent}
    (hasks : d.AsksContent) (hengaged : ∀ content, (engaged content).content? = some content)
    (h : (if d.hasContent then
        Except.ok (engaged (.any (contentLeaves (.ofDefinition settings d))))
      else .error e) = .ok c) : ∀ list ∈ c.lists, list.IsFrom d := by
  split at h
  · cases h
    exact isFrom_of_content (hengaged _) (contentLeaves_from settings hasks)
  · cases h

/-- **The lists of a signal come from the definition**, the destinations apart. -/
theorem isFrom_of_contribution {signal : Signal} {bs : List Condition}
    (h : d.contribution settings signal = .ok bs) :
    ∀ b ∈ bs, ∀ list ∈ b.lists, list.IsFrom d := by
  intro b hb
  unfold Definition.contribution at h
  split at h
  · rename_i happlies
    cases signal with
    | pageView =>
        cases h
        obtain rfl := List.mem_singleton.mp hb
        have hasks : d.AsksContent := Or.inl (Bool.and_eq_true_iff.mp happlies).1
        exact isFrom_of_content rfl (contentLeaves_from settings hasks)
    | videoView =>
        cases h
        obtain rfl := List.mem_singleton.mp hb
        have hview := (Bool.and_eq_true_iff.mp happlies).1
        have hasks : d.AsksContent := Or.inl (Bool.and_eq_true_iff.mp hview).1
        exact isFrom_of_content rfl (.terms (by decide) hasks .nil)
    | linkClick => exact forall_mem_of_map h (fun _ => isFrom_buildLinkClick) b hb
    | engagedTime =>
        have hasks : d.AsksContent := Or.inr (Or.inl happlies)
        exact forall_mem_of_map h (fun _ => isFrom_of_engaged hasks fun _ => rfl) b hb
    | engagedCompletion =>
        have hasks : d.AsksContent := Or.inr (Or.inr happlies)
        exact forall_mem_of_map h (fun _ => isFrom_of_engaged hasks fun _ => rfl) b hb
    | slotClick => exact forall_mem_of_map h (fun _ => isFrom_buildSlotClick) b hb
    | segmentEntry | secondParty | thirdParty =>
        cases h
        obtain ⟨_, -, rfl⟩ := List.mem_map.mp hb
        rw [lists_eq_nil_of_content rfl]
        simp
  · cases h
    exact absurd hb (by simp)

theorem isFrom_of_query {q : Query} (h : d.query settings = .ok q) :
    ∀ list ∈ q.lists, list.IsFrom d := by
  obtain ⟨part, hpart, rfl⟩ := Definition.query_eq_ok_iff.mp h
  have hbranches : ∀ list ∈ (Query.any (Signal.all.flatMap part)).lists, list.IsFrom d := by
    intro list hlist
    obtain ⟨b, hb, hlist⟩ := List.mem_flatMap.mp hlist
    obtain ⟨signal, -, hb⟩ := List.mem_flatMap.mp hb
    exact isFrom_of_contribution (hpart signal) b hb list hlist
  unfold Definition.narrow
  split
  · have hfilter : ∀ list ∈ (domainFilter d).lists, list.IsFrom d :=
      isFrom_of_content rfl (.distinct (by decide) (Roster.nodup_ofList _) .nil)
    exact List.forall_mem_append.mpr ⟨hbranches, hfilter⟩
  · exact hbranches

/-- **A definition that asks for content, and has some, has a branch on all of it.** -/
theorem exists_content_branch {q : Query} (h : d.query settings = .ok q) (hasks : d.AsksContent)
    (hcontent : d.hasContent = true) :
    ∃ b ∈ q.branches, b.content? = some (.any (contentLeaves (.ofDefinition settings d))) := by
  obtain ⟨part, hpart, rfl⟩ := Definition.query_eq_ok_iff.mp h
  rw [Definition.branches_narrow, Query.branches]
  have hfound : ∀ (signal : Signal) (b : Condition), d.contribution settings signal = .ok [b] →
      b ∈ Signal.all.flatMap part := by
    intro signal b hb
    refine List.mem_flatMap.mpr ⟨signal, signal.mem_all, ?_⟩
    rw [← Except.ok.inj (hb.symm.trans (hpart signal))]
    exact List.mem_singleton_self b
  rcases hasks with hflag | hflag | hflag
  · refine ⟨_, hfound .pageView (Signal.buildPageView (.ofDefinition settings d)) ?_, rfl⟩
    rw [Definition.contribution_pageView, hflag, hcontent]
    rfl
  · refine ⟨.engagedTime ⟨.greaterThan, .int settings.engagedTimeSeconds.toNat⟩
      (.any (contentLeaves (.ofDefinition settings d))), hfound .engagedTime _ ?_, rfl⟩
    have happlies : Signal.applies d .engagedTime = true := hflag
    rw [Definition.contribution_of_applies happlies, Signal.build, Signal.buildEngagedTime,
      Source.definition_ofDefinition, if_pos hcontent]
    rfl
  · refine ⟨.engagedCompletion ⟨.greaterThan, .ofFloat settings.engagedCompletionRatio⟩
      (.any (contentLeaves (.ofDefinition settings d))), hfound .engagedCompletion _ ?_, rfl⟩
    have happlies : Signal.applies d .engagedCompletion = true := hflag
    rw [Definition.contribution_of_applies happlies, Signal.build, Signal.buildEngagedCompletion,
      Source.definition_ofDefinition, if_pos hcontent]
    rfl

/-! ## Queries -/

theorem nodup_map_text {texts : List String} : (texts.map Json.text).Nodup ↔ texts.Nodup :=
  List.nodup_map_iff fun _ _ h => Json.text.inj h

/-- Keywords are content, so their terms are matched against titles. -/
theorem exists_terms_list {q : Query} (h : d.query settings = .ok q) (hasks : d.AsksContent)
    (hkeywords : d.hasKeywords = true) :
    ⟨"properties.article.title",
      (Keyword.terms (Roster.ofList (d.keywords.getD []))).map .text⟩ ∈ q.lists := by
  have hcontent : d.hasContent = true := by
    unfold Definition.hasContent
    rw [hkeywords]
    rfl
  obtain ⟨b, hb, hbcontent⟩ := exists_content_branch h hasks hcontent
  have hroster : (Source.ofDefinition settings d).keywords.isEmpty = false := by
    rw [← Bool.not_eq_true', ← hkeywords]
    exact (Definition.populated_eq d.keywords).symm
  have hleaf : Leaf.compare "properties.article.title"
      (.contains (Keyword.terms (Source.ofDefinition settings d).keywords)) ∈
        contentLeaves (.ofDefinition settings d) := by
    unfold contentLeaves keywordLeaves
    rw [hroster]
    simp
  refine Query.mem_lists_of_branch hb ?_
  unfold Condition.lists
  rw [hbcontent]
  exact List.mem_flatMap.mpr ⟨_, hleaf, List.mem_singleton_self _⟩

/-- **When a query repeats an entry of a list.** Only a list of terms can, and one does exactly where
the definition asks for content and lists a keyword with its padding as well as without. -/
theorem isDistinct_iff {q : Query} (h : d.query settings = .ok q) :
    (∀ list ∈ q.lists, list.property ∉ termProperties → list.property ≠ "properties.dest_url" →
      list.items.Nodup) ∧
    (q.IsDistinct ↔ ¬ (d.AsksContent ∧ Keyword.HasPaddedTwin (d.keywords.getD []))) := by
  have hfrom := isFrom_of_query h
  refine ⟨?_, ?_, ?_⟩
  · intro list hlist hterm hdestination
    cases hfrom list hlist with
    | destinations items => exact absurd rfl hdestination
    | terms hproperty _ => exact absurd hproperty hterm
    | distinct _ hnodup => exact nodup_map_text.mpr hnodup
  · rintro hdistinct ⟨hasks, htwin⟩
    have hkeywords : d.hasKeywords = true := by
      obtain ⟨keyword, hkeyword, hblank, -⟩ := htwin
      exact Definition.populated_iff.mpr ⟨keyword, hkeyword, hblank⟩
    have hproperty : "properties.article.title" ≠ "properties.dest_url" := by decide
    have hnodup := hdistinct _ (exists_terms_list h hasks hkeywords) hproperty
    exact Keyword.nodup_terms_iff.mp (nodup_map_text.mp hnodup) htwin
  · intro hno list hlist hdestination
    cases hfrom list hlist with
    | destinations items => exact absurd rfl hdestination
    | terms _ hasks =>
        have htwin : ¬ Keyword.HasPaddedTwin (d.keywords.getD []) := fun htwin => hno ⟨hasks, htwin⟩
        exact nodup_map_text.mpr (Keyword.nodup_terms_iff.mpr htwin)
    | distinct _ hnodup => exact nodup_map_text.mpr hnodup

/-- A definition with a keyword padded by hand, beside other keywords and a repeated label. -/
def menagerie : Definition :=
  { name := "Menagerie", keywords := some [" dog ", "cat", "cat", "cat "],
    taxonomy := some ["pets", "pets"], urls := some ["/pets/"], linkClick := true,
    slotClick := true, segments := some ["12", "12"], domains := some ["example.com"] }

theorem menagerie_isDistinct : ∃ q, menagerie.query {} = .ok q ∧ q.IsDistinct := by
  have hok : (menagerie.query {}).isOk = true := by decide +kernel
  obtain ⟨q, hq⟩ := exists_of_isOk hok
  have htwin : ¬ (menagerie.AsksContent ∧
      Keyword.HasPaddedTwin (menagerie.keywords.getD [])) := by decide +kernel
  exact ⟨q, hq, (isDistinct_iff hq).2.mpr htwin⟩

/-- A definition that lists a keyword with its padding as well as without. -/
def twinCats : Definition :=
  { name := "Cats", keywords := some ["cat", " cat "] }

/-- **A query may repeat an entry of a list.** -/
theorem twinCats_repeats_term :
    ∃ q, twinCats.query {} = .ok q ∧
      ∃ list ∈ q.lists, list.property = "properties.article.title" ∧
        list.items = [.text " cat ", .text " cat "] ∧ ¬ q.IsDistinct := by
  have hok : (twinCats.query {}).isOk = true := by decide +kernel
  have hterms : Keyword.terms (Roster.ofList (twinCats.keywords.getD [])) = [" cat ", " cat "] := by
    decide +kernel
  obtain ⟨q, hq⟩ := exists_of_isOk hok
  have hlist := exists_terms_list hq (Or.inl rfl) (by decide +kernel)
  rw [hterms] at hlist
  refine ⟨q, hq, _, hlist, rfl, rfl, fun hdistinct => ?_⟩
  have hproperty : "properties.article.title" ≠ "properties.dest_url" := by decide
  exact absurd (hdistinct _ hlist hproperty) (by simp)

end Audience
