import Audience.Proofs.SameSignals

/-!
# `Audience.Proofs.Description` — keywords survive being kept as a description

The platform has no field for keywords, so an audience carries them as its description: one text with
commas in between. Reading them back splits the text, trims the pieces and drops the empty ones. That
cannot give every list back: a comma inside a keyword splits it, and blanks around one are lost. Where
neither occurs, all that is lost are the blank keywords, which no signal reads, and so a definition that
is read back from the platform compiles as before.

## Contents
- **Reading back.** `mem_keywordsOfDescription`: the keywords that a description holds.
- **Round trip.** `Describable` keywords, and `sameEntries_keywordsOfDescription`.
- **Extent.** `IsKeywordList`, and `description_gives_back_iff`: the lists that come back as they are.
- **Queries.** `Definition.reread`, and `query_reread`.
-/

namespace Audience.Definition

open Text
open Roster (SameEntries)

/-! ## Reading back -/

/-- Without a keyword a description has none, and else those pieces that are not empty. -/
theorem getD_keywordsOfDescription (description : String) :
    (keywordsOfDescription? description).getD [] =
      ((split ',' description).map trim).filter (· ≠ "") := by
  unfold keywordsOfDescription?
  dsimp only
  split
  · rename_i hempty
    exact (List.isEmpty_iff.mp hempty).symm
  · rfl

/-- A description holds the trimmed pieces between its commas that are not empty. -/
theorem mem_keywordsOfDescription {description keyword : String} :
    keyword ∈ (keywordsOfDescription? description).getD [] ↔
      (∃ piece ∈ split ',' description, trim piece = keyword) ∧ keyword ≠ "" := by
  rw [getD_keywordsOfDescription, List.mem_filter, List.mem_map, decide_eq_true_eq]

/-! ## Round trip -/

/-- The keyword can be told from its neighbours in a description: it is blank, or it has no comma and no
blanks around it. -/
def Describable (keyword : String) : Prop :=
  isBlank keyword = false → ',' ∉ keyword.toList ∧ trim keyword = keyword

instance : DecidablePred Describable := fun _ => inferInstanceAs (Decidable (_ → _))

/-- A comma is not blank, so there is none in a blank keyword either. -/
theorem Describable.comma_notMem {keyword : String} (h : Describable keyword) :
    ',' ∉ keyword.toList := by
  intro hcomma
  by_cases hblank : isBlank keyword = true
  · have hc : isBlankChar ',' = true := isBlank_iff.mp hblank ',' hcomma
    exact absurd hc (by decide)
  · rw [Bool.not_eq_true] at hblank
    exact (h hblank).1 hcomma

/-- A keyword that is not blank comes back as it is, and a blank one does not come back. -/
theorem Describable.trim_eq_iff {piece keyword : String} (h : Describable piece)
    (hkeyword : isBlank keyword = false) : trim piece = keyword ↔ piece = keyword := by
  by_cases hblank : isBlank piece = true
  · have hne : keyword ≠ "" := by
      rintro rfl
      exact absurd hkeyword (by decide)
    rw [isBlank_iff_trim_eq_empty.mp hblank]
    constructor
    · intro hempty
      exact absurd hempty.symm hne
    · rintro rfl
      rw [hkeyword] at hblank
      exact absurd hblank (by simp)
  · rw [Bool.not_eq_true] at hblank
    rw [(h hblank).2]

/-- **The keywords of a description are those that it was made of**, up to blank ones. -/
theorem sameEntries_keywordsOfDescription {keywords : List String}
    (h : ∀ keyword ∈ keywords, Describable keyword) :
    SameEntries ((keywordsOfDescription? (join ',' keywords)).getD []) keywords := by
  intro keyword hblank
  replace hblank : isBlank keyword = false := hblank
  have hne : keyword ≠ "" := by
    rintro rfl
    exact absurd hblank (by decide)
  rw [mem_keywordsOfDescription, and_iff_left hne]
  cases keywords with
  | nil =>
      -- the description of no keywords still has one piece, which is empty
      have hempty : trim "" ≠ keyword := fun htrim => hne htrim.symm
      show (∃ piece ∈ [""], trim piece = keyword) ↔ _
      simpa using hempty
  | cons first rest =>
      rw [split_join (List.cons_ne_nil first rest) fun piece hpiece => (h piece hpiece).comma_notMem]
      constructor
      · rintro ⟨piece, hpiece, htrim⟩
        rw [← ((h piece hpiece).trim_eq_iff hblank).mp htrim]
        exact hpiece
      · intro hmem
        exact ⟨keyword, hmem, ((h keyword hmem).trim_eq_iff hblank).mpr rfl⟩

/-! ## Extent -/

/-- The keyword is one that a description can hold: it is not empty and has no comma, and neither of its
ends is blank. -/
structure StandsAlone (keyword : String) : Prop where
  not_empty : keyword ≠ ""
  no_comma : ',' ∉ keyword.toList
  first : ∀ c, keyword.toList.head? = some c → isBlankChar c = false
  last : ∀ c, keyword.toList.getLast? = some c → isBlankChar c = false

/-- There is a keyword, and a description can hold each of them. -/
def IsKeywordList (keywords : List String) : Prop :=
  keywords ≠ [] ∧ ∀ keyword ∈ keywords, StandsAlone keyword

theorem StandsAlone.trim_eq {keyword : String} (h : StandsAlone keyword) : trim keyword = keyword :=
  trim_eq_self_iff.mpr ⟨h.first, h.last⟩

/-- A trimmed piece of a description is a keyword unless it is empty. -/
theorem standsAlone_trim {description piece : String} (hpiece : piece ∈ split ',' description)
    (hne : trim piece ≠ "") : StandsAlone (trim piece) := by
  obtain ⟨hfirst, hlast⟩ := trim_eq_self_iff.mp (trim_trim piece)
  refine ⟨hne, ?_, hfirst, hlast⟩
  rw [toList_trim]
  intro hcomma
  exact separator_notMem_of_mem_split hpiece (mem_of_mem_trimChars hcomma)

/-- Keywords are read from a description when some are left of its pieces, and then those. -/
theorem keywordsOfDescription_eq_some_iff {description : String} {keywords : List String} :
    keywordsOfDescription? description = some keywords ↔
      keywords ≠ [] ∧ ((split ',' description).map trim).filter (· ≠ "") = keywords := by
  unfold keywordsOfDescription?
  dsimp only
  by_cases hempty : ((split ',' description).map trim).filter (· ≠ "") = []
  · rw [hempty]
    refine iff_of_false (by simp) ?_
    rintro ⟨hne, hnil⟩
    exact hne hnil.symm
  · rw [if_neg (by simpa using hempty), Option.some_inj]
    constructor
    · rintro rfl
      exact ⟨hempty, rfl⟩
    · exact fun h => h.2

/-- **What is read from a description** is a list of keywords that a description can hold. -/
theorem isKeywordList_of_description {description : String} {keywords : List String}
    (h : keywordsOfDescription? description = some keywords) : IsKeywordList keywords := by
  obtain ⟨hne, rfl⟩ := keywordsOfDescription_eq_some_iff.mp h
  refine ⟨hne, ?_⟩
  intro keyword hkeyword
  obtain ⟨hmem, hkept⟩ := List.mem_filter.mp hkeyword
  obtain ⟨piece, hpiece, rfl⟩ := List.mem_map.mp hmem
  exact standsAlone_trim hpiece (by simpa using hkept)

/-- **What a description can hold comes back**, in its order and with its repetitions. -/
theorem keywordsOfDescription_join {keywords : List String} (h : IsKeywordList keywords) :
    keywordsOfDescription? (join ',' keywords) = some keywords := by
  obtain ⟨hne, halone⟩ := h
  have htrim : keywords.map trim = keywords := by
    rw [List.map_congr_left fun keyword hkeyword => (halone keyword hkeyword).trim_eq, List.map_id']
  have hkept : keywords.filter (· ≠ "") = keywords := by
    rw [List.filter_eq_self]
    intro keyword hkeyword
    exact decide_eq_true (halone keyword hkeyword).not_empty
  rw [keywordsOfDescription_eq_some_iff,
    split_join hne fun keyword hkeyword => (halone keyword hkeyword).no_comma, htrim]
  exact ⟨hne, hkept⟩

/-- A description has no keywords exactly where all of its pieces are blank. -/
theorem keywordsOfDescription_eq_none_iff {description : String} :
    keywordsOfDescription? description = none ↔
      ∀ piece ∈ split ',' description, isBlank piece = true := by
  have hnone : keywordsOfDescription? description = none ↔
      ((split ',' description).map trim).filter (· ≠ "") = [] := by
    simp only [keywordsOfDescription?, ite_eq_left_iff, reduceCtorEq, imp_false, not_not,
      List.isEmpty_iff]
  rw [hnone, List.filter_eq_nil_iff, List.forall_mem_map]
  refine forall₂_congr fun piece _ => ?_
  rw [isBlank_iff_trim_eq_empty, decide_eq_true_eq, not_not]

/-- **Which lists of keywords a description gives back.** Those come back as they are that have a
keyword, and whose keywords are not empty, without a comma and without blanks at their ends. Whatever is
read from a description is such a list, so it comes back when it is kept as a description again; and
nothing is read exactly where all pieces between the commas are blank. -/
theorem description_gives_back_iff :
    (∀ keywords, keywordsOfDescription? (join ',' keywords) = some keywords ↔
      IsKeywordList keywords) ∧
    (∀ description keywords, keywordsOfDescription? description = some keywords →
      IsKeywordList keywords ∧ keywordsOfDescription? (join ',' keywords) = some keywords) ∧
    ∀ description, keywordsOfDescription? description = none ↔
      ∀ piece ∈ split ',' description, isBlank piece = true := by
  refine ⟨?_, ?_, fun _ => keywordsOfDescription_eq_none_iff⟩
  · intro keywords
    exact ⟨isKeywordList_of_description, keywordsOfDescription_join⟩
  · intro description keywords h
    have hlist := isKeywordList_of_description h
    exact ⟨hlist, keywordsOfDescription_join hlist⟩

/-- Inner blanks and repetitions stay, and empty pieces go. -/
theorem road_trips_come_back :
    keywordsOfDescription? " road  trip,, \t,paris,road  trip" =
        some ["road  trip", "paris", "road  trip"] ∧
      keywordsOfDescription? "road  trip,paris,road  trip" =
        some ["road  trip", "paris", "road  trip"] := by
  have hread : keywordsOfDescription? " road  trip,, \t,paris,road  trip" =
      some ["road  trip", "paris", "road  trip"] := by
    decide +kernel
  have hjoin : join ',' ["road  trip", "paris", "road  trip"] = "road  trip,paris,road  trip" := by
    decide +kernel
  have hback := (description_gives_back_iff.2.1 _ _ hread).2
  rw [hjoin] at hback
  exact ⟨hread, hback⟩

/-! ## Queries -/

/-- The definition with its keywords as they are read back from its description. -/
def reread (d : Definition) : Definition :=
  { d with keywords := d.keywordDescription.bind keywordsOfDescription? }

theorem keywords_reread (d : Definition) :
    d.reread.keywords = d.keywords.bind fun keywords => keywordsOfDescription? (join ',' keywords) := by
  show (d.keywords.map (join ',')).bind keywordsOfDescription? = _
  cases d.keywords <;> rfl

theorem sameEntries_reread {d : Definition}
    (h : ∀ keyword ∈ d.keywords.getD [], Describable keyword) :
    SameEntries (d.reread.keywords.getD []) (d.keywords.getD []) := by
  rw [keywords_reread]
  cases hkeywords : d.keywords with
  | none => exact SameEntries.refl []
  | some keywords =>
      rw [hkeywords, Option.getD_some] at h
      rw [Option.bind_some, Option.getD_some]
      exact sameEntries_keywordsOfDescription h

theorem sameSignals_reread {d : Definition}
    (h : ∀ keyword ∈ d.keywords.getD [], Describable keyword) : SameSignals d.reread d :=
  { SameSignals.refl d with keywords := sameEntries_reread h }

/-- **An audience that is read back from its description compiles to the same query**, or fails with the
same error, if no keyword that is not blank has a comma in it or blanks around it. -/
theorem query_reread (settings : Settings) (d : Definition)
    (h : ∀ keyword ∈ d.keywords.getD [], Describable keyword) :
    d.reread.query settings = d.query settings :=
  (sameSignals_reread h).query settings

/-- A definition whose description does not give the blank keywords back. -/
def travel : Definition :=
  { name := "Travel", keywords := some ["road trip", " ", "paris", "", "paris"], linkClick := true }

theorem query_reread_travel :
    (∀ keyword ∈ travel.keywords.getD [], Describable keyword) ∧
    travel.reread.keywords = some ["road trip", "paris", "paris"] ∧
    travel.reread.query {} = travel.query {} := by
  have h : ∀ keyword ∈ travel.keywords.getD [], Describable keyword := by decide +kernel
  exact ⟨h, by decide +kernel, query_reread {} travel h⟩

end Audience.Definition
