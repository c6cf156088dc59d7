import Audience.Roster
import Audience.Text.Split

/-!
# `Audience.Definition.Basic` — declarative audience definitions

A definition names an audience and lists the signals that put a user into it. Every list is optional:
no list means that the signal is not used, and blank entries never count.

## Contents
- **Partner segments.** `PartnerSegment`, a segment of another data provider.
- **Definitions.** `Definition`, with a default for every field but the name.
- **Signals.** `hasKeywords` … `hasContent`: which signals are populated.
- **Codes and names.** `platformCode`, `clickersName`.
- **Descriptions.** `keywordDescription` and `keywordsOfDescription?`.
-/

namespace Audience

open Text

/-! ## Partner segments -/

/-- A segment of another data provider. -/
structure PartnerSegment where
  provider : String
  segment : String
deriving DecidableEq

/-- Partner segments ascend by provider and then by segment; one is blank when either part is. -/
instance : Roster.Entry PartnerSegment where
  before p q :=
    if p.provider = q.provider then Text.before p.segment q.segment
    else Text.before p.provider q.provider
  isBlank p := isBlank p.provider || isBlank p.segment
  before_irrefl p := by simp [before_irrefl]
  before_trans {p q r} h h' := by
    by_cases hpq : p.provider = q.provider <;> by_cases hqr : q.provider = r.provider
    · rw [if_pos hpq] at h
      rw [if_pos hqr] at h'
      rw [if_pos (hpq.trans hqr)]
      exact before_trans h h'
    · rw [if_neg hqr] at h'
      rw [if_neg (fun hpr => hqr (hpq ▸ hpr)), hpq]
      exact h'
    · rw [if_neg hpq] at h
      rw [if_neg (fun hpr => hpq (hpr.trans hqr.symm)), ← hqr]
      exact h
    · rw [if_neg hpq] at h
      rw [if_neg hqr] at h'
      have hpr := before_trans h h'
      rw [if_neg ?_]
      · exact hpr
      · intro he
        rw [he, before_irrefl] at hpr
        cases hpr
  eq_of_not_before {p q} h h' := by
    by_cases hpq : p.provider = q.provider
    · rw [if_pos hpq] at h
      rw [if_pos hpq.symm] at h'
      have hs : p.segment = q.segment := eq_of_not_before h h'
      cases p
      cases q
      simp only at hpq hs
      rw [hpq, hs]
    · rw [if_neg hpq] at h
      rw [if_neg (fun hqp => hpq hqp.symm)] at h'
      exact absurd (eq_of_not_before h h') hpq

/-! ## Definitions -/

/-- A declarative audience definition. -/
structure Definition where
  name : String
  id : Option String := none
  /-- The code that the platform gave to the audience. -/
  code : Option String := none
  market : Option String := none
  description : Option String := none
  keywords : Option (List String) := none
  taxonomy : Option (List String) := none
  urls : Option (List String) := none
  obsidianId : Option String := none
  /-- Codes of the platform's segments that the user must have entered. -/
  segments : Option (List String) := none
  secondPartySegments : Option (List PartnerSegment) := none
  thirdPartySegments : Option (List PartnerSegment) := none
  /-- Domains that every other condition is narrowed to. -/
  domains : Option (List String) := none
  frequency : UInt32 := 1
  /-- The trailing window in days; zero means no window. -/
  days : UInt32 := 0
  pageView : Bool := true
  linkClick : Bool := false
  slotClick : Bool := false
  engagedTime : Bool := false
  engagedCompletion : Bool := false
  /-- The group whose members are rolled up into one seed. -/
  cohortGlobal : Option String := none
  accurateId : Option String := none
  volumeId : Option String := none
  accurateSegments : Option (List String) := none
  volumeSegments : Option (List String) := none
  obsidianSegments : Option (List String) := none
  /-- The platform's code in older files. -/
  number : Option String := none
  workspaceId : Option String := none
  tags : Option (List String) := none
deriving DecidableEq

namespace Definition

/-- The definition that has nothing but a name. -/
def ofName (name : String) : Definition :=
  { name := name }

/-! ## Signals -/

/-- Some entry of the list is not blank. -/
def populated (entries : Option (List String)) : Bool :=
  (entries.getD []).any fun s => !isBlank s

/-- Some keyword is not blank. -/
def hasKeywords (d : Definition) : Bool := populated d.keywords

/-- Some taxonomy label is not blank. -/
def hasTaxonomy (d : Definition) : Bool := populated d.taxonomy

/-- Some URL is not blank. -/
def hasUrls (d : Definition) : Bool := populated d.urls

/-- The context segment is there and not blank. -/
def hasObsidianId (d : Definition) : Bool :=
  d.obsidianId.any fun s => !isBlank s

/-- Some signal is populated that can match the content of a page. -/
def hasContent (d : Definition) : Bool :=
  d.hasKeywords || d.hasTaxonomy || d.hasUrls || d.hasObsidianId

/-- Some segment code is not blank. -/
def hasSegments (d : Definition) : Bool := populated d.segments

/-- Some domain is not blank. -/
def hasDomains (d : Definition) : Bool := populated d.domains

/-! ## Codes and names -/

/-- A code without the blanks around it, if anything is left. -/
def trimmedCode? (code : Option String) : Option String :=
  (code.map trim).filter (· ≠ "")

/-- The audience's own code on the platform: `code`, or `number` where `code` is blank. -/
def platformCode (d : Definition) : Option String :=
  (trimmedCode? d.code).or (trimmedCode? d.number)

/-- The name of the companion audience of users who clicked the audience's ad slots. -/
def clickersName (d : Definition) : String :=
  d.name ++ " | Clickers"

/-! ## Descriptions -/

/-- The keywords in one text, which is kept as the description on the platform. -/
def keywordDescription (d : Definition) : Option String :=
  d.keywords.map (join ',')

/-- The keywords in a description: its pieces between the commas, trimmed, without the empty ones. -/
def keywordsOfDescription? (description : String) : Option (List String) :=
  let keywords := ((split ',' description).map trim).filter (· ≠ "")
  if keywords.isEmpty then none else some keywords

/-! ## Examples -/

example : keywordsOfDescription? " paris, road trip,," = some ["paris", "road trip"] := by
  decide +kernel

example : ({ name := "a", code := some " ", number := some " 42" } : Definition).platformCode =
    some "42" := by
  decide +kernel

end Definition

end Audience
