import Audience.Definition.Basic
import Audience.Keyword
import Audience.Query.Basic
import Audience.Settings.Basic

/-!
# `Audience.Signal` — the signals of a definition as conditions

There are nine kinds of signal. Each applies to a definition or not, and one that applies is built into
the branches that it contributes to the query. Some signals cannot be built without further content.

## Contents
- **Sources.** `Source`: what all signals are built from.
- **Content.** `contentLeaves`, the leaves that match the content of a page.
- **Signals.** `Signal`, its `name`, `applies` and `build`.
- **Domains.** `domainFilter`, which narrows a whole query.
-/

namespace Audience

open Text

/-! ## Sources -/

/-- What the signals of a definition are built from; the slugs are those of its keywords. -/
structure Source where
  definition : Definition
  settings : Settings
  slugs : List String

namespace Source

/-- The source of a definition. -/
def ofDefinition (settings : Settings) (d : Definition) : Source :=
  ⟨d, settings, if d.hasKeywords then Keyword.slugs (d.keywords.getD []) else []⟩

/-- The roster of the keywords. -/
def keywords (s : Source) : List String :=
  Roster.ofList (s.definition.keywords.getD [])

/-- The roster of the URLs and slugs. -/
def clientUrls (s : Source) : List String :=
  Roster.union (s.definition.urls.getD []) s.slugs

/-- The roster of the segment codes and the audience's own code. -/
def slotCodes (s : Source) : List String :=
  let codes := Roster.ofList (s.definition.segments.getD [])
  match s.definition.platformCode with
  | none => codes
  | some code => Roster.add codes code

/-- The window of the definition. -/
def window (s : Source) : Option Window :=
  Window.lastDays s.definition.days

/-- The definition's frequency at least. -/
def frequency (s : Source) : Comparison :=
  .atLeast s.definition.frequency

end Source

/-! ## Content -/

/-- The leaves for the keywords: terms in title and description, and the keywords in category,
subcategory and tags. -/
def keywordLeaves (keywords : List String) : List Leaf :=
  if keywords.isEmpty then []
  else
    let terms := Keyword.terms keywords
    [.compare "properties.article.title" (.contains terms),
     .compare "properties.article.description" (.contains terms),
     .compare "properties.article.category" (.equalToAny keywords),
     .compare "properties.article.subcategory" (.equalToAny keywords),
     .compare "properties.article.tags" (.listContains keywords)]

/-- The leaf for the taxonomy labels. -/
def taxonomyLeaves (d : Definition) : List Leaf :=
  if d.hasTaxonomy then
    [.compare "properties.classifications_watson.taxonomy_labels"
      (.listContains (Roster.ofList (d.taxonomy.getD [])))]
  else []

/-- The leaf for the context segment, which is matched in upper case. -/
def contextLeaves (d : Definition) : List Leaf :=
  match d.obsidianId with
  | none => []
  | some id =>
      if isBlank id then []
      else [.compare "properties.context.sg" (.listContains [upper (trim id)])]

/-- The leaf for the URLs. -/
def urlLeaves (urls : List String) : List Leaf :=
  if urls.isEmpty then [] else [.compare "properties.client.url" (.contains urls)]

/-- The leaves that match the content of a page, in their fixed order. -/
def contentLeaves (s : Source) : List Leaf :=
  keywordLeaves s.keywords ++ taxonomyLeaves s.definition ++ contextLeaves s.definition ++
    urlLeaves s.clientUrls

/-! ## Signals -/

/-- Why a signal cannot be built. -/
inductive MissingContent where
  | linkClick
  | engagedTime
  | engagedCompletion
  | slotClick
deriving DecidableEq

namespace MissingContent

/-- The condition that cannot be built. -/
def condition : MissingContent → String
  | .linkClick => "LinkClick"
  | .engagedTime => "EngagedTime"
  | .engagedCompletion => "EngagedCompletion"
  | .slotClick => "SlotClick"

/-- What it would need. -/
def need : MissingContent → String
  | .linkClick => "urls or keywords"
  | .engagedTime => "keywords, taxonomy, urls or obsidian_id"
  | .engagedCompletion => "keywords, taxonomy, urls or obsidian_id"
  | .slotClick => "segments or a platform code"

/-- The text of the error. -/
def message (e : MissingContent) : String :=
  e.condition ++ " condition requires " ++ e.need

end MissingContent

/-- The kinds of signal, in the order of their branches. -/
inductive Signal where
  | pageView
  | videoView
  | linkClick
  | engagedTime
  | engagedCompletion
  | slotClick
  | segmentEntry
  | secondParty
  | thirdParty
deriving DecidableEq

namespace Signal

/-- All kinds of signal. -/
def all : List Signal :=
  [.pageView, .videoView, .linkClick, .engagedTime, .engagedCompletion, .slotClick, .segmentEntry,
   .secondParty, .thirdParty]

/-- The name of a signal. -/
def name : Signal → String
  | .pageView => "page_view"
  | .videoView => "video_view"
  | .linkClick => "link_click"
  | .engagedTime => "engaged_time"
  | .engagedCompletion => "engaged_completion"
  | .slotClick => "slot_click"
  | .segmentEntry => "cohort_transition"
  | .secondParty => "second_party_segment"
  | .thirdParty => "third_party_segment"

/-- The signal of a name. -/
def ofName? (name : String) : Option Signal :=
  all.find? (·.name == name)

/-- The signal is used by the definition. A video is matched by its title alone, so a video view needs
keywords; the other views need any content. -/
def applies (d : Definition) : Signal → Bool
  | .pageView => d.pageView && d.hasContent
  | .videoView => d.pageView && d.hasContent && d.hasKeywords
  | .linkClick => d.linkClick
  | .engagedTime => d.engagedTime
  | .engagedCompletion => d.engagedCompletion
  | .slotClick => d.slotClick
  | .segmentEntry => d.hasSegments
  | .secondParty => (d.secondPartySegments.getD []) ≠ []
  | .thirdParty => (d.thirdPartySegments.getD []) ≠ []

/-- A view of a page whose content matches. -/
def buildPageView (s : Source) : Condition :=
  .event s.window "Pageview" s.frequency (.any (contentLeaves s))

/-- A view of a video whose title matches. -/
def buildVideoView (s : Source) : Condition :=
  .event s.window "videoViews" s.frequency
    (.any [.compare "properties.videoTitle" (.contains (Keyword.terms s.keywords))])

/-- A click from a matching page to one of the destinations. -/
def buildLinkClick (s : Source) : Except MissingContent Condition :=
  if s.clientUrls.isEmpty then .error .linkClick
  else
    .ok (.event none "LinkClick" (.atLeast 1)
      (.all
        [.compare "properties.dest_url" (.contains s.settings.linkClickDestinations),
         .compare "properties.client.url" (.contains s.clientUrls)]))

/-- Time spent on pages whose content matches. -/
def buildEngagedTime (s : Source) : Except MissingContent Condition :=
  if s.definition.hasContent then
    .ok (.engagedTime ⟨.greaterThan, .int s.settings.engagedTimeSeconds.toNat⟩
      (.any (contentLeaves s)))
  else .error .engagedTime

/-- Pages read to the end whose content matches. -/
def buildEngagedCompletion (s : Source) : Except MissingContent Condition :=
  if s.definition.hasContent then
    .ok (.engagedCompletion ⟨.greaterThan, .ofFloat s.settings.engagedCompletionRatio⟩
      (.any (contentLeaves s)))
  else .error .engagedCompletion

/-- A click on an ad slot that was targeted at one of the codes. -/
def buildSlotClick (s : Source) : Except MissingContent Condition :=
  if s.slotCodes.isEmpty then .error .slotClick
  else
    .ok (.event none "GamLogSlotClicked" (.atLeast 1)
      (.single
        (.anyElement "properties.slot.targeting_keys" "key" (.equalTo s.settings.slotTargetingKey)
          (.compare "value" (.listContains s.slotCodes)))))

/-- The segments that the codes denote, ascending; a code that is no integer denotes none. -/
def enteredSegments (d : Definition) : List Int :=
  Roster.sorted ((d.segments.getD []).filterMap fun code =>
    Number.readInt64? (trimChars code.toList))

/-- The branches that a signal contributes. -/
def build (s : Source) : Signal → Except MissingContent (List Condition)
  | .pageView => .ok [buildPageView s]
  | .videoView => .ok [buildVideoView s]
  | .linkClick => (buildLinkClick s).map ([·])
  | .engagedTime => (buildEngagedTime s).map ([·])
  | .engagedCompletion => (buildEngagedCompletion s).map ([·])
  | .slotClick => (buildSlotClick s).map ([·])
  | .segmentEntry => .ok ((enteredSegments s.definition).map (.hasEntered s.window))
  | .secondParty =>
      .ok ((Roster.ofList (s.definition.secondPartySegments.getD [])).map fun p =>
        .inSecondPartySegment p.provider p.segment)
  | .thirdParty =>
      .ok ((Roster.ofList (s.definition.thirdPartySegments.getD [])).map fun p =>
        .inThirdPartySegment p.provider p.segment)

end Signal

/-! ## Domains -/

/-- A view of a page on one of the definition's domains. -/
def domainFilter (d : Definition) : Condition :=
  .event none "Pageview" (.atLeast 1)
    (.single (.compare "properties.client.domain"
      (.contains (Roster.ofList (d.domains.getD [])))))

end Audience
