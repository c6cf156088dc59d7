import Audience.Definition.Basic
import Audience.Json.Reader
import Audience.Json.Record

/-!
# `Audience.Definition.Document` — definitions as JSON

A definition is an object whose members are its fields; fields without a value are left out. A document
is one definition or a list of them.

## Contents
- **Fields.** One `RecordField` for each field of a definition, in the order of declaration, and
  `schema`.
- **Definitions.** `Definition.ofJson` and `Definition.toJson`.
- **Documents.** `DocumentError`, `Definition.listOfJson` and `Definition.parse`.
-/

namespace Audience.Definition

open Json

/-! ## Fields -/

/-- An optional text. -/
def textField (key : String) : RecordField (Option String) :=
  .optional key .text Codec.text_ne_null

/-- An optional list of texts. -/
def textsField (key : String) : RecordField (Option (List String)) :=
  .optional key (.list .text) (Codec.list_ne_null _)

/-- An optional code. -/
def codeField (key : String) : RecordField (Option String) :=
  .optional key .code Codec.code_ne_null

/-- An optional list of codes. -/
def codesField (key : String) : RecordField (Option (List String)) :=
  .optional key (.list .code) (Codec.list_ne_null _)

/-- A partner segment is a pair of its two parts. -/
def partnerCodec : Codec PartnerSegment :=
  Codec.pair.convert (fun p => ⟨p.1, p.2⟩) (fun p => (p.provider, p.segment)) fun _ => rfl

/-- An optional list of partner segments. -/
def partnersField (key : String) : RecordField (Option (List PartnerSegment)) :=
  .optional key (.list partnerCodec) (Codec.list_ne_null _)

/-- A truth value with its default. -/
def flagField (key : String) (default : Bool) : RecordField Bool :=
  .plain key .flag default

/-- An unsigned 32-bit integer with its default. -/
def countField (key : String) (default : UInt32) : RecordField UInt32 :=
  .plain key .count default

namespace Fields

def name : RecordField String := .mandatory "name" .text ""
def id := textField "id"
def code := codeField "code"
def market := textField "market"
def description := textField "description"
def keywords := textsField "keywords"
def taxonomy := textsField "taxonomy"
def urls := textsField "urls"
def obsidianId := textField "obsidian_id"
def segments := codesField "segments"
def secondPartySegments := partnersField "second_party_segments"
def thirdPartySegments := partnersField "third_party_segments"
def domains := textsField "domains"
def frequency := countField "frequency_value" 1
def days := countField "during_value" 0
def pageView := flagField "page_view" true
def linkClick := flagField "link_click" false
def slotClick := flagField "slot_click" false
def engagedTime := flagField "engaged_time" false
def engagedCompletion := flagField "engaged_completion" false
def cohortGlobal := textField "cohort_global"
def accurateId := textField "accurate_id"
def volumeId := textField "volume_id"
def accurateSegments := codesField "accurate_segments"
def volumeSegments := codesField "volume_segments"
def obsidianSegments := codesField "obsidian_segments"
def number := codeField "number"
def workspaceId := textField "workspace_id"
def tags := textsField "tags"

end Fields

/-- The fields of a definition in the order of their declaration. -/
def schema : Schema :=
  ⟨"CohortDefinition",
   [Fields.name.rule, Fields.id.rule, Fields.code.rule, Fields.market.rule,
    Fields.description.rule, Fields.keywords.rule, Fields.taxonomy.rule, Fields.urls.rule,
    Fields.obsidianId.rule, Fields.segments.rule, Fields.secondPartySegments.rule,
    Fields.thirdPartySegments.rule, Fields.domains.rule, Fields.frequency.rule, Fields.days.rule,
    Fields.pageView.rule, Fields.linkClick.rule, Fields.slotClick.rule, Fields.engagedTime.rule,
    Fields.engagedCompletion.rule, Fields.cohortGlobal.rule, Fields.accurateId.rule,
    Fields.volumeId.rule, Fields.accurateSegments.rule, Fields.volumeSegments.rule,
    Fields.obsidianSegments.rule, Fields.number.rule, Fields.workspaceId.rule, Fields.tags.rule]⟩

/-! ## Definitions -/

/-- The definition with these members; absent fields take their defaults. -/
def ofMembers (members : List (String × Json)) : Definition where
  name := Fields.name.get members
  id := Fields.id.get members
  code := Fields.code.get members
  market := Fields.market.get members
  description := Fields.description.get members
  keywords := Fields.keywords.get members
  taxonomy := Fields.taxonomy.get members
  urls := Fields.urls.get members
  obsidianId := Fields.obsidianId.get members
  segments := Fields.segments.get members
  secondPartySegments := Fields.secondPartySegments.get members
  thirdPartySegments := Fields.thirdPartySegments.get members
  domains := Fields.domains.get members
  frequency := Fields.frequency.get members
  days := Fields.days.get members
  pageView := Fields.pageView.get members
  linkClick := Fields.linkClick.get members
  slotClick := Fields.slotClick.get members
  engagedTime := Fields.engagedTime.get members
  engagedCompletion := Fields.engagedCompletion.get members
  cohortGlobal := Fields.cohortGlobal.get members
  accurateId := Fields.accurateId.get members
  volumeId := Fields.volumeId.get members
  accurateSegments := Fields.accurateSegments.get members
  volumeSegments := Fields.volumeSegments.get members
  obsidianSegments := Fields.obsidianSegments.get members
  number := Fields.number.get members
  workspaceId := Fields.workspaceId.get members
  tags := Fields.tags.get members

/-- The members of a definition in the order of the fields. -/
def members (d : Definition) : List (String × Json) :=
  Fields.name.put d.name ++ Fields.id.put d.id ++ Fields.code.put d.code ++
  Fields.market.put d.market ++ Fields.description.put d.description ++
  Fields.keywords.put d.keywords ++ Fields.taxonomy.put d.taxonomy ++ Fields.urls.put d.urls ++
  Fields.obsidianId.put d.obsidianId ++ Fields.segments.put d.segments ++
  Fields.secondPartySegments.put d.secondPartySegments ++
  Fields.thirdPartySegments.put d.thirdPartySegments ++ Fields.domains.put d.domains ++
  Fields.frequency.put d.frequency ++ Fields.days.put d.days ++ Fields.pageView.put d.pageView ++
  Fields.linkClick.put d.linkClick ++ Fields.slotClick.put d.slotClick ++
  Fields.engagedTime.put d.engagedTime ++ Fields.engagedCompletion.put d.engagedCompletion ++
  Fields.cohortGlobal.put d.cohortGlobal ++ Fields.accurateId.put d.accurateId ++
  Fields.volumeId.put d.volumeId ++ Fields.accurateSegments.put d.accurateSegments ++
  Fields.volumeSegments.put d.volumeSegments ++
  Fields.obsidianSegments.put d.obsidianSegments ++ Fields.number.put d.number ++
  Fields.workspaceId.put d.workspaceId ++ Fields.tags.put d.tags

/-- The definition in a JSON value. -/
def ofJson (v : Json) : Except Mismatch Definition :=
  (schema.members v).map ofMembers

/-- The definition as a JSON value. -/
def toJson (d : Definition) : Json :=
  Json.ofMembers d.members

/-! ## Documents -/

/-- Why a text is no document of definitions. -/
inductive DocumentError where
  /-- The text is not JSON. -/
  | syntactic
  /-- The JSON is of the wrong shape. -/
  | shape (mismatch : Mismatch)

/-- The definitions in a JSON value: one for each item of a list, and one for any other value. -/
def listOfJson : Json → Except Mismatch (List Definition)
  | .list items => items.mapM ofJson
  | v => (ofJson v).map fun d => [d]

/-- The definitions in a text. -/
def parse (s : String) : Except DocumentError (List Definition) :=
  match Json.parse? s with
  | none => .error .syntactic
  | some v => (listOfJson v).mapError .shape

end Audience.Definition
