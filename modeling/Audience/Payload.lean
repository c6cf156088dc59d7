import Audience.Compile
import Audience.Definition.Document

/-!
# `Audience.Payload` — the bodies of create and update calls

A payload carries the compiled query of an audience, with its name, description and tags.

## Contents
- **Payloads.** `Payload`.
- **Building.** `Payload.ofDefinition` and `Payload.clickers`.
- **As JSON.** `Payload.ofJson` and `Payload.toJson`.
-/

namespace Audience

open Json

/-! ## Payloads -/

/-- The body of a create or update call. -/
structure Payload where
  id : Option String
  name : String
  query : Json
  description : Option String
  tags : List String

namespace Payload

/-! ## Building -/

/-- The payload of a definition; its tags are the given ones and those of the settings. -/
def ofDefinition (settings : Settings) (tags : List String) (d : Definition) :
    Except MissingContent Payload :=
  (d.query settings).map fun q =>
    { id := d.id
      name := d.name
      query := q.toJson
      description := d.keywordDescription
      tags := Roster.union tags settings.defaultTags }

/-- The payload of the companion audience of users who clicked the audience's ad slots. -/
def clickers (settings : Settings) (tags : List String) (d : Definition) :
    Except MissingContent Payload :=
  (d.clickersQuery settings).map fun q =>
    { id := none
      name := d.clickersName
      query := q.toJson
      description := none
      tags := Roster.union tags settings.defaultTags }

/-! ## As JSON -/

namespace Fields

def id : RecordField (Option String) := Definition.textField "id"
def name : RecordField String := .mandatory "name" .text ""
def query : RecordField Json := .mandatory "query" .raw .null
def description : RecordField (Option String) := Definition.textField "description"
def tags : RecordField (List String) := .plain "tags" (.list .text) []

end Fields

/-- The fields of a payload in the order of their declaration. -/
def schema : Schema :=
  ⟨"CohortPayload",
   [Fields.id.rule, Fields.name.rule, Fields.query.rule, Fields.description.rule,
    Fields.tags.rule]⟩

/-- The payload with these members. -/
def ofMembers (members : List (String × Json)) : Payload where
  id := Fields.id.get members
  name := Fields.name.get members
  query := Fields.query.get members
  description := Fields.description.get members
  tags := Fields.tags.get members

/-- The payload in a JSON value. -/
def ofJson (v : Json) : Except Mismatch Payload :=
  (schema.members v).map ofMembers

/-- The payload as a JSON value. -/
def toJson (p : Payload) : Json :=
  .ofMembers
    (Fields.id.put p.id ++ Fields.name.put p.name ++ Fields.query.put p.query ++
      Fields.description.put p.description ++ Fields.tags.put p.tags)

end Payload

end Audience
