import Audience.Json.Record
import Audience.Settings.Basic

/-!
# `Audience.Settings.Document` — settings as JSON

Every field may be absent, but none may be `null` save the data path.

## Contents
- **Settings.** The fields, `Settings.ofJson` and `Settings.toJson`.
- **Configurations.** `Configuration.ofJson`.
-/

namespace Audience

open Json Number

/-! ## Settings -/

/-- A floating-point number. -/
def ratioCodec : Codec Binary64 where
  encode := .float
  decode := Codec.ratio?
  decode_encode _ := rfl

namespace Settings.Fields

def linkClickDestinations : RecordField (List String) :=
  .plain "link_click_destinations" (.list .text) ({} : Settings).linkClickDestinations

def engagedTimeSeconds : RecordField UInt32 :=
  .plain "engaged_time_seconds" .count ({} : Settings).engagedTimeSeconds

def engagedCompletionRatio : RecordField Binary64 :=
  .plain "engaged_completion_ratio" ratioCodec ({} : Settings).engagedCompletionRatio

def slotTargetingKey : RecordField String :=
  .plain "slot_targeting_key" .text ({} : Settings).slotTargetingKey

def defaultTags : RecordField (List String) :=
  .plain "default_tags" (.list .text) ({} : Settings).defaultTags

def defaultMarket : RecordField String :=
  .plain "default_market" .text ({} : Settings).defaultMarket

end Settings.Fields

/-- The fields of settings in the order of their declaration. -/
def Settings.schema : Schema :=
  ⟨"CompilerConfig",
   [Fields.linkClickDestinations.rule, Fields.engagedTimeSeconds.rule,
    Fields.engagedCompletionRatio.rule, Fields.slotTargetingKey.rule, Fields.defaultTags.rule,
    Fields.defaultMarket.rule]⟩

/-- The settings with these members. -/
def Settings.ofMembers (members : List (String × Json)) : Settings where
  linkClickDestinations := Fields.linkClickDestinations.get members
  engagedTimeSeconds := Fields.engagedTimeSeconds.get members
  engagedCompletionRatio := Fields.engagedCompletionRatio.get members
  slotTargetingKey := Fields.slotTargetingKey.get members
  defaultTags := Fields.defaultTags.get members
  defaultMarket := Fields.defaultMarket.get members

/-- The settings in a JSON value. -/
def Settings.ofJson (v : Json) : Except Mismatch Settings :=
  (Settings.schema.members v).map Settings.ofMembers

/-- The settings as a JSON value. -/
def Settings.toJson (s : Settings) : Json :=
  .ofMembers
    (Fields.linkClickDestinations.put s.linkClickDestinations ++
      Fields.engagedTimeSeconds.put s.engagedTimeSeconds ++
      Fields.engagedCompletionRatio.put s.engagedCompletionRatio ++
      Fields.slotTargetingKey.put s.slotTargetingKey ++ Fields.defaultTags.put s.defaultTags ++
      Fields.defaultMarket.put s.defaultMarket)

/-! ## Configurations -/

namespace Configuration

/-- The folder of definitions. -/
def dataPathField : RecordField (Option String) :=
  .optional "data_path" .text Codec.text_ne_null

/-- The section that says where definitions are found. -/
def dataSchema : Schema :=
  ⟨"DataConfig", [dataPathField.rule]⟩

/-- The data path in its section. -/
def dataPathOfJson (v : Json) : Except Mismatch (Option String) :=
  (dataSchema.members v).map dataPathField.get

/-- The two sections of a configuration. -/
def schema : Schema :=
  ⟨"AppConfig",
   [⟨"compiler", false, fun v => (Settings.ofJson v).map fun _ => ()⟩,
    ⟨"data", false, fun v => (dataPathOfJson v).map fun _ => ()⟩]⟩

/-- The configuration with these members; an absent section has its defaults. -/
def ofMembers (members : List (String × Json)) : Configuration where
  compiler := ((Keyed.lookup? "compiler" members).bind fun v => (Settings.ofJson v).toOption).getD {}
  dataPath :=
    ((Keyed.lookup? "data" members).bind fun v => (dataPathOfJson v).toOption).getD none

/-- The configuration in a JSON value. -/
def ofJson (v : Json) : Except Mismatch Configuration :=
  (schema.members v).map ofMembers

/-- The configuration as a JSON value. -/
def toJson (c : Configuration) : Json :=
  .ofMembers
    [("compiler", c.compiler.toJson),
     ("data_path", match c.dataPath with | none => .null | some path => .text path)]

end Configuration

end Audience
