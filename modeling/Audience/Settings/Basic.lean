import Audience.Number.Layout
import Audience.Text.Blank

/-!
# `Audience.Settings.Basic` — the constants that compilation uses

The settings are the constants in compiled queries and payloads; a configuration adds where definitions
are found. Settings that would compile into conditions that nothing can satisfy are refused.

## Contents
- **Settings.** `Settings` and `Configuration`, with their defaults.
- **Validity.** `SettingsError`, its texts, and `Settings.validate`.
-/

namespace Audience

open Number Text

/-! ## Settings -/

/-- The constants in compiled queries and payloads. -/
structure Settings where
  /-- The hosts that an outbound click must point at. -/
  linkClickDestinations : List String := ["facebook.com", "instagram.com", "pinterest.com"]
  engagedTimeSeconds : UInt32 := 30
  engagedCompletionRatio : Binary64 := .ofRatio false 6 10
  /-- The key under which ad slots carry the platform's segment codes. -/
  slotTargetingKey : String := "permutive"
  /-- The tags of every payload. -/
  defaultTags : List String := ["#automatic", "#spireglobal"]
  /-- The market of seeds whose members have none. -/
  defaultMarket : String := "CN"
deriving DecidableEq

/-- The settings, and the folder under which definitions are found. -/
structure Configuration where
  compiler : Settings := {}
  dataPath : Option String := none
deriving DecidableEq

/-! ## Validity -/

/-- Why a configuration cannot be used. -/
inductive SettingsError where
  /-- Some value is meant for a position that its list cannot have. -/
  | noSuchPosition
  /-- Some value is not of its field's type. -/
  | unreadable
  | noDestination
  | ratioOutOfRange (ratio : Binary64)
  | noTargetingKey
deriving DecidableEq

namespace SettingsError

/-- What is wrong with the value of a field. -/
def detail? : SettingsError → Option String
  | .noSuchPosition => none
  | .unreadable => none
  | .noDestination => some "link_click_destinations must name at least one host"
  | .ratioOutOfRange ratio =>
      some ("engaged_completion_ratio must be within 0..=1, got " ++ plainText ratio)
  | .noTargetingKey => some "slot_targeting_key must not be empty"

/-- The text of the error. -/
def message (e : SettingsError) : String :=
  match e.detail? with
  | none => "Configuration error"
  | some detail => "Configuration error: " ++ detail

end SettingsError

/-- Settings are valid when some destination is not blank, the ratio lies between zero and one, and the
targeting key is not blank. The first fault in this order decides. -/
def Settings.validate (s : Settings) : Except SettingsError Unit :=
  if s.linkClickDestinations.all isBlank then .error .noDestination
  else if !s.engagedCompletionRatio.inUnitInterval then
    .error (.ratioOutOfRange s.engagedCompletionRatio)
  else if isBlank s.slotTargetingKey then .error .noTargetingKey
  else .ok ()

example : ({} : Settings).validate.isOk = true := by decide +kernel

end Audience
