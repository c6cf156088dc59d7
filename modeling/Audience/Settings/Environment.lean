import Audience.Settings.Basic
import Audience.Settings.Node

/-!
# `Audience.Settings.Environment` — the configuration in environment variables

The variables that are read put their values together at their paths, and every path has to lead to a
place. The configuration has two sections with seven fields in all, and whatever is at other places does
not matter. A field that nothing is put at has its default; what is put at a field has to fit the type of
the field.

## Contents
- **Variables.** `listPaths` and `assembled`.
- **Fields.** `member` and `field`: a section may be a list of its fields in their order.
- **Loading.** `settingsIn`, `dataPathIn` and `load`.
-/

namespace Audience.Environment

/-! ## Variables -/

/-- The paths of the variables whose values are lists. -/
def listPaths : List (List Char) :=
  ["compiler.link_click_destinations".toList, "compiler.default_tags".toList]

/-- The configuration with the value of a variable in its place, if the name leads to one. -/
def withVariable (old : Node) (v : String × String) : Except SettingsError Node :=
  match pathText? v.1 with
  | none => .ok old
  | some cs =>
      match Path.ofText? cs with
      | none => .ok old
      | some path =>
          match Node.put? path (.ofText (listPaths.contains cs) v.2) old with
          | none => .error .noSuchPosition
          | some new => .ok new

/-- What the variables of an environment put together; of two values at one place the later counts. -/
def assembled (env : List (String × String)) : Except SettingsError Node :=
  env.foldlM withVariable (.members [])

/-! ## Fields -/

/-- The node of a field in a section: under its key or, where the section is a list, at its position.
There is no section in a single value. -/
def member (parent : Node) (key : String) (position : Nat) : Except SettingsError (Option Node) :=
  match parent with
  | .nothing => .ok none
  | .members nodes => .ok (Keyed.lookup? key nodes)
  | .items nodes => .ok nodes[position]?
  | .scalar _ => .error .unreadable

/-- The value of a field in a section. -/
def field {α : Type} (parent : Node) (key : String) (position : Nat) (convert : Node → Option α)
    (default : α) : Except SettingsError α := do
  match ← member parent key position with
  | none => return default
  | some n =>
      match convert n with
      | some v => return v
      | none => throw .unreadable

/-! ## Loading -/

/-- A section of the configuration. -/
def sectionOf (root : Node) (key : String) : Node :=
  (Keyed.lookup? key root.memberNodes).getD .nothing

/-- The settings in their section. -/
def settingsIn (compiler : Node) : Except SettingsError Settings := do
  let defaults : Settings := {}
  let linkClickDestinations ←
    field compiler "link_click_destinations" 0 Node.asTexts? defaults.linkClickDestinations
  let engagedTimeSeconds ←
    field compiler "engaged_time_seconds" 1 Node.asCount? defaults.engagedTimeSeconds
  let engagedCompletionRatio ←
    field compiler "engaged_completion_ratio" 2 Node.asRatio? defaults.engagedCompletionRatio
  let slotTargetingKey ←
    field compiler "slot_targeting_key" 3 Node.asText? defaults.slotTargetingKey
  let defaultTags ← field compiler "default_tags" 4 Node.asTexts? defaults.defaultTags
  let defaultMarket ← field compiler "default_market" 5 Node.asText? defaults.defaultMarket
  return { linkClickDestinations, engagedTimeSeconds, engagedCompletionRatio, slotTargetingKey,
           defaultTags, defaultMarket }

/-- The data path in its section. -/
def dataPathIn (data : Node) : Except SettingsError (Option String) :=
  field data "data_path" 0 Node.asOptionalText? none

/-- The configuration in the environment; its settings must be valid. -/
def load (env : List (String × String)) : Except SettingsError Configuration := do
  let root ← assembled env
  let compiler ← settingsIn (sectionOf root "compiler")
  let dataPath ← dataPathIn (sectionOf root "data")
  compiler.validate
  return { compiler, dataPath }

/-! ## Examples -/

example : (load []).toOption = some {} := by decide +kernel

example : ((load [("Cohort_Compiler__Data__Data_Path", "007")]).toOption.bind (·.dataPath)) =
    some "7" := by
  decide +kernel

example : (load [("COHORT_COMPILER__COMPILER__DEFAULT_TAGS", "5")]).isOk = false := by
  decide +kernel

example : ((load [("COHORT_COMPILER__COMPILER__DEFAULT_TAGS[0]", "5")]).toOption.map
    (·.compiler.defaultTags)) = some ["5"] := by
  decide +kernel

example : (load [("COHORT_COMPILER__OTHER[-1]", "5")] matches .error .noSuchPosition) = true := by
  decide +kernel

end Audience.Environment
