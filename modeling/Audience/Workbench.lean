import Audience.Definition.Merge
import Audience.Payload
import Audience.Seed
import Audience.Settings.Document

/-!
# `Audience.Workbench` — editing definitions under names

A workbench holds definitions under the names of their slots, and the settings that they are compiled
with. Every operation that fails leaves the workbench as it is. The program has no use for it: it is the
state of a session that calls the library step by step, which is how sequences of calls are tested.

## Contents
- **State.** `Workbench`, `WorkbenchError` and `slot`.
- **Edits.** `define`, `assign`, `describe`, `mergeFrom`, `rollUp`, `configure`.
- **Questions.** `selected` and `inWorkspace`.
-/

namespace Audience

open Json

/-! ## State -/

/-- Definitions under the names of their slots, and settings. -/
structure Workbench where
  slots : List (String × Definition) := []
  settings : Settings := {}

/-- Why an operation fails. -/
inductive WorkbenchError where
  /-- There is no definition in the slot. -/
  | emptySlot (slot : String)
  | shape (cause : Mismatch)
  | settings (cause : SettingsError)
  | missing (cause : MissingContent)

namespace Workbench

/-- The definition in a slot. -/
def slot (w : Workbench) (name : String) : Except WorkbenchError Definition :=
  match Keyed.lookup? name w.slots with
  | none => .error (.emptySlot name)
  | some d => .ok d

/-- The workbench with a definition in a slot, and that definition. -/
def put (w : Workbench) (name : String) (d : Definition) : Workbench × Definition :=
  ({ w with slots := Keyed.insert name d w.slots }, d)

/-! ## Edits -/

/-- Puts the definition in a JSON value into a slot. -/
def define (w : Workbench) (name : String) (v : Json) :
    Except WorkbenchError (Workbench × Definition) :=
  ((Definition.ofJson v).map (w.put name)).mapError .shape

/-- The definition with members of its object replaced. -/
def assignMembers (d : Definition) (fields : List (String × Json)) :
    Except Mismatch Definition :=
  Definition.ofJson (.ofMembers (d.members ++ fields))

/-- Replaces fields of the definition in a slot. -/
def assign (w : Workbench) (name : String) (fields : List (String × Json)) :
    Except WorkbenchError (Workbench × Definition) := do
  let d ← w.slot name
  let changed ← (assignMembers d fields).mapError .shape
  return w.put name changed

/-- Takes the keywords of the definition in a slot from a description. -/
def describe (w : Workbench) (name description : String) :
    Except WorkbenchError (Workbench × Definition) := do
  let d ← w.slot name
  return w.put name { d with keywords := Definition.keywordsOfDescription? description }

/-- Merges the definition in one slot into that in another. -/
def mergeFrom (w : Workbench) (name source : String) :
    Except WorkbenchError (Workbench × Definition) := do
  let d ← w.slot name
  let incoming ← w.slot source
  return w.put name (d.merge incoming)

/-- The definitions in some slots. -/
def selected (w : Workbench) (names : List String) : Except WorkbenchError (List Definition) :=
  names.mapM w.slot

/-- The workbench with definitions in slots numbered from an index on. -/
def putNumbered (w : Workbench) (name : String) (index : Nat) : List Definition → Workbench
  | [] => w
  | d :: ds => putNumbered (w.put (name ++ Number.intText index) d).1 name (index + 1) ds

/-- Rolls the definitions in some slots up, and puts the seeds into numbered slots. -/
def rollUp (w : Workbench) (names : List String) (into : String) (market : Option String) :
    Except WorkbenchError (Workbench × List Definition) := do
  let ds ← w.selected names
  let seeds := Definition.seeds ds (market.getD w.settings.defaultMarket)
  return (w.putNumbered into 0 seeds, seeds)

/-- Replaces the settings by those in a JSON value, which must be valid. -/
def configure (w : Workbench) (v : Json) : Except WorkbenchError (Workbench × Settings) := do
  let settings ← (Settings.ofJson v).mapError .shape
  settings.validate.mapError .settings
  return ({ w with settings := settings }, settings)

/-! ## Questions -/

/-- The names of the definitions in some slots that are bound to a workspace. -/
def inWorkspace (w : Workbench) (names : List String) (workspace : String) :
    Except WorkbenchError (List String) :=
  (w.selected names).map fun ds => (Definition.inWorkspace workspace ds).map (·.name)

/-- What is made of the definition in a slot with the settings. -/
def compiled {α : Type} (w : Workbench) (name : String)
    (compile : Settings → Definition → Except MissingContent α) : Except WorkbenchError α := do
  let d ← w.slot name
  (compile w.settings d).mapError .missing

end Workbench

end Audience
