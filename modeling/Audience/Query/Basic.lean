import Audience.Json.Value

/-!
# `Audience.Query.Basic` — targeting queries

A query is a union of branches, each a condition on what a user did, and may be narrowed by further
conditions. Conditions on events test the properties of the event by leaves.

## Contents
- **Leaves.** `Operator`, `Comparison`, `Leaf`, `Where`.
- **Conditions.** `Window`, `Condition`.
- **Queries.** `Query`, its `branches` and its `filter?`.
-/

namespace Audience

/-! ## Leaves -/

/-- How a property is compared with an operand. -/
inductive Operator where
  | contains
  | equalTo
  | listContains
  | atLeast
  | greaterThan
deriving DecidableEq

/-- The operator on the wire. -/
def Operator.name : Operator → String
  | .contains => "contains"
  | .equalTo => "equal_to"
  | .listContains => "list_contains"
  | .atLeast => "greater_than_or_equal_to"
  | .greaterThan => "greater_than"

/-- The operators by their names. -/
def Operator.all : List Operator :=
  [.contains, .equalTo, .listContains, .atLeast, .greaterThan]

/-- The operator of a name. -/
def Operator.ofName? (name : String) : Option Operator :=
  Operator.all.find? (·.name == name)

/-- A comparison with an operand. -/
structure Comparison where
  operator : Operator
  operand : Json

namespace Comparison

/-- The value contains one of the texts. -/
def contains (texts : List String) : Comparison :=
  ⟨.contains, .ofTexts texts⟩

/-- The value equals the text. -/
def equalTo (text : String) : Comparison :=
  ⟨.equalTo, .text text⟩

/-- The value equals one of the texts. -/
def equalToAny (texts : List String) : Comparison :=
  ⟨.equalTo, .ofTexts texts⟩

/-- The value is a list that holds one of the texts. -/
def listContains (texts : List String) : Comparison :=
  ⟨.listContains, .ofTexts texts⟩

/-- The value is at least the count. -/
def atLeast (n : UInt32) : Comparison :=
  ⟨.atLeast, .int n.toNat⟩

end Comparison

/-- A test of one property of an event. -/
inductive Leaf where
  /-- The property itself compares. -/
  | compare (property : String) (comparison : Comparison)
  /-- The property is a list, and some element of it compares in its property `key` and passes the
  inner leaf as well. -/
  | anyElement (property : String) (key : String) (comparison : Comparison) (inner : Leaf)

/-- The property that a leaf tests. -/
def Leaf.property : Leaf → String
  | .compare property _ => property
  | .anyElement property _ _ _ => property

/-- How the leaves of an event are combined. -/
inductive Where where
  | any (leaves : List Leaf)
  | all (leaves : List Leaf)
  | single (leaf : Leaf)

/-- The leaves that are combined. -/
def Where.leaves : Where → List Leaf
  | .any leaves => leaves
  | .all leaves => leaves
  | .single leaf => [leaf]

/-! ## Conditions -/

/-- A trailing window of days. -/
structure Window where
  days : UInt32
deriving DecidableEq

/-- The window of the last days; no days mean no window. -/
def Window.lastDays (days : UInt32) : Option Window :=
  if days = 0 then none else some ⟨days⟩

/-- A condition on what a user did. -/
inductive Condition where
  /-- An event happened, how often within the window, with properties that pass the test. -/
  | event (window : Option Window) (name : String) (frequency : Comparison) (content : Where)
  /-- The user spent time on pages that pass the test. -/
  | engagedTime (seconds : Comparison) (content : Where)
  /-- The user read enough of pages that pass the test. -/
  | engagedCompletion (completion : Comparison) (content : Where)
  /-- The user entered a segment of the platform within the window. -/
  | hasEntered (window : Option Window) (segment : Int)
  | inSecondPartySegment (provider segment : String)
  | inThirdPartySegment (provider segment : String)

namespace Condition

/-- The name of the event that a condition asks for. -/
def eventName? : Condition → Option String
  | .event _ name _ _ => some name
  | _ => none

/-- The test of the properties in a condition. -/
def content? : Condition → Option Where
  | .event _ _ _ content => some content
  | .engagedTime _ content => some content
  | .engagedCompletion _ content => some content
  | _ => none

end Condition

/-! ## Queries -/

/-- A compiled query. -/
inductive Query where
  /-- One of the branches holds. -/
  | any (branches : List Condition)
  /-- The inner query and the filter both hold. -/
  | narrowed (inner : Query) (filter : Condition)

namespace Query

/-- The branches of the union, looking through the filters. -/
def branches : Query → List Condition
  | .any branches => branches
  | .narrowed inner _ => inner.branches

/-- The outermost filter. -/
def filter? : Query → Option Condition
  | .any _ => none
  | .narrowed _ filter => some filter

end Query

end Audience
