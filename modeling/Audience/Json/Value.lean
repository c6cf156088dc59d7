import Audience.Keyed
import Audience.Number.Layout

/-!
# `Audience.Json.Value` — JSON values

A number is an integer or a binary64 value, and the two are never confused. The members of an object
are kept as a list, which `Json.ofMembers` brings into ascending order of the keys.

## Contents
- **Values.** `Json`.
- **Building.** `ofMembers`, `ofTexts`, `ofFloat`, `member` for members that may be absent.
-/

namespace Audience

open Number

/-! ## Values -/

/-- A JSON value. -/
inductive Json where
  | null
  | bool (value : Bool)
  | int (value : Int)
  | float (value : Binary64)
  | text (value : String)
  | list (items : List Json)
  | object (members : List (String × Json))

/-! ## Building -/

namespace Json

/-- The object with these members, in ascending order of their keys; of two members with one key the
later stays. -/
def ofMembers (members : List (String × Json)) : Json :=
  .object (Keyed.ofList members)

/-- The list of these texts. -/
def ofTexts (texts : List String) : Json :=
  .list (texts.map .text)

/-- A floating-point number; JSON has none that is not finite. -/
def ofFloat (x : Binary64) : Json :=
  if x.isFinite then .float x else .null

/-- A member that stands in the object only where there is a value. -/
def member {α : Type} (key : String) (encode : α → Json) : Option α → List (String × Json)
  | none => []
  | some v => [(key, encode v)]

end Json

end Audience
