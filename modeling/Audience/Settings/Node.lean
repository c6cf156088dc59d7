import Audience.Keyed
import Audience.Number.Layout
import Audience.Number.Literal
import Audience.Settings.Variable
import Audience.Text.Split

/-!
# `Audience.Settings.Node` — configuration values before their types are known

A value that looks like a truth value, an integer or a floating-point number is taken as one. Values
are put together at their paths: a step to a key makes a section, and a step to a position makes a list,
whatever has been there before. There is no place in front of a list, nor where the memory for a list
ends. When the type of a field is known, its node is brought to that type.

## Contents
- **Nodes.** `Scalar` and `Node`.
- **Values.** `Scalar.ofText` and `Node.ofText`.
- **Places.** `place?` finds a position in a list, and `Node.put?` puts a value at a path.
- **Types.** `Scalar.asText?`, `asCount?` and `asRatio?`, and the same for nodes with `Node.asTexts?`.
-/

namespace Audience.Environment

open Number Text

/-! ## Nodes -/

/-- A single value. -/
inductive Scalar where
  | flag (value : Bool)
  | int (value : Int)
  | float (value : Binary64)
  | text (value : String)

/-- What is at a place in the configuration. -/
inductive Node where
  | nothing
  | scalar (value : Scalar)
  | items (nodes : List Node)
  | members (nodes : List (String × Node))

/-! ## Values -/

/-- A text as a single value. -/
def Scalar.ofText (s : String) : Scalar :=
  if lower s = "true" then .flag true
  else if lower s = "false" then .flag false
  else
    match readInt64? s.toList, readFloat? s.toList with
    | some n, _ => .int n
    | none, some x => .float x
    | none, none => .text s

/-- A text as the value of a variable. Where lists are wanted, what is left a text is taken apart at the
commas. -/
def Node.ofText (isList : Bool) (s : String) : Node :=
  match isList, Scalar.ofText s with
  | true, .text s => .items ((split ',' s).map fun piece => .scalar (.text piece))
  | _, value => .scalar value

/-! ## Places -/

/-- Lists have at most this many items. The bound stands for the memory that a list can take up: where
that ends depends on the machine, and the number is a choice. -/
def longestList : Nat :=
  16777216

/-- The place in a list of this length that a position means: a negative position counts from the end,
and the others may lie behind it, as far as lists go. -/
def place? (length : Nat) (index : Int) : Option Nat :=
  if index < 0 then
    if index.natAbs ≤ length then some (length - index.natAbs) else none
  else if index.natAbs < longestList then some index.natAbs
  else none

namespace Node

/-- The members of a section; anything else has none. -/
def memberNodes : Node → List (String × Node)
  | .members nodes => nodes
  | _ => []

/-- The items of a list; anything else has none. -/
def itemNodes : Node → List Node
  | .items nodes => nodes
  | _ => []

/-- The items with another at a place. The list is made longer where it is too short. -/
def setItem (place : Nat) (new : Node) (nodes : List Node) : List Node :=
  (nodes ++ List.replicate (place + 1 - nodes.length) Node.nothing).set place new

/-- The configuration with a value at a path. Sections and lists are made on the way, in the place of
whatever is not one. A position may lead to no place. -/
def put? : Path → Node → Node → Option Node
  | [], value, _ => some value
  | .key name :: path, value, old => do
      let nodes := old.memberNodes
      let new ← put? path value ((Keyed.lookup? name nodes).getD .nothing)
      return .members (Keyed.insert name new nodes)
  | .position index :: path, value, old => do
      let nodes := old.itemNodes
      let place ← place? nodes.length index
      let new ← put? path value (nodes[place]?.getD .nothing)
      return .items (setItem place new nodes)

end Node

/-! ## Types -/

namespace Scalar

/-- The value as a text: numbers and truth values are written again. -/
def asText : Scalar → String
  | .flag true => "true"
  | .flag false => "false"
  | .int n => intText n
  | .float x => plainText x
  | .text s => s

/-- The words for a truth value. -/
def truth? (s : String) : Option Bool :=
  if ["yes", "on"].contains (lower s) then some true
  else if ["no", "off"].contains (lower s) then some false
  else none

/-- The unsigned 32-bit number that an integer is. -/
def countOfInt? (n : Int) : Option UInt32 :=
  if fitsUInt32 n then some (UInt32.ofNat n.toNat) else none

/-- The value as an unsigned 32-bit number. A floating-point value is rounded, a half away from zero;
one below zero, and one that is not a number, counts as zero. -/
def asCount? : Scalar → Option UInt32
  | .flag b => some (if b then 1 else 0)
  | .int n => countOfInt? n
  | .float x =>
      match x.meaning with
      | .undefined => some 0
      | .infinite negative => if negative then some 0 else none
      | .finite .. => x.roundHalfAway?.bind fun n => countOfInt? (max n 0)
  | .text s => (truth? s).map fun b => if b then 1 else 0

/-- The value as a floating-point number. -/
def asRatio? : Scalar → Option Binary64
  | .flag b => some (.ofInt (if b then 1 else 0))
  | .int n => some (.ofInt n)
  | .float x => some x
  | .text s => (truth? s).map fun b => .ofInt (if b then 1 else 0)

end Scalar

namespace Node

/-- The single value at a node. -/
def scalar? : Node → Option Scalar
  | .scalar value => some value
  | _ => none

/-- The node as a text. -/
def asText? (n : Node) : Option String :=
  n.scalar?.map Scalar.asText

/-- The node as a text that may be missing. -/
def asOptionalText? : Node → Option (Option String)
  | .nothing => some none
  | n => n.asText?.map some

/-- The node as an unsigned 32-bit number. -/
def asCount? (n : Node) : Option UInt32 :=
  n.scalar?.bind Scalar.asCount?

/-- The node as a floating-point number. -/
def asRatio? (n : Node) : Option Binary64 :=
  n.scalar?.bind Scalar.asRatio?

/-- The node as a list of texts. -/
def asTexts? : Node → Option (List String)
  | .items nodes => nodes.mapM asText?
  | _ => none

end Node

end Audience.Environment
