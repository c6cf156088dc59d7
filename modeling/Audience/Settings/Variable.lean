import Audience.Number.Integer
import Audience.Text.Casing

/-!
# `Audience.Settings.Variable` — the names of configuration variables

A variable is read when its name starts with `COHORT_COMPILER__`, in any case. The rest of the name is
the path to a place in the configuration: keys with points between them, and positions in brackets. Two
underscores are a point as well.

## Contents
- **Names.** `nameStart`, `dotted` and `pathText?`.
- **Paths.** `Step` and `Path`.
- **Reading paths.** `segments`, `keyOf?`, `positionOf?` and `Path.ofText?`.
-/

namespace Audience.Environment

open Number Text

/-! ## Names -/

/-- The beginning of the names that are read, in lower case. -/
def nameStart : List Char :=
  "cohort_compiler__".toList

/-- Each pair of underscores, from the left, becomes a point. -/
def dotted : List Char → List Char
  | [] => []
  | [c] => [c]
  | c :: d :: rest =>
      if c = '_' ∧ d = '_' then '.' :: dotted rest else c :: dotted (d :: rest)

/-- What is left of the characters behind a beginning. -/
def dropBeginning? : List Char → List Char → Option (List Char)
  | [], cs => some cs
  | _ :: _, [] => none
  | b :: bs, c :: cs => if b = c then dropBeginning? bs cs else none

/-- The text of the path in the name of a variable that is read. -/
def pathText? (name : String) : Option (List Char) :=
  (dropBeginning? nameStart (lowerChars name.toList)).map dotted

/-! ## Paths -/

/-- A step into the configuration. -/
inductive Step where
  /-- To the member of a section under this key. -/
  | key (name : String)
  /-- To the item of a list at this position; a negative position counts from the end. -/
  | position (index : Int)
deriving DecidableEq

/-- The steps to a place in the configuration. -/
abbrev Path := List Step

/-! ## Reading paths -/

/-- The text taken apart in front of every point and every opening bracket. -/
def segments : List Char → List (List Char)
  | [] => [[]]
  | c :: rest =>
      match segments rest with
      | [] => [[c]]
      | s :: ss => if c = '.' ∨ c = '[' then [] :: (c :: s) :: ss else (c :: s) :: ss

/-- A character of a key. -/
def isKeyChar (c : Char) : Bool :=
  c.isAlphanum || c == '_' || c == '-' || c == ' '

/-- The step to a key, which is not empty. -/
def keyOf? (cs : List Char) : Option Step :=
  if !cs.isEmpty && cs.all isKeyChar then some (.key (String.ofList cs)) else none

/-- A character that may stand around a position. -/
def isPadding (c : Char) : Bool :=
  c == ' ' || c == '\t'

/-- The characters without the padding at either end. -/
def withoutPadding (cs : List Char) : List Char :=
  ((cs.dropWhile isPadding).reverse.dropWhile isPadding).reverse

/-- The step to a position, written with decimal digits that a minus may precede. -/
def positionOf? (cs : List Char) : Option Step :=
  match withoutPadding cs with
  | '+' :: _ => none
  | cs => (readInt64? cs).map .position

/-- The step of a segment behind the first. -/
def stepOf? : List Char → Option Step
  | '.' :: cs => keyOf? cs
  | '[' :: cs =>
      match cs.reverse with
      | ']' :: inner => positionOf? inner.reverse
      | _ => none
  | _ => none

/-- The path that a text denotes; any other text leads nowhere. -/
def Path.ofText? (cs : List Char) : Option Path :=
  match segments cs with
  | [] => none
  | first :: rest => do
      let step ← keyOf? first
      let steps ← rest.mapM stepOf?
      return step :: steps

/-! ## Examples -/

example : (pathText? "Cohort_Compiler__Data__Data_Path").bind Path.ofText? =
    some [.key "data", .key "data_path"] := by
  decide +kernel

example : Path.ofText? "compiler.default_tags[ -1 ]".toList =
    some [.key "compiler", .key "default_tags", .position (-1)] := by
  decide +kernel

example : Path.ofText? "compiler..default_tags".toList = none := by decide +kernel

end Audience.Environment
