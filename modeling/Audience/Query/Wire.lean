import Audience.Json.Printer
import Audience.Query.Basic

/-!
# `Audience.Query.Wire` — queries on the wire

A query has one form as a JSON value, with the members of every object in ascending order, and one as
text, written directly with the members in the order of their declaration.

## Contents
- **As a value.** `toJson` for comparisons, leaves, windows, conditions and queries.
- **As text.** `wireChars` for the same, and `Query.wireText`.
-/

namespace Audience

open Json

/-! ## As a value -/

/-- A comparison is an object with one member. -/
def Comparison.toJson (c : Comparison) : Json :=
  .ofMembers [(c.operator.name, c.operand)]

/-- A leaf as an object. -/
def Leaf.toJson : Leaf → Json
  | .compare property comparison =>
      .ofMembers [("condition", comparison.toJson), ("property", .text property)]
  | .anyElement property key comparison inner =>
      .ofMembers
        [("condition",
          .ofMembers
            [("condition", comparison.toJson), ("function", .text "any"), ("property", .text key),
             ("where", inner.toJson)]),
         ("property", .text property)]

/-- Combined leaves are an object with one member; a single leaf stands for itself. -/
def Where.toJson : Where → Json
  | .any leaves => .ofMembers [("or", .list (leaves.map Leaf.toJson))]
  | .all leaves => .ofMembers [("and", .list (leaves.map Leaf.toJson))]
  | .single leaf => leaf.toJson

/-- A window as an object. -/
def Window.toJson (w : Window) : Json :=
  .ofMembers [("the_last", .ofMembers [("unit", .text "days"), ("value", .int w.days.toNat)])]

/-- A condition as an object. -/
def Condition.toJson : Condition → Json
  | .event window name frequency content =>
      .ofMembers
        (member "during" Window.toJson window ++
          [("event", .text name), ("frequency", frequency.toJson), ("where", content.toJson)])
  | .engagedTime seconds content =>
      .ofMembers
        [("engaged_time",
          .ofMembers [("seconds", seconds.toJson), ("where", content.toJson)])]
  | .engagedCompletion completion content =>
      .ofMembers
        [("engaged_completion",
          .ofMembers [("completion", completion.toJson), ("where", content.toJson)])]
  | .hasEntered window segment =>
      .ofMembers
        [("has_entered",
          .ofMembers (member "during" Window.toJson window ++ [("segment", .int segment)]))]
  | .inSecondPartySegment provider segment =>
      .ofMembers
        [("in_second_party_segment",
          .ofMembers [("provider", .text provider), ("segment", .text segment)])]
  | .inThirdPartySegment provider segment =>
      .ofMembers
        [("in_third_party_segment",
          .ofMembers [("provider", .text provider), ("segment", .text segment)])]

/-- A query as an object with one member. -/
def Query.toJson : Query → Json
  | .any branches => .ofMembers [("or", .list (branches.map Condition.toJson))]
  | .narrowed inner filter => .ofMembers [("and", .list [inner.toJson, filter.toJson])]

/-! ## As text -/

/-- Items behind the first, each with a comma in front. -/
def furtherChars : List (List Char) → List Char
  | [] => []
  | item :: items => ',' :: (item ++ furtherChars items)

/-- Written items between two marks, with commas between neighbours. -/
def enclosed (first last : Char) : List (List Char) → List Char
  | [] => [first, last]
  | item :: items => first :: (item ++ (furtherChars items ++ [last]))

/-- A written list. -/
def listChars (items : List (List Char)) : List Char :=
  enclosed '[' ']' items

/-- A written member of an object. -/
def memberChars (m : String × List Char) : List Char :=
  textChars m.1 ++ ':' :: m.2

/-- A written object, with its members as they come. -/
def objectChars (members : List (String × List Char)) : List Char :=
  enclosed '\x7b' '\x7d' (members.map memberChars)

/-- A comparison in wire form. -/
def Comparison.wireChars (c : Comparison) : List Char :=
  objectChars [(c.operator.name, compactChars c.operand)]

/-- A leaf in wire form. -/
def Leaf.wireChars : Leaf → List Char
  | .compare property comparison =>
      objectChars [("condition", comparison.wireChars), ("property", textChars property)]
  | .anyElement property key comparison inner =>
      objectChars
        [("condition",
          objectChars
            [("condition", comparison.wireChars), ("function", textChars "any"),
             ("property", textChars key), ("where", inner.wireChars)]),
         ("property", textChars property)]

/-- Combined leaves in wire form. -/
def Where.wireChars : Where → List Char
  | .any leaves => objectChars [("or", listChars (leaves.map Leaf.wireChars))]
  | .all leaves => objectChars [("and", listChars (leaves.map Leaf.wireChars))]
  | .single leaf => leaf.wireChars

/-- A window in wire form. -/
def Window.wireChars (w : Window) : List Char :=
  objectChars
    [("the_last",
      objectChars [("unit", textChars "days"), ("value", Number.natChars w.days.toNat)])]

/-- The member for a window, if there is one. -/
def windowMember : Option Window → List (String × List Char)
  | none => []
  | some w => [("during", w.wireChars)]

/-- A condition in wire form. -/
def Condition.wireChars : Condition → List Char
  | .event window name frequency content =>
      objectChars
        (windowMember window ++
          [("event", textChars name), ("frequency", frequency.wireChars),
           ("where", content.wireChars)])
  | .engagedTime seconds content =>
      objectChars
        [("engaged_time",
          objectChars [("seconds", seconds.wireChars), ("where", content.wireChars)])]
  | .engagedCompletion completion content =>
      objectChars
        [("engaged_completion",
          objectChars [("completion", completion.wireChars), ("where", content.wireChars)])]
  | .hasEntered window segment =>
      objectChars
        [("has_entered",
          objectChars (windowMember window ++ [("segment", Number.intChars segment)]))]
  | .inSecondPartySegment provider segment =>
      objectChars
        [("in_second_party_segment",
          objectChars [("provider", textChars provider), ("segment", textChars segment)])]
  | .inThirdPartySegment provider segment =>
      objectChars
        [("in_third_party_segment",
          objectChars [("provider", textChars provider), ("segment", textChars segment)])]

/-- A query in wire form. -/
def Query.wireChars : Query → List Char
  | .any branches => objectChars [("or", listChars (branches.map Condition.wireChars))]
  | .narrowed inner filter => objectChars [("and", listChars [inner.wireChars, filter.wireChars])]

/-- A query as compact text. -/
def Query.wireText (q : Query) : String :=
  String.ofList q.wireChars

end Audience
