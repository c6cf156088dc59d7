import Audience.Json.Printer
import Audience.Text.Quoted

/-!
# `Audience.Json.Mismatch` — what is wrong with a document

A document that is JSON may still not be what a reader wants. A mismatch says what was found and what
was wanted, and `Mismatch.message` is its text.

## Contents
- **Wishes.** `Wanted` and its text.
- **Mismatches.** `Mismatch`, `describe` for what was found, and `Mismatch.message`.
-/

namespace Audience.Json

open Number

/-! ## Wishes -/

/-- What a place in a document has to hold. -/
inductive Wanted where
  | text
  | flag
  | list
  | count
  | segment
  | ratio
  | pair
  | record (title : String)
deriving DecidableEq

/-- The wish as it stands in messages. -/
def Wanted.description : Wanted → String
  | .text => "a string"
  | .flag => "a boolean"
  | .list => "a sequence"
  | .count => "u32"
  | .segment => "i64"
  | .ratio => "f64"
  | .pair => "a tuple of size 2"
  | .record title => "struct " ++ title

/-! ## Mismatches -/

/-- Why a document is not what a reader wants. -/
inductive Mismatch where
  /-- A value of another kind. -/
  | wrongKind (found : Json) (wanted : Wanted)
  /-- An integer beyond the range. -/
  | outOfRange (found : Int) (wanted : Wanted)
  /-- A pair with fewer than two items. -/
  | shortPair (length : Nat)
  /-- A record written as a list that ends before a required field, which has this index. -/
  | shortRecord (index : Nat) (title : String) (size : Nat)
  /-- A pair or record with too many items. -/
  | tooLong (length : Nat)
  /-- An object without a required member. -/
  | missing (key : String)
  /-- A code that is neither an integer nor a text. -/
  | noCode

/-- A value as it stands in messages: its kind, and the value itself where it is a scalar. -/
def describe : Json → String
  | .null => "null"
  | .bool true => "boolean `true`"
  | .bool false => "boolean `false`"
  | .int n => "integer `" ++ intText n ++ "`"
  | .float x => "floating point `" ++ String.ofList (floatChars x) ++ "`"
  | .text s => "string " ++ Text.quote s
  | .list _ => "sequence"
  | .object _ => "map"

/-- The text of a mismatch. -/
def Mismatch.message : Mismatch → String
  | .wrongKind found wanted =>
      "invalid type: " ++ describe found ++ ", expected " ++ wanted.description
  | .outOfRange found wanted =>
      "invalid value: integer `" ++ intText found ++ "`, expected " ++ wanted.description
  | .shortPair length =>
      "invalid length " ++ intText length ++ ", expected " ++ Wanted.pair.description
  | .shortRecord index title size =>
      "invalid length " ++ intText index ++ ", expected " ++ (Wanted.record title).description
        ++ " with " ++ intText size ++ " elements"
  | .tooLong length =>
      "invalid length " ++ intText length ++ ", expected fewer elements in array"
  | .missing key => "missing field `" ++ key ++ "`"
  | .noCode => "data did not match any variant of untagged enum RawCode"

end Audience.Json
