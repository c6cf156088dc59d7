import Audience.Json.Value

/-!
# `Audience.Json.Printer` — JSON as text

Two layouts: compact, without any blank, and pretty, with every item on a line of its own behind two
spaces for each level. Both leave characters outside ASCII as they are.

## Contents
- **Texts and numbers.** `escapeChar`, `textChars`, `floatChars`.
- **Compact.** `compactChars` and `compact`.
- **Pretty.** `prettyChars` and `pretty`.
-/

namespace Audience.Json

open Number

/-! ## Texts and numbers -/

/-- A lower-case hexadecimal digit. -/
def lowerHexDigit (n : Nat) : Char :=
  Nat.digitChar n

/-- One character inside quotes: a quote, a backslash and the controls are escaped. -/
def escapeChar (c : Char) : List Char :=
  if c = '"' then ['\\', '"']
  else if c = '\\' then ['\\', '\\']
  else if c = '\x08' then ['\\', 'b']
  else if c = '\t' then ['\\', 't']
  else if c = '\n' then ['\\', 'n']
  else if c = '\x0c' then ['\\', 'f']
  else if c = '\r' then ['\\', 'r']
  else if c.toNat < 0x20 then
    ['\\', 'u', '0', '0', lowerHexDigit (c.toNat / 16), lowerHexDigit (c.toNat % 16)]
  else [c]

/-- A text between quotes. -/
def textChars (s : String) : List Char :=
  '"' :: (s.toList.flatMap escapeChar ++ ['"'])

/-- A floating-point number, or `null` where it is not finite. -/
def floatChars (x : Binary64) : List Char :=
  (wireChars? x).getD ['n', 'u', 'l', 'l']

/-- The characters of a value that holds no other. -/
def scalarChars : Json → List Char
  | .null => ['n', 'u', 'l', 'l']
  | .bool true => ['t', 'r', 'u', 'e']
  | .bool false => ['f', 'a', 'l', 's', 'e']
  | .int n => intChars n
  | .float x => floatChars x
  | .text s => textChars s
  | .list _ => ['[', ']']
  | .object _ => ['\x7b', '\x7d']

/-! ## Compact -/

mutual

/-- A value without any blank. -/
def compactChars : Json → List Char
  | .list [] => ['[', ']']
  | .list (v :: vs) => '[' :: (compactChars v ++ (compactItems vs ++ [']']))
  | .object [] => ['\x7b', '\x7d']
  | .object ((k, v) :: ms) =>
      '\x7b' :: (textChars k ++ ':' :: (compactChars v ++ (compactMembers ms ++ ['\x7d'])))
  | v => scalarChars v

/-- Further items, each behind a comma. -/
def compactItems : List Json → List Char
  | [] => []
  | v :: vs => ',' :: (compactChars v ++ compactItems vs)

/-- Further members, each behind a comma. -/
def compactMembers : List (String × Json) → List Char
  | [] => []
  | (k, v) :: ms => ',' :: (textChars k ++ ':' :: (compactChars v ++ compactMembers ms))

end

/-- A value as text without any blank. -/
def compact (v : Json) : String :=
  String.ofList (compactChars v)

/-! ## Pretty -/

/-- A new line at a level. -/
def lineChars (level : Nat) : List Char :=
  '\n' :: List.replicate (2 * level) ' '

mutual

/-- A value whose items stand one to a line. -/
def prettyChars (level : Nat) : Json → List Char
  | .list [] => ['[', ']']
  | .list (v :: vs) =>
      '[' :: (lineChars (level + 1) ++ (prettyChars (level + 1) v
        ++ (prettyItems (level + 1) vs ++ (lineChars level ++ [']']))))
  | .object [] => ['\x7b', '\x7d']
  | .object ((k, v) :: ms) =>
      '\x7b' :: (lineChars (level + 1) ++ (textChars k ++ ':' :: ' ' :: (prettyChars (level + 1) v
        ++ (prettyMembers (level + 1) ms ++ (lineChars level ++ ['\x7d'])))))
  | v => scalarChars v

/-- Further items, each behind a comma and on a line of its own. -/
def prettyItems (level : Nat) : List Json → List Char
  | [] => []
  | v :: vs => ',' :: (lineChars level ++ (prettyChars level v ++ prettyItems level vs))

/-- Further members, each behind a comma and on a line of its own. -/
def prettyMembers (level : Nat) : List (String × Json) → List Char
  | [] => []
  | (k, v) :: ms =>
      ',' :: (lineChars level ++ (textChars k ++ ':' :: ' ' :: (prettyChars level v
        ++ prettyMembers level ms)))

end

/-- A value as text with one item to a line. -/
def pretty (v : Json) : String :=
  String.ofList (prettyChars 0 v)

/-! ## Examples -/

example : compact (.ofMembers [("b", .list [.int (-1), .null]), ("a", .text "é\n\x01")]) =
    "\x7b\"a\":\"é\\n\\u0001\",\"b\":[-1,null]\x7d" := by decide +kernel

example : pretty (.list [.int 1, .list [], .object []]) =
    "[\n  1,\n  [],\n  \x7b\x7d\n]" := by decide +kernel

end Audience.Json
