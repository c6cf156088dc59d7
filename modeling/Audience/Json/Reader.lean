import Audience.Json.Numeral

/-!
# `Audience.Json.Reader` — reading JSON text

A text is one value with blanks around it. Lists and objects may be nested up to 127 deep; of two
members with one key the later counts.

## Contents
- **Blanks.** `skipBlanks`.
- **Texts.** `readEscape?`, `readText?`.
- **Values.** `readValue?`, `readItems?`, `readMembers?`.
- **Whole texts.** `parseChars?` and `parse?`.
-/

namespace Audience.Json

/-! ## Blanks -/

/-- The character is a blank between the tokens of JSON. -/
def isSeparator (c : Char) : Bool :=
  c == ' ' || c == '\n' || c == '\t' || c == '\r'

/-- The text behind the blanks. -/
def skipBlanks (cs : List Char) : List Char :=
  cs.dropWhile isSeparator

/-! ## Texts -/

/-- The value of a hexadecimal digit in either case. -/
def hexDigit? (c : Char) : Option Nat :=
  if '0' ≤ c ∧ c ≤ '9' then some (c.toNat - 0x30)
  else if 'a' ≤ c ∧ c ≤ 'f' then some (c.toNat - 0x57)
  else if 'A' ≤ c ∧ c ≤ 'F' then some (c.toNat - 0x37)
  else none

/-- The code unit of four hexadecimal digits, and the rest. -/
def readUnit? : List Char → Option (Nat × List Char)
  | a :: b :: c :: d :: rest => do
      let w ← hexDigit? a
      let x ← hexDigit? b
      let y ← hexDigit? c
      let z ← hexDigit? d
      return (((w * 16 + x) * 16 + y) * 16 + z, rest)
  | _ => none

/-- The character of the code units behind `\u`: a high surrogate needs a low one behind it, and a low
one cannot stand alone. -/
def readCodePoint? (cs : List Char) : Option (Char × List Char) := do
  let (high, rest) ← readUnit? cs
  if 0xDC00 ≤ high ∧ high < 0xE000 then none
  else if 0xD800 ≤ high ∧ high < 0xDC00 then
    match rest with
    | '\\' :: 'u' :: rest =>
        let (low, rest) ← readUnit? rest
        if 0xDC00 ≤ low ∧ low < 0xE000 then
          return (Char.ofNat (0x10000 + (high - 0xD800) * 0x400 + (low - 0xDC00)), rest)
        else none
    | _ => none
  else return (Char.ofNat high, rest)

/-- The character that an escape stands for, behind its backslash. -/
def readEscape? : List Char → Option (Char × List Char)
  | [] => none
  | c :: rest =>
      if c = '"' then some ('"', rest)
      else if c = '\\' then some ('\\', rest)
      else if c = '/' then some ('/', rest)
      else if c = 'b' then some ('\x08', rest)
      else if c = 'f' then some ('\x0c', rest)
      else if c = 'n' then some ('\n', rest)
      else if c = 'r' then some ('\r', rest)
      else if c = 't' then some ('\t', rest)
      else if c = 'u' then readCodePoint? rest
      else none

/-- The text up to its closing quote. The fuel bounds the number of characters. -/
def readText? : Nat → List Char → Option (List Char × List Char)
  | 0, _ => none
  | _, [] => none
  | fuel + 1, c :: rest =>
      if c = '"' then some ([], rest)
      else if c = '\\' then do
        let (d, rest) ← readEscape? rest
        let (ds, rest) ← readText? fuel rest
        return (d :: ds, rest)
      else if c.toNat < 0x20 then none
      else do
        let (ds, rest) ← readText? fuel rest
        return (c :: ds, rest)

/-! ## Values -/

/-- The text behind a word that has to stand in front. -/
def afterWord? : List Char → List Char → Option (List Char)
  | [], cs => some cs
  | _ :: _, [] => none
  | w :: ws, c :: cs => if w = c then afterWord? ws cs else none

mutual

/-- The value in front of the text. The fuel bounds the characters still to be read, `depth` the lists
and objects that may still be opened inside each other. -/
def readValue? : Nat → Nat → List Char → Option (Json × List Char)
  | 0, _, _ => none
  | fuel + 1, depth, cs =>
      match skipBlanks cs with
      | [] => none
      | c :: rest =>
          if c = 'n' then (afterWord? ['u', 'l', 'l'] rest).map (.null, ·)
          else if c = 't' then (afterWord? ['r', 'u', 'e'] rest).map (.bool true, ·)
          else if c = 'f' then (afterWord? ['a', 'l', 's', 'e'] rest).map (.bool false, ·)
          else if c = '"' then
            (readText? fuel rest).map fun p => (.text (String.ofList p.1), p.2)
          else if c = '[' then
            match depth, skipBlanks rest with
            | 0, _ => none
            | _, ']' :: rest => some (.list [], rest)
            | depth + 1, rest => (readItems? fuel depth rest).map fun p => (.list p.1, p.2)
          else if c = '\x7b' then
            match depth, skipBlanks rest with
            | 0, _ => none
            | _, '\x7d' :: rest => some (.object [], rest)
            | depth + 1, rest => (readMembers? fuel depth rest).map fun p => (.ofMembers p.1, p.2)
          else readNumeral? (c :: rest)

/-- One or more items up to the closing bracket. -/
def readItems? : Nat → Nat → List Char → Option (List Json × List Char)
  | 0, _, _ => none
  | fuel + 1, depth, cs => do
      let (v, rest) ← readValue? fuel depth cs
      match skipBlanks rest with
      | ',' :: rest =>
          let (vs, rest) ← readItems? fuel depth rest
          return (v :: vs, rest)
      | ']' :: rest => return ([v], rest)
      | _ => none

/-- One or more members up to the closing brace. -/
def readMembers? : Nat → Nat → List Char → Option (List (String × Json) × List Char)
  | 0, _, _ => none
  | fuel + 1, depth, cs =>
      match skipBlanks cs with
      | '"' :: rest => do
          let (key, rest) ← readText? fuel rest
          match skipBlanks rest with
          | ':' :: rest =>
              let (v, rest) ← readValue? fuel depth rest
              match skipBlanks rest with
              | ',' :: rest =>
                  let (ms, rest) ← readMembers? fuel depth rest
                  return ((String.ofList key, v) :: ms, rest)
              | '\x7d' :: rest => return ([(String.ofList key, v)], rest)
              | _ => none
          | _ => none
      | _ => none

end

/-! ## Whole texts -/

/-- How deep lists and objects may be nested. -/
def greatestDepth : Nat := 127

/-- The value that the characters denote; nothing when they are not JSON. -/
def parseChars? (cs : List Char) : Option Json := do
  let (v, rest) ← readValue? (2 * cs.length + 2) greatestDepth cs
  if (skipBlanks rest).isEmpty then some v else none

/-- The value that a text denotes; nothing when it is not JSON. -/
def parse? (s : String) : Option Json :=
  parseChars? s.toList

end Audience.Json
