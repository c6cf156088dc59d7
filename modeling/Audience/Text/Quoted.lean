import Audience.Text.Printable

/-!
# `Audience.Text.Quoted` — texts quoted for messages

A message shows a text between double quotes. Quotes, backslashes, the common controls and NUL have
short escapes; every other hidden character is written as its code point in hexadecimal.

## Contents
- **Quoting.** `quoteChar` and `quote`.
-/

namespace Audience.Text

/-! ## Quoting -/

/-- The digits of a number in lower-case hexadecimal. -/
def hexDigits (n : Nat) : List Char :=
  Nat.toDigits 16 n

/-- One character as it stands in a quoted text. -/
def quoteChar (c : Char) : List Char :=
  if c = '"' then ['\\', '"']
  else if c = '\\' then ['\\', '\\']
  else if c = '\n' then ['\\', 'n']
  else if c = '\r' then ['\\', 'r']
  else if c = '\t' then ['\\', 't']
  else if c.toNat = 0 then ['\\', '0']
  else if isHidden c then ['\\', 'u', '\x7b'] ++ hexDigits c.toNat ++ ['\x7d']
  else [c]

/-- The text between double quotes, with escapes. -/
def quote (s : String) : String :=
  String.ofList ('"' :: s.toList.flatMap quoteChar ++ ['"'])

example : quote "a\"b\\\n" = "\"a\\\"b\\\\\\n\"" := by decide +kernel

end Audience.Text
