import Audience.Roster
import Audience.Text.Casing
import Audience.Text.Percent

/-!
# `Audience.Keyword` — what a keyword matches

In titles a keyword is matched as a term; a short word is padded with spaces there, so that it cannot
match inside a longer word. In URLs it is matched as a slug: the keyword in lower case with hyphens
around it, once percent-encoded as it is and once with its accents folded and its spaces hyphenated.

## Contents
- **Terms.** `term` and `terms`.
- **Slugs of one keyword.** `base`, `fold`, `hyphenate`, `rawSlug`, `foldedSlug`.
- **Slugs.** `isKept`, `slugsOf` and `slugs`.
-/

namespace Audience.Keyword

open Text

/-! ## Terms -/

/-- The greatest length of a word that is matched as a whole. -/
def longestWord : Nat := 7

/-- The keyword is several words. -/
def isCompound (cs : List Char) : Bool :=
  cs.contains ' ' || cs.contains '-'

/-- The term that a keyword is matched by in titles. -/
def term (keyword : String) : String :=
  let cs := keyword.toList
  if isCompound cs || longestWord < cs.length then keyword
  else String.ofList (' ' :: (cs ++ [' ']))

/-- The terms of keywords, one for each. -/
def terms (keywords : List String) : List String :=
  keywords.map term

/-! ## Slugs of one keyword -/

/-- Each pair of neighbouring spaces, from the left, becomes one space. -/
def collapse : List Char → List Char
  | [] => []
  | [c] => [c]
  | c :: d :: rest =>
      if c = ' ' ∧ d = ' ' then ' ' :: collapse rest else c :: collapse (d :: rest)

/-- The keyword trimmed, in lower case, and with pairs of spaces collapsed. -/
def base (keyword : String) : List Char :=
  collapse (lowerChars (trimChars keyword.toList))

/-- The accented letters and the letters that stand for them in folded slugs. -/
def accents : List (Char × Char) :=
  [('ä', 'a'), ('â', 'a'), ('á', 'a'), ('à', 'a'), ('ã', 'a'), ('ç', 'c'), ('è', 'e'), ('é', 'e'),
   ('ê', 'e'), ('ë', 'e'), ('í', 'i'), ('ï', 'i'), ('ò', 'o'), ('ó', 'o'), ('õ', 'o'), ('ô', 'o'),
   ('ñ', 'n'), ('ù', 'u'), ('ú', 'u'), ('ü', 'u')]

/-- An accented letter of the table becomes its plain letter. -/
def foldAccent (c : Char) : Char :=
  match accents.find? (·.1 == c) with
  | some (_, plain) => plain
  | none => c

/-- A space becomes a hyphen. -/
def foldSpace (c : Char) : Char :=
  if c = ' ' then '-' else c

/-- Spaces become hyphens, and accented letters plain ones. -/
def fold (cs : List Char) : List Char :=
  cs.map fun c => foldAccent (foldSpace c)

/-- The characters with a hyphen in front, unless there is one. -/
def hyphenateStart : List Char → List Char
  | '-' :: rest => '-' :: rest
  | cs => '-' :: cs

/-- The characters with a hyphen at the end, unless there is one. -/
def hyphenateEnd (cs : List Char) : List Char :=
  if cs.getLast? = some '-' then cs else cs ++ ['-']

/-- The characters with hyphens around them. A hyphen that was put in front of nothing is also the one
at the end. -/
def hyphenate (cs : List Char) : List Char :=
  hyphenateEnd (hyphenateStart cs)

/-- The slug of a base as it is. -/
def rawSlug (base : List Char) : String :=
  String.ofList (hyphenate (Percent.encode base))

/-- The slug of a base with its accents folded. -/
def foldedSlug (base : List Char) : String :=
  String.ofList (hyphenate (Percent.encode (fold base)))

/-! ## Slugs -/

/-- The keyword has slugs: it is no path, and its base is not empty. -/
def isKept (keyword : String) : Bool :=
  keyword.toList.head? != some '/' && !(base keyword).isEmpty

/-- Both slugs of a keyword, if it has any. -/
def slugsOf (keyword : String) : List String :=
  if isKept keyword then [rawSlug (base keyword), foldedSlug (base keyword)] else []

/-- The roster of the slugs of keywords. -/
def slugs (keywords : List String) : List String :=
  Roster.ofList (keywords.flatMap slugsOf)

/-! ## Examples -/

example : slugs ["Café Paris"] = ["-caf%C3%A9%20paris-", "-cafe-paris-"] := by decide +kernel

example : slugs ["", "/news/local/", "   ", "-euro-2024-"] = ["-euro-2024-"] := by decide +kernel

example : terms ["art", "basketball", "pop art"] = [" art ", "basketball", "pop art"] := by
  decide +kernel

end Audience.Keyword
