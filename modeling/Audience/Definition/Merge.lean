import Audience.Definition.Basic

/-!
# `Audience.Definition.Merge` — folding the signals of one definition into another

Merging takes over the list-valued signals of a source and leaves everything else alone. A list that
the target does not have is taken as it is; otherwise both lists become one roster.

## Contents
- **Lists.** `mergeField`.
- **Definitions.** `Definition.merge` and `Definition.mergeAll`.
-/

namespace Audience.Definition

/-! ## Lists -/

/-- The target's list with the source's entries; an absent or empty source changes nothing. -/
def mergeField {α : Type} [Roster.Entry α] (target source : Option (List α)) : Option (List α) :=
  match source, target with
  | none, target => target
  | some [], target => target
  | some incoming, none => some incoming
  | some incoming, some existing => some (Roster.union existing incoming)

/-! ## Definitions -/

/-- The target with every list-valued signal of the source merged in. -/
def merge (target source : Definition) : Definition :=
  { target with
    segments := mergeField target.segments source.segments
    accurateSegments := mergeField target.accurateSegments source.accurateSegments
    volumeSegments := mergeField target.volumeSegments source.volumeSegments
    obsidianSegments := mergeField target.obsidianSegments source.obsidianSegments
    keywords := mergeField target.keywords source.keywords
    taxonomy := mergeField target.taxonomy source.taxonomy
    urls := mergeField target.urls source.urls
    secondPartySegments := mergeField target.secondPartySegments source.secondPartySegments
    thirdPartySegments := mergeField target.thirdPartySegments source.thirdPartySegments }

/-- The target after merging the sources in turn. -/
def mergeAll (target : Definition) (sources : List Definition) : Definition :=
  sources.foldl merge target

end Audience.Definition
