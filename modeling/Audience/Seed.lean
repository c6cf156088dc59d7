import Audience.Definition.Basic
import Audience.Keyed

/-!
# `Audience.Seed` — seeds rolled up from groups of definitions

The definitions with one `cohortGlobal` are the members of a group, and each group has a seed: a
definition of the segments of all its members. A member with a platform code gives its code and its
segments; the ids of a seed are those of its members and of all definitions that these segments name.
The definitions are visited once, and each member adds to the draft of its group.

## Contents
- **Ids.** `IdKind`, the ids that a seed gathers.
- **Drafts.** `SeedDraft`, with `addIds`, `addCoded` and `addMember`.
- **Seeds.** `SeedDraft.toSeed`, `rollUp` and `seeds`.
- **Workspaces.** `inWorkspace`.
-/

namespace Audience

/-! ## Ids -/

/-- The ids of a definition that a seed gathers. -/
inductive IdKind where
  | accurate
  | volume
  | obsidian
deriving DecidableEq

/-- The id of this kind that the definition has. -/
def IdKind.of (kind : IdKind) (d : Definition) : Option String :=
  match kind with
  | .accurate => d.accurateId
  | .volume => d.volumeId
  | .obsidian => d.obsidianId

/-! ## Drafts -/

/-- The platform code of the definition is one of the references. -/
def Definition.isReferenced (references : List String) (d : Definition) : Bool :=
  d.platformCode.any references.contains

/-- What a seed has gathered from the members of its group so far. -/
structure SeedDraft where
  market : String
  segments : List String := []
  ids : IdKind → List String := fun _ => []

namespace SeedDraft

/-- The draft with the ids of a definition. -/
def addIds (draft : SeedDraft) (d : Definition) : SeedDraft :=
  { draft with
    ids := fun kind =>
      match kind.of d with
      | none => draft.ids kind
      | some id => Roster.add (draft.ids kind) id }

/-- The draft with the code of a member, its segments, and the ids of all definitions that these
name. -/
def addCoded (ds : List Definition) (draft : SeedDraft) (member : Definition) (code : String) :
    SeedDraft :=
  let draft := { draft with segments := Roster.add draft.segments code }
  match member.segments with
  | none => draft
  | some references =>
      (ds.filter (·.isReferenced references)).foldl addIds
        { draft with segments := Roster.union draft.segments references }

/-- The draft with all that a member gives; one without a platform code gives its ids alone. -/
def addMember (ds : List Definition) (draft : SeedDraft) (member : Definition) : SeedDraft :=
  match member.platformCode with
  | none => draft.addIds member
  | some code => (draft.addCoded ds member code).addIds member

/-! ## Seeds -/

/-- The roster, if it has any entry. -/
def ifAny (roster : List String) : Option (List String) :=
  if roster.isEmpty then none else some roster

/-- The seed of a group. -/
def toSeed (group : String) (draft : SeedDraft) : Definition :=
  { Definition.ofName (draft.market ++ " | " ++ group ++ " | Seed") with
    market := some draft.market
    cohortGlobal := some group
    segments := ifAny draft.segments
    accurateSegments := ifAny (draft.ids .accurate)
    volumeSegments := ifAny (draft.ids .volume)
    obsidianSegments := ifAny (draft.ids .obsidian) }

end SeedDraft

namespace Definition

/-- The drafts with a definition added to that of its group. The first member decides the market. -/
def rollUp (ds : List Definition) (defaultMarket : String) (drafts : List (String × SeedDraft))
    (d : Definition) : List (String × SeedDraft) :=
  match d.cohortGlobal with
  | none => drafts
  | some group =>
      drafts |> Keyed.update group fun draft? =>
        (draft?.getD { market := d.market.getD defaultMarket }).addMember ds d

/-- The seeds of all groups, ascending by the name of the group. -/
def seeds (ds : List Definition) (defaultMarket : String) : List Definition :=
  (ds.foldl (rollUp ds defaultMarket) []).map fun entry => entry.2.toSeed entry.1

/-! ## Workspaces -/

/-- The definitions that are bound to a workspace. -/
def inWorkspace (workspace : String) (ds : List Definition) : List Definition :=
  ds.filter (·.workspaceId == some workspace)

end Definition

end Audience
