import Audience.Proofs.BlankText
import Audience.Proofs.SeedQuery

/-!
# `Audience.Proofs.SeedReferences` — blanks around the codes that members refer to

A member names a definition by a segment that is the platform code of the definition. The platform code
has been trimmed, but the segment is compared as it is: one with blanks around it names nothing, and the
ids of the definition are missing from the seed. So a seed has all the ids that it would have if the
segments were trimmed first, but for those that it loses in this way. These may be there nevertheless,
since another member may name the same definition, or have the same id.

## Contents
- **Trimming.** `trim_of_platformCode`, and `trimSegments`, which leaves the group, the code and the ids
  of a definition alone.
- **References.** `NamesPadded`, and `names_map_trimSegments_iff`: what is named once segments are trimmed.
- **Ids.** `IsOverlooked`, and `givesId_map_trimSegments_iff`.
- **Rosters.** `IsRosterIfAny.eq_iff` and `IsRosterIfAny.sublist`.
- **Seeds.** `LacksOverlooked` and `seeds_of_trimmed_segments`.
-/

namespace Audience

open Text

namespace Definition

variable {ds members : List Definition} {d seed trimmed : Definition} {group : String}
  {kind : IdKind} {id : String}

/-! ## Trimming -/

/-- A platform code has no blanks around it. -/
theorem trim_of_platformCode {code : String} (h : d.platformCode = some code) :
    trim code = code := by
  have htrimmed : ∀ {given : Option String}, trimmedCode? given = some code →
      trim code = code := by
    intro given hgiven
    obtain ⟨hmap, -⟩ := Option.filter_eq_some_iff.mp hgiven
    obtain ⟨s, -, rfl⟩ := Option.map_eq_some_iff.mp hmap
    exact trim_trim s
  rcases Option.or_eq_some_iff.mp h with hcode | ⟨-, hnumber⟩
  · exact htrimmed hcode
  · exact htrimmed hnumber

/-- The definition with every segment trimmed. -/
def trimSegments (d : Definition) : Definition :=
  { d with segments := d.segments.map fun segments => segments.map trim }

@[simp] theorem trimSegments_cohortGlobal : d.trimSegments.cohortGlobal = d.cohortGlobal := rfl

@[simp] theorem trimSegments_platformCode : d.trimSegments.platformCode = d.platformCode := rfl

@[simp] theorem of_trimSegments : kind.of d.trimSegments = kind.of d := by
  cases kind <;> rfl

theorem mem_segments_trimSegments {s : String} :
    s ∈ d.trimSegments.segments.getD [] ↔ ∃ entry ∈ d.segments.getD [], trim entry = s := by
  unfold trimSegments
  cases d.segments with
  | none => simp
  | some segments => exact List.mem_map

theorem membersOf_map_trimSegments (ds : List Definition) (group : String) :
    membersOf (ds.map trimSegments) group = (membersOf ds group).map trimSegments :=
  List.filter_map

/-! ## References -/

/-- A segment of a member is the platform code of the definition with blanks around it. -/
def NamesPadded (members : List Definition) (d : Definition) : Prop :=
  ∃ member ∈ members, ∃ own code entry, member.platformCode = some own ∧
    d.platformCode = some code ∧ entry ∈ member.segments.getD [] ∧ trim entry = code ∧ entry ≠ code

theorem names_map_trimSegments_iff :
    Names (members.map trimSegments) d ↔ Names members d ∨ NamesPadded members d := by
  constructor
  · rintro ⟨_, hmap, own, code, hown, hcode, hmem⟩
    obtain ⟨member, hmember, rfl⟩ := List.mem_map.mp hmap
    obtain ⟨entry, hentry, htrim⟩ := mem_segments_trimSegments.mp hmem
    by_cases hsame : entry = code
    · rw [hsame] at hentry
      exact Or.inl ⟨member, hmember, own, code, hown, hcode, hentry⟩
    · exact Or.inr ⟨member, hmember, own, code, entry, hown, hcode, hentry, htrim, hsame⟩
  · have hnames : ∀ {member : Definition} {own code entry : String}, member ∈ members →
        member.platformCode = some own → d.platformCode = some code →
        entry ∈ member.segments.getD [] → trim entry = code → Names (members.map trimSegments) d := by
      intro member own code entry hmember hown hcode hentry htrim
      exact ⟨member.trimSegments, List.mem_map_of_mem hmember, own, code, hown, hcode,
        mem_segments_trimSegments.mpr ⟨entry, hentry, htrim⟩⟩
    rintro (⟨member, hmember, own, code, hown, hcode, hmem⟩ |
      ⟨member, hmember, own, code, entry, hown, hcode, hentry, htrim, -⟩)
    · -- a segment that is a platform code stays as it is
      exact hnames hmember hown hcode hmem (trim_of_platformCode hcode)
    · exact hnames hmember hown hcode hentry htrim

/-! ## Ids -/

/-- The id is not blank, no member gives it, and it is an id of a definition whose platform code stands
among the segments of a member with blanks around it. -/
structure IsOverlooked (ds members : List Definition) (kind : IdKind) (id : String) : Prop where
  not_blank : isBlank id = false
  not_given : ¬ GivesId ds members kind id
  padded : ∃ d ∈ ds, NamesPadded members d ∧ kind.of d = some id

theorem givesId_map_trimSegments_iff :
    GivesId (ds.map trimSegments) (members.map trimSegments) kind id ↔
      GivesId ds members kind id ∨ ∃ d ∈ ds, NamesPadded members d ∧ kind.of d = some id := by
  constructor
  · rintro ⟨_, hmem | ⟨hmem, hnames⟩, hid⟩
    · obtain ⟨d, hd, rfl⟩ := List.mem_map.mp hmem
      rw [of_trimSegments] at hid
      exact Or.inl ⟨d, Or.inl hd, hid⟩
    · obtain ⟨d, hd, rfl⟩ := List.mem_map.mp hmem
      rw [of_trimSegments] at hid
      rcases names_map_trimSegments_iff.mp hnames with hnames | hpadded
      · exact Or.inl ⟨d, Or.inr ⟨hd, hnames⟩, hid⟩
      · exact Or.inr ⟨d, hd, hpadded, hid⟩
  · have hgives : ∀ {d : Definition}, d ∈ ds → Names (members.map trimSegments) d →
        kind.of d = some id → GivesId (ds.map trimSegments) (members.map trimSegments) kind id := by
      intro d hd hnames hid
      refine ⟨d.trimSegments, Or.inr ⟨List.mem_map_of_mem hd, hnames⟩, ?_⟩
      rw [of_trimSegments]
      exact hid
    rintro (⟨d, hmem | ⟨hd, hnames⟩, hid⟩ | ⟨d, hd, hpadded, hid⟩)
    · refine ⟨d.trimSegments, Or.inl (List.mem_map_of_mem hmem), ?_⟩
      rw [of_trimSegments]
      exact hid
    · exact hgives hd (names_map_trimSegments_iff.mpr (Or.inl hnames)) hid
    · exact hgives hd (names_map_trimSegments_iff.mpr (Or.inr hpadded)) hid

/-! ## Rosters -/

section Rosters

variable {entries entries' : Option (List String)} {P Q : String → Prop}

theorem IsRosterIfAny.congr (h : IsRosterIfAny entries P) (hPQ : ∀ s, P s ↔ Q s) :
    IsRosterIfAny entries Q where
  roster := h.roster.congr hPQ
  eq_none_iff := h.eq_none_iff.trans (forall_congr' fun s => by rw [hPQ s])

theorem IsRosterIfAny.mem_iff (h : IsRosterIfAny entries P) {s : String} :
    s ∈ entries.getD [] ↔ P s ∧ isBlank s = false :=
  h.roster.2 s

theorem IsRosterIfAny.sublist (h : IsRosterIfAny entries P) (h' : IsRosterIfAny entries' Q)
    (hPQ : ∀ s, P s → Q s) : (entries.getD []).Sublist (entries'.getD []) := by
  refine h.roster.1.sublist_of_subset h'.roster.1 fun s hs => ?_
  obtain ⟨hp, hblank⟩ := h.mem_iff.mp hs
  exact h'.mem_iff.mpr ⟨hPQ s hp, hblank⟩

/-- The lists are the same where their properties agree on what is not blank. -/
theorem IsRosterIfAny.eq_iff (h : IsRosterIfAny entries P) (h' : IsRosterIfAny entries' Q) :
    entries = entries' ↔ ∀ s, isBlank s = false → (P s ↔ Q s) := by
  constructor
  · rintro rfl s hblank
    have hmem : (P s ∧ isBlank s = false) ↔ (Q s ∧ isBlank s = false) :=
      h.mem_iff.symm.trans h'.mem_iff
    rwa [and_iff_left hblank, and_iff_left hblank] at hmem
  · intro hPQ
    have hrosters : entries.getD [] = entries'.getD [] := by
      refine h.roster.1.eq_of_mem_iff h'.roster.1 fun s => ?_
      rw [h.mem_iff, h'.mem_iff]
      exact and_congr_left (hPQ s)
    have hblank : (∀ s, P s → isBlank s = true) ↔ ∀ s, Q s → isBlank s = true := by
      refine forall_congr' fun s => ?_
      cases hs : isBlank s with
      | true => simp
      | false => simpa using not_congr (hPQ s hs)
    have hnone : entries = none ↔ entries' = none :=
      h.eq_none_iff.trans (hblank.trans h'.eq_none_iff.symm)
    cases entries with
    | none => exact (hnone.mp rfl).symm
    | some roster =>
        cases entries' with
        | none => exact absurd (hnone.mpr rfl) (by simp)
        | some roster' => exact congrArg some hrosters

end Rosters

/-! ## Seeds -/

/-- Of the seeds of one group, the first has all the ids of the second but those that are overlooked. -/
structure LacksOverlooked (ds : List Definition) (group : String) (seed trimmed : Definition) :
    Prop where
  seed_group : seed.cohortGlobal = some group
  trimmed_group : trimmed.cohortGlobal = some group
  sublist : ∀ kind, ((gathered kind seed).getD []).Sublist ((gathered kind trimmed).getD [])
  missing_iff : ∀ kind id, id ∈ (gathered kind trimmed).getD [] ∧ id ∉ (gathered kind seed).getD [] ↔
    IsOverlooked ds (membersOf ds group) kind id
  eq_iff : ∀ kind, gathered kind seed = gathered kind trimmed ↔
    ∀ id, ¬ IsOverlooked ds (membersOf ds group) kind id

/-- The seeds have the same groups before and after trimming. -/
theorem groups_map_trimSegments (ds : List Definition) (defaultMarket : String) :
    groups (ds.map trimSegments) defaultMarket = groups ds defaultMarket := by
  refine (ascending_groups _ _).eq_of_mem_iff (ascending_groups _ _) fun group => ?_
  rw [mem_groups, mem_groups]
  simp only [List.mem_map, exists_exists_and_eq_and, trimSegments_cohortGlobal]

theorem IsSeedOf.lacksOverlooked {defaultMarket : String} (h : IsSeedOf ds defaultMarket group seed)
    (h' : IsSeedOf (ds.map trimSegments) defaultMarket group trimmed) :
    LacksOverlooked ds group seed trimmed := by
  have hids : ∀ kind, IsRosterIfAny (gathered kind trimmed) fun id =>
      GivesId ds (membersOf ds group) kind id ∨
        ∃ d ∈ ds, NamesPadded (membersOf ds group) d ∧ kind.of d = some id := by
    intro kind
    have hids := h'.ids kind
    rw [membersOf_map_trimSegments] at hids
    exact hids.congr fun _ => givesId_map_trimSegments_iff
  refine ⟨congrArg cohortGlobal h.others, congrArg cohortGlobal h'.others, ?_, ?_, ?_⟩
  · intro kind
    exact (h.ids kind).sublist (hids kind) fun _ => Or.inl
  · intro kind id
    rw [(hids kind).mem_iff, (h.ids kind).mem_iff]
    constructor
    · rintro ⟨⟨hgiven, hblank⟩, hnot⟩
      have hnot : ¬ GivesId ds (membersOf ds group) kind id := fun hg => hnot ⟨hg, hblank⟩
      exact ⟨hblank, hnot, hgiven.resolve_left hnot⟩
    · intro h
      exact ⟨⟨Or.inr h.padded, h.not_blank⟩, fun hg => h.not_given hg.1⟩
  · intro kind
    rw [(h.ids kind).eq_iff (hids kind)]
    constructor
    · intro hsame id h
      exact h.not_given ((hsame id h.not_blank).mpr (Or.inr h.padded))
    · intro hnone id hblank
      refine ⟨Or.inl, fun hgiven => ?_⟩
      by_contra hnot
      exact hnone id ⟨hblank, hnot, hgiven.resolve_left hnot⟩

/-- Lists that agree with one list are compared place by place. -/
theorem forall₂_of_common {α β γ : Type} {R : α → β → Prop} {S : α → γ → Prop} {T : β → γ → Prop}
    {as : List α} {bs : List β} {cs : List γ} (hbs : List.Forall₂ R as bs)
    (hcs : List.Forall₂ S as cs) (h : ∀ {a b c}, R a b → S a c → T b c) : List.Forall₂ T bs cs := by
  induction hbs generalizing cs with
  | nil =>
      cases hcs
      exact .nil
  | cons hb _ ih =>
      cases hcs with
      | cons hc hcs => exact .cons (h hb hc) (ih hcs)

/-- **Seeds lack the ids of definitions that are named with blanks around their codes**, compared with
the seeds of the same definitions with trimmed segments. They lack nothing else, and they have no further
ids, so the lists agree exactly where no id is overlooked. -/
theorem seeds_of_trimmed_segments (ds : List Definition) (defaultMarket : String) :
    List.Forall₂ (fun seed trimmed => ∃ group, LacksOverlooked ds group seed trimmed)
      (seeds ds defaultMarket) (seeds (ds.map trimSegments) defaultMarket) := by
  have hseeds : List.Forall₂ (IsSeedOf ds defaultMarket) (groups ds defaultMarket)
      (seeds ds defaultMarket) :=
    forall₂_isSeedOf ds defaultMarket
  have htrimmed : List.Forall₂ (IsSeedOf (ds.map trimSegments) defaultMarket)
      (groups ds defaultMarket) (seeds (ds.map trimSegments) defaultMarket) := by
    rw [← groups_map_trimSegments]
    exact forall₂_isSeedOf (ds.map trimSegments) defaultMarket
  exact forall₂_of_common hseeds htrimmed fun h h' => ⟨_, h.lacksOverlooked h'⟩

/-- A member that names a definition by its code, written with the same blanks on both sides. -/
def paddedSports : List Definition :=
  [{ name := "Golf", code := some "11", cohortGlobal := some "Sports", segments := some [" 10 "] },
   { name := "Tennis", code := some " 10 ", accurateId := some "acc-10" }]

/-- **A blank around a segment drops an id from the seed.** -/
theorem paddedSports_lack_id :
    (seeds paddedSports "CN").map (gathered .accurate) = [none] ∧
      (seeds (paddedSports.map trimSegments) "CN").map (gathered .accurate) =
        [some ["acc-10"]] := by
  decide +kernel

end Definition

end Audience
