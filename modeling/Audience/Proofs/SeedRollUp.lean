import Audience.Seed
import Audience.Proofs.KeyedOrder

/-!
# `Audience.Proofs.SeedRollUp` — a seed gathers exactly what its group gives

The roll-up visits each definition once and adds to one draft at a time, while the ids of a seed may
come from definitions of any group, visited before or after the member that names them. Its invariant
relates the drafts to the definitions seen so far: the keys ascend, and the draft of a group holds what
the members seen so far give, where a member reads the whole list of definitions. What one member adds
is stated as the addition of a property, so a draft is the roster of a property at every moment.

## Contents
- **Groups.** `membersOf`, `firstMarket`, and what members give: `GivesSegment` and `GivesId`.
- **Drafts.** What `addIds`, `addCoded` and `addMember` add, and `IsDraftOf`.
- **The roll-up.** The invariant `RollUpInv`, with `rollUp_inv` for one definition and
  `foldl_rollUp_inv` for all.
- **Seeds.** `IsSeedOf`, and the theorem that the seeds are those of the groups.
-/

namespace Audience

open Text
open Roster (IsRosterOf)

namespace Definition

/-! ## Groups -/

/-- The members of a group, in the order of the definitions. -/
def membersOf (ds : List Definition) (group : String) : List Definition :=
  ds.filter (·.cohortGlobal == some group)

/-- The market of the first member, or the default where it has none. -/
def firstMarket (members : List Definition) (defaultMarket : String) : String :=
  (members.head?.bind (·.market)).getD defaultMarket

/-- The text is the platform code of a member, or a segment of a member that has a platform code. -/
def GivesSegment (members : List Definition) (s : String) : Prop :=
  ∃ member ∈ members, ∃ code, member.platformCode = some code ∧
    (s = code ∨ s ∈ member.segments.getD [])

/-- The platform code of the definition is a segment of a member that has a platform code. -/
def Names (members : List Definition) (d : Definition) : Prop :=
  ∃ member ∈ members, ∃ own code, member.platformCode = some own ∧ d.platformCode = some code ∧
    code ∈ member.segments.getD []

/-- The text is an id of a member, or of any definition that a member names. -/
def GivesId (ds members : List Definition) (kind : IdKind) (id : String) : Prop :=
  ∃ d, (d ∈ members ∨ d ∈ ds ∧ Names members d) ∧ kind.of d = some id

variable {ds seen members : List Definition} {d : Definition} {group : String} {kind : IdKind}
  {defaultMarket : String}

theorem isReferenced_iff {references : List String} :
    d.isReferenced references = true ↔
      ∃ code, d.platformCode = some code ∧ code ∈ references := by
  simp [isReferenced, Option.any_eq_true]

theorem membersOf_snoc_of_eq (h : d.cohortGlobal = some group) :
    membersOf (seen ++ [d]) group = membersOf seen group ++ [d] := by
  rw [membersOf, List.filter_append, List.filter_cons_of_pos (by simp [h])]
  rfl

theorem membersOf_snoc_of_ne (h : d.cohortGlobal ≠ some group) :
    membersOf (seen ++ [d]) group = membersOf seen group := by
  rw [membersOf, List.filter_append, List.filter_cons_of_neg (by simp [h]), List.filter_nil,
    List.append_nil]
  rfl

theorem mem_membersOf : d ∈ membersOf ds group ↔ d ∈ ds ∧ d.cohortGlobal = some group := by
  simp [membersOf]

theorem firstMarket_append (h : members ≠ []) (more : List Definition) :
    firstMarket (members ++ more) defaultMarket = firstMarket members defaultMarket := by
  rw [firstMarket, List.head?_append_of_ne_nil _ h]
  rfl

theorem givesSegment_append {more : List Definition} {s : String} :
    GivesSegment (members ++ more) s ↔ GivesSegment members s ∨ GivesSegment more s := by
  simp only [GivesSegment, List.mem_append, or_and_right, exists_or]

theorem names_append {more : List Definition} :
    Names (members ++ more) d ↔ Names members d ∨ Names more d := by
  simp only [Names, List.mem_append, or_and_right, exists_or]

theorem givesId_append {more : List Definition} {id : String} :
    GivesId ds (members ++ more) kind id ↔ GivesId ds members kind id ∨ GivesId ds more kind id := by
  unfold GivesId
  rw [← exists_or]
  refine exists_congr fun d => ?_
  rw [List.mem_append, names_append, ← or_and_right]
  refine and_congr_left fun _ => ?_
  tauto

end Definition

namespace SeedDraft

open Definition

variable {ds members : List Definition} {draft : SeedDraft} {d member : Definition} {kind : IdKind}
  {defaultMarket : String} {P : String → Prop}

/-! ## Drafts -/

@[simp] theorem addIds_market : (draft.addIds d).market = draft.market := rfl

@[simp] theorem addIds_segments : (draft.addIds d).segments = draft.segments := rfl

theorem addIds_ids (h : IsRosterOf (draft.ids kind) P) (d : Definition) :
    IsRosterOf ((draft.addIds d).ids kind) fun id => P id ∨ kind.of d = some id := by
  unfold addIds
  cases hid : kind.of d with
  | none =>
      simp only [hid]
      exact h.congr fun id => by simp
  | some own =>
      simp only [hid]
      exact (h.add own).congr fun id => by simp [eq_comm]

@[simp] theorem foldl_addIds_market (cs : List Definition) :
    (cs.foldl addIds draft).market = draft.market := by
  induction cs generalizing draft with
  | nil => rfl
  | cons c rest ih => exact ih

@[simp] theorem foldl_addIds_segments (cs : List Definition) :
    (cs.foldl addIds draft).segments = draft.segments := by
  induction cs generalizing draft with
  | nil => rfl
  | cons c rest ih => exact ih

theorem foldl_addIds_ids (h : IsRosterOf (draft.ids kind) P) (cs : List Definition) :
    IsRosterOf ((cs.foldl addIds draft).ids kind)
      fun id => P id ∨ ∃ c ∈ cs, kind.of c = some id := by
  induction cs generalizing draft P with
  | nil => exact h.congr fun id => by simp
  | cons c rest ih =>
      refine (ih (addIds_ids h c)).congr fun id => ?_
      rw [List.exists_mem_cons_iff, or_assoc]

@[simp] theorem addCoded_market (code : String) :
    (draft.addCoded ds member code).market = draft.market := by
  unfold addCoded
  split <;> simp

theorem addCoded_segments (h : IsRosterOf draft.segments P) (code : String) :
    IsRosterOf (draft.addCoded ds member code).segments
      fun s => P s ∨ s = code ∨ s ∈ member.segments.getD [] := by
  unfold addCoded
  cases member.segments with
  | none => exact (h.add code).congr fun s => by simp
  | some references =>
      have hunion := (h.add code).union references
      simp only [foldl_addIds_segments]
      exact hunion.congr fun s => by rw [or_assoc]; rfl

theorem addCoded_ids (h : IsRosterOf (draft.ids kind) P) (code : String) :
    IsRosterOf ((draft.addCoded ds member code).ids kind)
      fun id => P id ∨ ∃ d ∈ ds, d.isReferenced (member.segments.getD []) = true ∧
        kind.of d = some id := by
  unfold addCoded
  cases member.segments with
  | none => exact h.congr fun id => by simp [isReferenced_iff]
  | some references =>
      have hids : IsRosterOf
          (SeedDraft.ids { draft with
            segments := Roster.union (Roster.add draft.segments code) references } kind) P := h
      refine (foldl_addIds_ids hids (ds.filter (·.isReferenced references))).congr fun id => ?_
      simp only [List.mem_filter, Option.getD_some, and_assoc]

@[simp] theorem addMember_market : (draft.addMember ds member).market = draft.market := by
  unfold addMember
  split <;> simp

/-- A member adds the segments that it gives. -/
theorem addMember_segments (h : IsRosterOf draft.segments P) (member : Definition) :
    IsRosterOf (draft.addMember ds member).segments fun s => P s ∨ GivesSegment [member] s := by
  unfold addMember
  cases hcode : member.platformCode with
  | none => exact h.congr fun s => by simp [GivesSegment, hcode]
  | some code => exact (addCoded_segments h code).congr fun s => by simp [GivesSegment, hcode]

/-- A member adds the ids that it gives: its own, and those of the definitions that it names. -/
theorem addMember_ids (h : IsRosterOf (draft.ids kind) P) (member : Definition) :
    IsRosterOf ((draft.addMember ds member).ids kind)
      fun id => P id ∨ GivesId ds [member] kind id := by
  unfold addMember
  cases hcode : member.platformCode with
  | none =>
      -- a member without a platform code names no definition
      refine (addIds_ids h member).congr fun id => ?_
      simp [GivesId, Names, hcode]
  | some code =>
      refine (addIds_ids (addCoded_ids h code) member).congr fun id => ?_
      have hnames : ∀ d, Names [member] d ↔ d.isReferenced (member.segments.getD []) = true := by
        intro d
        simp [Names, hcode, isReferenced_iff]
      -- the draft adds the ids of the named definitions first and the member's own ids last
      simp only [GivesId, hnames, List.mem_singleton]
      constructor
      · rintro ((hid | ⟨d, hd, hnamed, hid⟩) | hid)
        · exact Or.inl hid
        · exact Or.inr ⟨d, Or.inr ⟨hd, hnamed⟩, hid⟩
        · exact Or.inr ⟨member, Or.inl rfl, hid⟩
      · rintro (hid | ⟨d, rfl | ⟨hd, hnamed⟩, hid⟩)
        · exact Or.inl (Or.inl hid)
        · exact Or.inr hid
        · exact Or.inl (Or.inr ⟨d, hd, hnamed, hid⟩)

/-- The draft holds what the members give, and nothing else. -/
structure Gathers (ds members : List Definition) (draft : SeedDraft) : Prop where
  segments : IsRosterOf draft.segments (GivesSegment members)
  ids : ∀ kind, IsRosterOf (draft.ids kind) (GivesId ds members kind)

theorem Gathers.start (ds : List Definition) (market : String) :
    Gathers ds [] { market := market } where
  segments := IsRosterOf.nil.congr fun s => by simp [GivesSegment]
  ids kind := IsRosterOf.nil.congr fun id => by simp [GivesId, Names]

theorem Gathers.addMember (h : Gathers ds members draft) (member : Definition) :
    Gathers ds (members ++ [member]) (draft.addMember ds member) where
  segments := (addMember_segments h.segments member).congr fun _ => givesSegment_append.symm
  ids kind := (addMember_ids (h.ids kind) member).congr fun _ => givesId_append.symm

/-- The draft of a group with these members, of which there is at least one. -/
structure IsDraftOf (ds members : List Definition) (defaultMarket : String) (draft : SeedDraft) :
    Prop where
  nonempty : members ≠ []
  market : draft.market = firstMarket members defaultMarket
  gathers : Gathers ds members draft

theorem IsDraftOf.first (ds : List Definition) (defaultMarket : String) (member : Definition) :
    IsDraftOf ds [member] defaultMarket
      (addMember ds { market := member.market.getD defaultMarket } member) where
  nonempty := by simp
  market := by
    rw [addMember_market]
    rfl
  gathers := (Gathers.start ds _).addMember member

theorem IsDraftOf.next (h : IsDraftOf ds members defaultMarket draft) (member : Definition) :
    IsDraftOf ds (members ++ [member]) defaultMarket (draft.addMember ds member) where
  nonempty := by simp
  market := by rw [addMember_market, h.market, firstMarket_append h.nonempty]
  gathers := h.gathers.addMember member

end SeedDraft

namespace Definition

open SeedDraft (IsDraftOf)

variable {ds seen : List Definition} {drafts : List (String × SeedDraft)} {defaultMarket : String}

/-! ## The roll-up -/

/-- After the definitions seen so far, each of their groups has its draft, and no other group has. -/
structure RollUpInv (ds seen : List Definition) (defaultMarket : String)
    (drafts : List (String × SeedDraft)) : Prop where
  ascending : Roster.Ascending (Keyed.keys drafts)
  absent : ∀ {group}, Keyed.lookup? group drafts = none → membersOf seen group = []
  present : ∀ {group draft}, Keyed.lookup? group drafts = some draft →
    IsDraftOf ds (membersOf seen group) defaultMarket draft

theorem rollUpInv_nil (ds : List Definition) (defaultMarket : String) :
    RollUpInv ds [] defaultMarket [] where
  ascending := List.Pairwise.nil
  absent _ := rfl
  present h := absurd h (by simp [Keyed.lookup?])

/-- The draft of a member's group, after the member. -/
theorem RollUpInv.addMember (h : RollUpInv ds seen defaultMarket drafts) {d : Definition}
    {group : String} (hgroup : d.cohortGlobal = some group) :
    IsDraftOf ds (membersOf (seen ++ [d]) group) defaultMarket
      (((Keyed.lookup? group drafts).getD { market := d.market.getD defaultMarket }).addMember
        ds d) := by
  rw [membersOf_snoc_of_eq hgroup]
  cases hdraft : Keyed.lookup? group drafts with
  | none =>
      rw [h.absent hdraft]
      exact .first ds defaultMarket d
  | some draft => exact (h.present hdraft).next d

/-- **One definition keeps the invariant**: it adds to the draft of its group, and the drafts of all
other groups stay as they are. -/
theorem rollUp_inv (h : RollUpInv ds seen defaultMarket drafts) (d : Definition) :
    RollUpInv ds (seen ++ [d]) defaultMarket (rollUp ds defaultMarket drafts d) := by
  unfold rollUp
  cases hgroup : d.cohortGlobal with
  | none =>
      -- a definition without a group is a member of none
      have hstay : ∀ group, membersOf (seen ++ [d]) group = membersOf seen group :=
        fun group => membersOf_snoc_of_ne (by simp [hgroup])
      refine ⟨h.ascending, ?_, ?_⟩
      · intro group hnone
        rw [hstay]
        exact h.absent hnone
      · intro group draft hsome
        rw [hstay]
        exact h.present hsome
  | some own =>
      have hother : ∀ {group}, group ≠ own → membersOf (seen ++ [d]) group = membersOf seen group :=
        fun hne => membersOf_snoc_of_ne (by simp [hgroup, hne.symm])
      -- what is read under its own key is the new draft, and any other draft is read as before
      show RollUpInv ds (seen ++ [d]) defaultMarket (Keyed.insert own _ drafts)
      refine ⟨Keyed.ascending_keys_insert h.ascending _ _, ?_, ?_⟩
      · intro group hnone
        by_cases hown : group = own
        · subst hown
          rw [Keyed.lookup?_insert_self] at hnone
          cases hnone
        · rw [Keyed.lookup?_insert_of_ne hown] at hnone
          rw [hother hown]
          exact h.absent hnone
      · intro group draft hsome
        by_cases hown : group = own
        · subst hown
          rw [Keyed.lookup?_insert_self] at hsome
          cases hsome
          exact h.addMember hgroup
        · rw [Keyed.lookup?_insert_of_ne hown] at hsome
          rw [hother hown]
          exact h.present hsome

/-- **The whole roll-up keeps the invariant.** -/
theorem foldl_rollUp_inv (h : RollUpInv ds seen defaultMarket drafts) (rest : List Definition) :
    RollUpInv ds (seen ++ rest) defaultMarket (rest.foldl (rollUp ds defaultMarket) drafts) := by
  -- the definition at the head of the rest moves to the end of those seen
  induction rest generalizing seen drafts with
  | nil =>
      rw [List.append_nil]
      exact h
  | cons d rest ih =>
      rw [List.foldl_cons, List.append_cons]
      exact ih (rollUp_inv h d)

theorem rollUpInv_seeds (ds : List Definition) (defaultMarket : String) :
    RollUpInv ds ds defaultMarket (ds.foldl (rollUp ds defaultMarket) []) :=
  foldl_rollUp_inv (rollUpInv_nil ds defaultMarket) ds

/-! ## Seeds -/

/-- The list is the roster of the property, and it is left out where the roster would be empty. -/
structure IsRosterIfAny (entries : Option (List String)) (P : String → Prop) : Prop where
  roster : IsRosterOf (entries.getD []) P
  eq_none_iff : entries = none ↔ ∀ s, P s → isBlank s = true

theorem isRosterIfAny_ifAny {roster : List String} {P : String → Prop} (h : IsRosterOf roster P) :
    IsRosterIfAny (SeedDraft.ifAny roster) P := by
  unfold SeedDraft.ifAny
  cases roster with
  | nil =>
      refine ⟨h, fun _ s hs => ?_, fun _ => rfl⟩
      by_contra hblank
      rw [Bool.not_eq_true] at hblank
      exact absurd ((h.2 s).mpr ⟨hs, hblank⟩) (by simp)
  | cons s rest =>
      obtain ⟨hs, hblank⟩ := (h.2 s).mp (by simp)
      refine ⟨h, fun hnone => absurd hnone (by simp), fun hall => ?_⟩
      rw [show Roster.Entry.isBlank s = isBlank s from rfl, hall s hs] at hblank
      cases hblank

/-- The ids of this kind that a seed has gathered. -/
def gathered (kind : IdKind) (seed : Definition) : Option (List String) :=
  match kind with
  | .accurate => seed.accurateSegments
  | .volume => seed.volumeSegments
  | .obsidian => seed.obsidianSegments

/-- The definition is the seed of the group: its market, its name and the lists that its members give,
and beyond these no more than a name. -/
structure IsSeedOf (ds : List Definition) (defaultMarket group : String) (seed : Definition) :
    Prop where
  market : seed.market = some (firstMarket (membersOf ds group) defaultMarket)
  name : seed.name =
    firstMarket (membersOf ds group) defaultMarket ++ " | " ++ group ++ " | Seed"
  segments : IsRosterIfAny seed.segments (GivesSegment (membersOf ds group))
  ids : ∀ kind, IsRosterIfAny (gathered kind seed) (GivesId ds (membersOf ds group) kind)
  others : seed = { ofName seed.name with
    market := seed.market
    cohortGlobal := some group
    segments := seed.segments
    accurateSegments := seed.accurateSegments
    volumeSegments := seed.volumeSegments
    obsidianSegments := seed.obsidianSegments }

theorem isSeedOf_toSeed {group : String} {draft : SeedDraft}
    (h : IsDraftOf ds (membersOf ds group) defaultMarket draft) :
    IsSeedOf ds defaultMarket group (draft.toSeed group) where
  market := congrArg some h.market
  name := by
    rw [← h.market]
    rfl
  segments := isRosterIfAny_ifAny h.gathers.segments
  ids kind := by
    cases kind with
    | accurate => exact isRosterIfAny_ifAny (h.gathers.ids .accurate)
    | volume => exact isRosterIfAny_ifAny (h.gathers.ids .volume)
    | obsidian => exact isRosterIfAny_ifAny (h.gathers.ids .obsidian)
  others := rfl

/-- The keys are the groups that definitions have. -/
theorem mem_keys_rollUp {group : String} :
    group ∈ Keyed.keys (ds.foldl (rollUp ds defaultMarket) []) ↔
      ∃ d ∈ ds, d.cohortGlobal = some group := by
  have hinv := rollUpInv_seeds ds defaultMarket
  rw [Keyed.mem_keys_iff]
  constructor
  · rintro ⟨draft, hdraft⟩
    obtain ⟨d, hd⟩ := List.exists_mem_of_ne_nil _ (hinv.present hdraft).nonempty
    exact ⟨d, mem_membersOf.mp hd⟩
  · rintro ⟨d, hd⟩
    cases hdraft : Keyed.lookup? group (ds.foldl (rollUp ds defaultMarket) []) with
    | none =>
        have hmem : d ∈ membersOf ds group := mem_membersOf.mpr hd
        rw [show membersOf ds group = [] from hinv.absent hdraft] at hmem
        exact absurd hmem (by simp)
    | some draft => exact ⟨draft, rfl⟩

/-- The seeds are those of the keys, in their order. -/
theorem forall₂_isSeedOf (ds : List Definition) (defaultMarket : String) :
    List.Forall₂ (IsSeedOf ds defaultMarket)
      (Keyed.keys (ds.foldl (rollUp ds defaultMarket) [])) (seeds ds defaultMarket) := by
  have hinv := rollUpInv_seeds ds defaultMarket
  rw [Keyed.keys, seeds, List.forall₂_map_left_iff, List.forall₂_map_right_iff]
  refine List.forall₂_same.mpr fun entry hentry => ?_
  exact isSeedOf_toSeed (hinv.present (Keyed.lookup?_of_mem hinv.ascending hentry))

/-- **Each group has one seed, which gathers what the group gives and nothing else.** The groups ascend;
the lists of a seed are the rosters of the codes, segments and ids that its members give, over all the
definitions, in whatever order these stand. -/
theorem seeds_gather_groups (ds : List Definition) (defaultMarket : String) :
    ∃ groups : List String, Roster.Ascending groups ∧
      (∀ group, group ∈ groups ↔ ∃ d ∈ ds, d.cohortGlobal = some group) ∧
      List.Forall₂ (IsSeedOf ds defaultMarket) groups (seeds ds defaultMarket) :=
  ⟨_, (rollUpInv_seeds ds defaultMarket).ascending, fun _ => mem_keys_rollUp,
    forall₂_isSeedOf ds defaultMarket⟩

/-- A definition without a group gives its id to the seed of the member that names it. -/
example :
    (seeds
      [{ name := "Golf", code := some "11", cohortGlobal := some "Sports", segments := some ["10"] },
       { name := "Tennis", number := some " 10 ", accurateId := some "acc-10" }] "CN").map
      (fun seed => (seed.name, seed.segments, seed.accurateSegments)) =
      [("CN | Sports | Seed", some ["10", "11"], some ["acc-10"])] := by
  decide +kernel

end Definition

end Audience
