import Audience.Proofs.AllOrNothing
import Audience.Proofs.SameSignals
import Audience.Proofs.SeedRollUp
import Audience.Proofs.SegmentEntries

/-!
# `Audience.Proofs.SeedQuery` — a seed asks for the segments of its group and for nothing else

A seed is compiled like any other definition, so only its fields keep other branches out of its query: a
page view is on by default, and a seed carries three lists of ids. It turns out to have no signal but
segments, and these need no further content, so no seed is ever refused. What its query asks for are the
integers that the codes and segments of the members denote. Anything else about a definition, its
keywords, flags, domains and ids, has no way into the query of a seed.

## Contents
- **Segments alone.** `ofSegments`, a definition with nothing but segments, and its query.
- **Members.** `givenCodes`, and `groupEntries`: the integers that the members of a group denote.
- **Seeds.** `IsSeedOf.sameSignals`: a seed has the signals of its codes alone; `map_query_seeds`.
- **Memberships.** `SameMemberships`, with `groups_eq` and `groupEntries_eq`.
- **All seeds.** `AsksForGroup` and `run_seeds_eq_success`; `seeds_compile_to_entries`.
-/

namespace Audience.Definition

open Number Text

variable {settings : Settings} {d seed : Definition} {ds ds' members : List Definition}
  {group defaultMarket : String}

/-! ## Segments alone -/

/-- A definition that has nothing but segments. -/
def ofSegments (codes : List String) : Definition :=
  { ofName "" with segments := some codes }

/-- The branches of a definition that has nothing but segments. -/
def entryBranches (codes : List String) : Signal → List Condition
  | .segmentEntry => (Signal.enteredSegments (ofSegments codes)).map (.hasEntered none)
  | _ => []

/-- No signal but that of the segments contributes a branch, and none is refused. -/
theorem contribution_ofSegments (settings : Settings) (codes : List String) (signal : Signal) :
    (ofSegments codes).contribution settings signal = .ok (entryBranches codes signal) := by
  cases signal with
  | segmentEntry => exact contribution_segmentEntry settings (ofSegments codes)
  | _ => rfl

/-- **Segments alone compile to the union of the segments that they denote.** -/
theorem query_ofSegments (settings : Settings) (codes : List String) :
    (ofSegments codes).query settings =
      .ok (.any ((Signal.enteredSegments (ofSegments codes)).map (.hasEntered none))) := by
  refine query_eq_ok_iff.mpr ⟨entryBranches codes, contribution_ofSegments settings codes, ?_⟩
  have hparts : Signal.all.flatMap (entryBranches codes) = entryBranches codes .segmentEntry := by
    simp [Signal.all, entryBranches]
  rw [hparts]
  rfl

/-! ## Members -/

/-- The platform codes of the members that have one, each with the segments of its member. -/
def givenCodes (members : List Definition) : List String :=
  members.flatMap fun member =>
    match member.platformCode with
    | none => []
    | some code => code :: member.segments.getD []

theorem mem_givenCodes {s : String} : s ∈ givenCodes members ↔ GivesSegment members s := by
  rw [givenCodes, List.mem_flatMap]
  refine exists_congr fun member => and_congr_right fun _ => ?_
  cases member.platformCode with
  | none => simp
  | some code => simp

/-- The segments that the codes and segments of the members denote. -/
def groupEntries (members : List Definition) : List Int :=
  Signal.enteredSegments (ofSegments (givenCodes members))

theorem mem_groupEntries {n : Int} :
    n ∈ groupEntries members ↔
      (∃ code, GivesSegment members code ∧ SignedDigits (trim code).toList n) ∧
        fitsInt64 n = true := by
  rw [groupEntries, mem_enteredSegments_iff]
  refine and_congr_left fun _ => exists_congr fun code => and_congr_left fun _ => ?_
  exact mem_givenCodes

theorem ascending_groupEntries (members : List Definition) :
    Roster.Ascending (groupEntries members) :=
  Roster.ascending_sorted _

/-! ## Seeds -/

/-- **A seed has the signals of its codes alone.** Its name, its market and the ids that it has gathered
are no signals, and it has left the rest as it was. -/
theorem IsSeedOf.sameSignals (h : IsSeedOf ds defaultMarket group seed) :
    SameSignals seed (ofSegments (givenCodes (membersOf ds group))) := by
  have hsegments : Roster.SameEntries (seed.segments.getD []) (givenCodes (membersOf ds group)) := by
    intro s hblank
    rw [h.segments.roster.2 s, and_iff_left hblank, mem_givenCodes]
  rw [h.others]
  exact { SameSignals.refl (ofSegments (givenCodes (membersOf ds group))) with
    segments := hsegments }

theorem IsSeedOf.query_eq (h : IsSeedOf ds defaultMarket group seed) :
    seed.query settings =
      .ok (.any ((groupEntries (membersOf ds group)).map (.hasEntered none))) :=
  (h.sameSignals.query settings).trans (query_ofSegments settings _)

/-- The groups that have a seed, in the order of the seeds. -/
def groups (ds : List Definition) (defaultMarket : String) : List String :=
  Keyed.keys (ds.foldl (rollUp ds defaultMarket) [])

theorem ascending_groups (ds : List Definition) (defaultMarket : String) :
    Roster.Ascending (groups ds defaultMarket) :=
  (rollUpInv_seeds ds defaultMarket).ascending

theorem mem_groups : group ∈ groups ds defaultMarket ↔ ∃ d ∈ ds, d.cohortGlobal = some group :=
  mem_keys_rollUp

/-- The queries of all seeds, group by group. -/
theorem map_query_seeds (settings : Settings) (ds : List Definition) (defaultMarket : String) :
    (seeds ds defaultMarket).map (query settings) =
      (groups ds defaultMarket).map fun group =>
        .ok (.any ((groupEntries (membersOf ds group)).map (.hasEntered none))) := by
  rw [← List.forall₂_eq_eq_eq, List.forall₂_map_left_iff, List.forall₂_map_right_iff]
  exact (forall₂_isSeedOf ds defaultMarket).flip.imp fun _ _ h => h.query_eq

theorem exists_query_of_mem_seeds (settings : Settings) (h : seed ∈ seeds ds defaultMarket) :
    ∃ q, seed.query settings = .ok q := by
  have hmem : seed.query settings ∈ (seeds ds defaultMarket).map (query settings) :=
    List.mem_map_of_mem h
  rw [map_query_seeds, List.mem_map] at hmem
  obtain ⟨group, -, hquery⟩ := hmem
  exact ⟨_, hquery.symm⟩

/-! ## Memberships -/

/-- What of a definition reaches the query of a seed. -/
structure Membership where
  group : Option String
  code : Option String
  segments : List String
deriving DecidableEq

def membership (d : Definition) : Membership where
  group := d.cohortGlobal
  code := d.platformCode
  segments := d.segments.getD []

/-- The lists have the same memberships, in any order and any number of times. -/
def SameMemberships (ds ds' : List Definition) : Prop :=
  ∀ m, m ∈ ds.map membership ↔ m ∈ ds'.map membership

theorem SameMemberships.groups_eq (h : SameMemberships ds ds') (market market' : String) :
    groups ds market = groups ds' market' := by
  have hgroups : ∀ {cs : List Definition} {group : String},
      (∃ d ∈ cs, d.cohortGlobal = some group) ↔
        ∃ m ∈ cs.map membership, m.group = some group := by
    intro cs group
    simp only [List.mem_map, exists_exists_and_eq_and, membership]
  refine (ascending_groups ds market).eq_of_mem_iff (ascending_groups ds' market') fun group => ?_
  rw [mem_groups, mem_groups, hgroups, hgroups]
  exact exists_congr fun m => and_congr_left fun _ => h m

theorem givesSegment_iff {s : String} :
    GivesSegment (membersOf ds group) s ↔ ∃ m ∈ ds.map membership,
      m.group = some group ∧ ∃ code, m.code = some code ∧ (s = code ∨ s ∈ m.segments) := by
  simp only [GivesSegment, mem_membersOf, and_assoc, List.mem_map, exists_exists_and_eq_and,
    membership]

theorem SameMemberships.groupEntries_eq (h : SameMemberships ds ds') (group : String) :
    groupEntries (membersOf ds group) = groupEntries (membersOf ds' group) := by
  have hgives : ∀ s, GivesSegment (membersOf ds group) s ↔ GivesSegment (membersOf ds' group) s := by
    intro s
    rw [givesSegment_iff, givesSegment_iff]
    exact exists_congr fun m => and_congr_left fun _ => h m
  refine (ascending_groupEntries _).eq_of_mem_iff (ascending_groupEntries _) fun n => ?_
  simp only [mem_groupEntries, hgives]

/-! ## All seeds -/

/-- The seed asks for the entered segments of its group and for nothing else: at any time, on any domain,
and for each integer once that a code or segment of its members denotes. -/
structure AsksForGroup (settings : Settings) (ds : List Definition) (group : String)
    (seed : Definition) : Prop where
  cohortGlobal : seed.cohortGlobal = some group
  query : ∃ entered : List Int,
    seed.query settings = .ok (.any (entered.map (.hasEntered none))) ∧
      entered.Pairwise (· < ·) ∧
      ∀ n, n ∈ entered ↔
        (∃ code, GivesSegment (membersOf ds group) code ∧ SignedDigits (trim code).toList n) ∧
          fitsInt64 n = true

theorem IsSeedOf.asksForGroup (h : IsSeedOf ds defaultMarket group seed) (settings : Settings) :
    AsksForGroup settings ds group seed where
  cohortGlobal := congrArg Definition.cohortGlobal h.others
  query := ⟨groupEntries (membersOf ds group), h.query_eq, Signal.pairwise_lt_enteredSegments _,
    fun _ => mem_groupEntries⟩

/-- Every seed has a result, so a run that prints seeds can only fail before there are definitions. -/
theorem run_seeds_eq_success {env : List (String × String)} {fs : FileSystem} {args : List String}
    {request : CommandLine.Invocation} {c : Configuration}
    (hparse : CommandLine.parse args = .ok request) (hcommand : request.command = .seeds)
    (hload : Environment.load env = .ok c)
    (hfiles : Library.load fs request.file (Program.effective env request.options c).dataPath =
      .ok ds) : ∃ output, Program.run env fs args = .success output := by
  have hreaches := Program.reaches_iff.mpr ⟨c, ds, hload, hfiles, rfl, rfl⟩
  refine Program.exists_run_eq_success hparse hreaches ?_
  rw [hcommand]
  intro seed hseed
  obtain ⟨q, hq⟩ := exists_query_of_mem_seeds (Program.effective env request.options c).compiler hseed
  exact ⟨_, .seeds hq⟩

/-- **Every seed compiles, and asks for the segments of its group alone.** There is one seed for each
group, whatever the definitions, the market and the settings. What its members have besides their group,
code and segments has no influence on any query of a seed. So a run that prints seeds succeeds once the
configuration and the definitions are loaded. -/
theorem seeds_compile_to_entries :
    (∀ (settings : Settings) (ds : List Definition) (defaultMarket : String),
      ∃ groups : List String, Roster.Ascending groups ∧
        (∀ group, group ∈ groups ↔ ∃ d ∈ ds, d.cohortGlobal = some group) ∧
        List.Forall₂ (AsksForGroup settings ds) groups (seeds ds defaultMarket)) ∧
    (∀ (settings : Settings) (ds ds' : List Definition) (market market' : String),
      SameMemberships ds ds' →
        (seeds ds market).map (query settings) = (seeds ds' market').map (query settings)) ∧
    ∀ (env : List (String × String)) (fs : FileSystem) (args : List String)
      (request : CommandLine.Invocation) (c : Configuration) (ds : List Definition),
      CommandLine.parse args = .ok request → request.command = .seeds →
      Environment.load env = .ok c →
      Library.load fs request.file (Program.effective env request.options c).dataPath = .ok ds →
        ∃ output, Program.run env fs args = .success output := by
  refine ⟨?_, ?_, ?_⟩
  · intro settings ds defaultMarket
    refine ⟨groups ds defaultMarket, ascending_groups ds defaultMarket, fun _ => mem_groups, ?_⟩
    exact (forall₂_isSeedOf ds defaultMarket).imp fun _ _ h => h.asksForGroup settings
  · intro settings ds ds' market market' h
    rw [map_query_seeds, map_query_seeds, h.groups_eq market market']
    refine List.map_congr_left fun group _ => ?_
    rw [h.groupEntries_eq group]
  · intro env fs args request c ds hparse hcommand hload hfiles
    exact run_seeds_eq_success hparse hcommand hload hfiles

/-- Two members of a group, with signals of many kinds. -/
def clubs : List Definition :=
  [{ name := "Golf", code := some " 12 ", cohortGlobal := some "Sports", keywords := some ["golf"],
     segments := some ["+007", "x"], linkClick := true, days := 30 },
   { name := "Tennis", number := some "9", cohortGlobal := some "Sports", urls := some ["/t/"],
     domains := some ["example.com"], obsidianId := some "ob-1", pageView := false }]

/-- The same memberships in the other order, and nothing else. -/
def bareClubs : List Definition :=
  [{ name := "", code := some "9", cohortGlobal := some "Sports" },
   { name := "", code := some "12", cohortGlobal := some "Sports", segments := some ["+007", "x"] }]

/-- A document with one member of a group, whose flag could not be compiled. -/
def clubDocument : String :=
  "\x7b\"name\":\"Golf\",\"code\":\"12\",\"cohort_global\":\"Sports\",\"link_click\":true\x7d"

def clubhouse : FileSystem :=
  (FileTree.folder [("golf.json", .file clubDocument.toUTF8)]).fileSystem

/-- A seed is not refused for the flag of a member, and a run prints it. -/
theorem clubs_compile_to_entries :
    (SameMemberships clubs bareClubs ∧
      (seeds clubs "CN").map (query {}) = (seeds bareClubs "FR").map (query {})) ∧
    CommandLine.parse ["seeds", "golf.json"] = .ok ⟨.seeds, some "golf.json", {}⟩ ∧
    (∃ c ds, Environment.load [] = .ok c ∧
      Library.load clubhouse (some "golf.json") (Program.effective [] {} c).dataPath = .ok ds) ∧
    ∃ output, Program.run [] clubhouse ["seeds", "golf.json"] = .success output := by
  have hsame : SameMemberships clubs bareClubs := by
    have hmap : clubs.map membership = (bareClubs.map membership).reverse := by decide +kernel
    intro m
    rw [hmap, List.mem_reverse]
  have hparse : CommandLine.parse ["seeds", "golf.json"] = .ok ⟨.seeds, some "golf.json", {}⟩ := by
    rfl
  have hload : (Environment.load []).isOk = true := by decide +kernel
  obtain ⟨c, hc⟩ := exists_of_isOk hload
  have hfiles : (Library.load clubhouse (some "golf.json")
      (Program.effective [] {} c).dataPath).isOk = true := by
    show (Library.load clubhouse (some "golf.json") none).isOk = true
    decide +kernel
  obtain ⟨ds, hds⟩ := exists_of_isOk hfiles
  exact ⟨⟨hsame, seeds_compile_to_entries.2.1 {} clubs bareClubs "CN" "FR" hsame⟩, hparse,
    ⟨c, ds, hc, hds⟩, seeds_compile_to_entries.2.2 [] clubhouse _ _ c ds hparse rfl hc hds⟩

end Audience.Definition
