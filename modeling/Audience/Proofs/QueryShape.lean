import Audience.Proofs.Refusals
import Audience.Proofs.SegmentEntries

/-!
# `Audience.Proofs.QueryShape` — what a compiled query consists of

The branches of a query come in a fixed order, and which of them there are can be read off the
definition: views where there is something to view, one condition for each flag that is set, and one
for each segment that is named. A list of blank entries is as good as none, although it does call for
its signal.

Days and frequency are for views and entries alone. Setting them anew changes the windows of these
conditions and the frequencies of the views, and nothing else in the query; clicks, engagement and the
filter on domains have no window at all.

## Contents
- **Bare conditions.** `Condition.bare`, a condition without its test, and `one`.
- **Bare branches.** `Definition.bareBranches` of each signal, and `map_bare_contribution`.
- **Views.** `no_view_of_lacksContent`.
- **Days and frequency.** `Condition.retimed`, and `query_retimed` for two runs.
- **Queries.** `query_shape`.
-/

namespace Audience

open Number Text

variable {settings : Settings} {d : Definition}

/-! ## Bare conditions -/

/-- The condition without the test of its properties. -/
def Condition.bare : Condition → Condition
  | .event window name frequency _ => .event window name frequency (.any [])
  | .engagedTime seconds _ => .engagedTime seconds (.any [])
  | .engagedCompletion completion _ => .engagedCompletion completion (.any [])
  | .hasEntered window segment => .hasEntered window segment
  | .inSecondPartySegment provider segment => .inSecondPartySegment provider segment
  | .inThirdPartySegment provider segment => .inThirdPartySegment provider segment

theorem Condition.eventName?_bare (c : Condition) : c.bare.eventName? = c.eventName? := by
  cases c <;> rfl

/-- One condition where the property holds, and none elsewhere. -/
def one (P : Prop) [Decidable P] (c : Condition) : List Condition :=
  if P then [c] else []

theorem mem_one {P : Prop} [Decidable P] {b c : Condition} : b ∈ one P c ↔ P ∧ b = c := by
  unfold one
  split <;> simp [*]

theorem map_bare_ite {test : Bool} {P : Prop} [Decidable P] (h : test = true ↔ P) (c : Condition) :
    (if test then [c] else []).map Condition.bare = one P c.bare := by
  unfold one
  by_cases hP : P
  · rw [if_pos (h.mpr hP), if_pos hP]
    rfl
  · rw [if_neg (mt h.mp hP), if_neg hP]
    rfl

/-! ## Bare branches -/

/-- The pairs that are given and of which neither half is blank, ascending by provider, and by segment
within a provider. -/
structure PartnerSegment.IsRosterOf (pairs given : List PartnerSegment) : Prop where
  ascending : pairs.Pairwise fun p q => before p.provider q.provider = true ∨
    p.provider = q.provider ∧ before p.segment q.segment = true
  mem_iff : ∀ p, p ∈ pairs ↔ p ∈ given ∧ isBlank p.provider = false ∧ isBlank p.segment = false

theorem PartnerSegment.isRosterOf_ofList (given : List PartnerSegment) :
    IsRosterOf (Roster.ofList given) given where
  ascending := by
    refine List.Pairwise.imp ?_ (Roster.ascending_ofList given)
    intro p q hpq
    have horder : (if p.provider = q.provider then before p.segment q.segment
        else before p.provider q.provider) = true := hpq
    by_cases hprovider : p.provider = q.provider
    · rw [if_pos hprovider] at horder
      exact Or.inr ⟨hprovider, horder⟩
    · rw [if_neg hprovider] at horder
      exact Or.inl horder
  mem_iff := by
    intro p
    have hblank : Roster.Entry.isBlank p = (isBlank p.provider || isBlank p.segment) := rfl
    rw [Roster.mem_ofList, hblank, Bool.or_eq_false_iff]

namespace Definition

/-- The segments of the platform and of other providers that a definition asks for: each of them once,
in order. -/
structure AsksFor (d : Definition) (entered : List Int) (second third : List PartnerSegment) :
    Prop where
  ascending : entered.Pairwise (· < ·)
  mem_entered : ∀ n, n ∈ entered ↔
    (∃ code ∈ d.segments.getD [], SignedDigits (trim code).toList n) ∧ fitsInt64 n = true
  second : PartnerSegment.IsRosterOf second (d.secondPartySegments.getD [])
  third : PartnerSegment.IsRosterOf third (d.thirdPartySegments.getD [])

theorem asksFor (d : Definition) :
    d.AsksFor (Signal.enteredSegments d) (Roster.ofList (d.secondPartySegments.getD []))
      (Roster.ofList (d.thirdPartySegments.getD [])) where
  ascending := Signal.pairwise_lt_enteredSegments d
  mem_entered _ := mem_enteredSegments_iff
  second := PartnerSegment.isRosterOf_ofList _
  third := PartnerSegment.isRosterOf_ofList _

/-- The window of views and entries: the days of the definition, where there are any. -/
def window? (d : Definition) : Option Window :=
  if 0 < d.days then some ⟨d.days⟩ else none

theorem lastDays_days (d : Definition) : Window.lastDays d.days = d.window? := by
  unfold Window.lastDays window?
  by_cases h : d.days = 0
  · simp [h]
  · have hpos : 0 < d.days := UInt32.pos_iff_ne_zero.mpr h
    rw [if_neg h, if_pos hpos]

/-- The bare branches of a signal. -/
def bareBranches (settings : Settings) (d : Definition) (entered : List Int)
    (second third : List PartnerSegment) : Signal → List Condition
  | .pageView =>
      one (d.pageView = true ∧ ¬ d.LacksContent)
        (.event d.window? "Pageview" (.atLeast d.frequency) (.any []))
  | .videoView =>
      one (d.pageView = true ∧ ¬ AllBlank (d.keywords.getD []))
        (.event d.window? "videoViews" (.atLeast d.frequency) (.any []))
  | .linkClick => one (d.linkClick = true) (.event none "LinkClick" (.atLeast 1) (.any []))
  | .engagedTime =>
      one (d.engagedTime = true)
        (.engagedTime ⟨.greaterThan, .int settings.engagedTimeSeconds.toNat⟩ (.any []))
  | .engagedCompletion =>
      one (d.engagedCompletion = true)
        (.engagedCompletion ⟨.greaterThan, .ofFloat settings.engagedCompletionRatio⟩ (.any []))
  | .slotClick =>
      one (d.slotClick = true) (.event none "GamLogSlotClicked" (.atLeast 1) (.any []))
  | .segmentEntry => entered.map (.hasEntered d.window?)
  | .secondParty => second.map fun p => .inSecondPartySegment p.provider p.segment
  | .thirdParty => third.map fun p => .inThirdPartySegment p.provider p.segment

/-- A signal that builds one condition contributes it exactly where it applies. -/
theorem map_bare_of_build {signal : Signal} {x : Except MissingContent Condition}
    {bs : List Condition} {c : Condition} (h : d.contribution settings signal = .ok bs)
    (hbuild : signal.build (.ofDefinition settings d) = x.map ([·]))
    (hbare : ∀ b, x = .ok b → b.bare = c) :
    bs.map Condition.bare = one (signal.applies d = true) c := by
  unfold contribution at h
  unfold one
  split at h
  · rename_i happlies
    rw [hbuild] at h
    obtain ⟨b, hb, rfl⟩ := map_eq_ok_iff.mp h
    rw [if_pos happlies, ← hbare b hb]
    rfl
  · rename_i happlies
    cases h
    rw [if_neg happlies]
    rfl

/-- A condition that is refused where a test passes, or where it fails, is the one condition that can
be built. -/
theorem bare_of_refused_if {P : Prop} [Decidable P] {b c : Condition} {e : MissingContent}
    (h : (if P then .error e else .ok c : Except MissingContent Condition) = .ok b) :
    b.bare = c.bare := by
  split at h
  · cases h
  · cases h
    rfl

theorem bare_of_built_if {P : Prop} [Decidable P] {b c : Condition} {e : MissingContent}
    (h : (if P then .ok c else .error e : Except MissingContent Condition) = .ok b) :
    b.bare = c.bare := by
  split at h
  · cases h
    rfl
  · cases h

/-- **What a signal contributes is, without the tests, the bare branches of the signal.** -/
theorem map_bare_contribution {signal : Signal} {bs : List Condition}
    (h : d.contribution settings signal = .ok bs) :
    bs.map Condition.bare = d.bareBranches settings (Signal.enteredSegments d)
      (Roster.ofList (d.secondPartySegments.getD []))
      (Roster.ofList (d.thirdPartySegments.getD [])) signal := by
  cases signal with
  | pageView =>
      rw [contribution_pageView] at h
      cases h
      have hcontent : (d.pageView && d.hasContent) = true ↔ d.pageView = true ∧ ¬ d.LacksContent := by
        rw [Bool.and_eq_true, ← hasContent_eq_false_iff, Bool.not_eq_false]
      rw [map_bare_ite hcontent, bareBranches, ← lastDays_days]
      rfl
  | videoView =>
      rw [contribution_videoView] at h
      cases h
      have hkeywords : (d.pageView && d.hasKeywords) = true ↔
          d.pageView = true ∧ ¬ AllBlank (d.keywords.getD []) := by
        rw [Bool.and_eq_true, hasKeywords, ← populated_eq_false_iff, Bool.not_eq_false]
      rw [map_bare_ite hkeywords, bareBranches, ← lastDays_days]
      rfl
  | linkClick | slotClick => exact map_bare_of_build h rfl fun _ => bare_of_refused_if
  | engagedTime | engagedCompletion => exact map_bare_of_build h rfl fun _ => bare_of_built_if
  | segmentEntry =>
      rw [contribution_segmentEntry, lastDays_days] at h
      cases h
      rw [List.map_map]
      rfl
  | secondParty =>
      rw [contribution_secondParty] at h
      cases h
      rw [List.map_map]
      rfl
  | thirdParty =>
      rw [contribution_thirdParty] at h
      cases h
      rw [List.map_map]
      rfl

/-! ## Views -/

/-- Without content no signal asks for a view. -/
theorem no_view_of_lacksContent {entered : List Int} {second third : List PartnerSegment}
    {signal : Signal} {b : Condition} (hcontent : d.LacksContent)
    (h : b ∈ d.bareBranches settings entered second third signal) :
    b.eventName? ≠ some "Pageview" ∧ b.eventName? ≠ some "videoViews" := by
  cases signal with
  | pageView => exact absurd hcontent (mem_one.mp h).1.2
  | videoView => exact absurd hcontent.1 (mem_one.mp h).1.2
  | linkClick | engagedTime | engagedCompletion | slotClick =>
      obtain ⟨-, rfl⟩ := mem_one.mp h
      simp [Condition.eventName?]
  | segmentEntry | secondParty | thirdParty =>
      obtain ⟨_, -, rfl⟩ := List.mem_map.mp h
      simp [Condition.eventName?]

end Definition

/-! ## Days and frequency -/

namespace Condition

/-- The condition is a view, or an entry of a segment. -/
def IsTimed : Condition → Prop
  | .event _ name _ _ => name = "Pageview" ∨ name = "videoViews"
  | .hasEntered _ _ => True
  | _ => False

theorem isTimed_bare {c : Condition} : c.bare.IsTimed ↔ c.IsTimed := by
  cases c <;> exact Iff.rfl

/-- A view in another window and at another frequency, or an entry in another window. Any other
condition is left as it is. -/
def retimed (window : Option Window) (frequency : Comparison) : Condition → Condition
  | .event w name f content =>
      if name = "Pageview" ∨ name = "videoViews" then .event window name frequency content
      else .event w name f content
  | .hasEntered _ segment => .hasEntered window segment
  | c => c

theorem retimed_of_not_isTimed {window : Option Window} {frequency : Comparison} {c : Condition}
    (h : ¬ c.IsTimed) : c.retimed window frequency = c := by
  cases c with
  | event w name f content => exact if_neg h
  | hasEntered w segment => exact absurd trivial h
  | _ => rfl

end Condition

namespace Query

/-- The query with its branches changed, under the same filters. -/
def mapBranches (f : Condition → Condition) : Query → Query
  | .any branches => .any (branches.map f)
  | .narrowed inner filter => .narrowed (inner.mapBranches f) filter

end Query

/-- What is changed in all the results of a run is changed in what they are joined to. -/
theorem flatten_mapM_map {α β γ ε : Type} (f : α → Except ε (List β)) (g : β → γ) (as : List α) :
    (as.mapM fun a => (f a).map (List.map g)).map List.flatten =
      ((as.mapM f).map List.flatten).map (List.map g) := by
  induction as with
  | nil => rfl
  | cons a rest ih =>
      rw [flatten_mapM_cons, flatten_mapM_cons, ih]
      cases f a with
      | error e => rfl
      | ok bs =>
          cases (rest.mapM f).map List.flatten with
          | error e => rfl
          | ok cs => exact congrArg Except.ok List.map_append.symm

namespace Definition

/-- Views and entries apart, no signal contributes a condition that is timed. -/
theorem not_isTimed_of_contribution {signal : Signal}
    (hsignal : signal ∉ [.pageView, .videoView, .segmentEntry]) {bs : List Condition}
    (h : d.contribution settings signal = .ok bs) : ∀ b ∈ bs, ¬ b.IsTimed := by
  intro b hb
  have hmem : b.bare ∈ bs.map Condition.bare := List.mem_map_of_mem hb
  rw [map_bare_contribution h] at hmem
  rw [← Condition.isTimed_bare]
  cases signal with
  | pageView | videoView | segmentEntry => simp at hsignal
  | linkClick | engagedTime | engagedCompletion | slotClick =>
      rw [(mem_one.mp hmem).2]
      simp [Condition.IsTimed]
  | secondParty | thirdParty =>
      obtain ⟨_, -, hbare⟩ := List.mem_map.mp hmem
      rw [← hbare]
      exact not_false

/-- **Days and frequency are for views and entries alone.** -/
theorem contribution_retimed (settings : Settings) (d : Definition) (days frequency : UInt32)
    (signal : Signal) :
    ({ d with days := days, frequency := frequency } : Definition).contribution settings signal =
      (d.contribution settings signal).map
        (List.map (Condition.retimed (Window.lastDays days) (.atLeast frequency))) := by
  -- the other signals do not read them, and have no conditions that carry them
  have hothers : signal ∉ [.pageView, .videoView, .segmentEntry] →
      d.contribution settings signal = (d.contribution settings signal).map
        (List.map (Condition.retimed (Window.lastDays days) (.atLeast frequency))) := by
    intro hsignal
    cases hrun : d.contribution settings signal with
    | error e => rfl
    | ok bs =>
        have hfixed : ∀ b ∈ bs, b.retimed (Window.lastDays days) (.atLeast frequency) = b :=
          fun b hb =>
            Condition.retimed_of_not_isTimed (not_isTimed_of_contribution hsignal hrun b hb)
        exact congrArg Except.ok ((List.map_congr_left hfixed).trans (List.map_id' bs)).symm
  cases signal with
  | pageView =>
      rw [contribution_pageView, contribution_pageView]
      show Except.ok (if d.pageView && d.hasContent then _ else _) = _
      split
      · rfl
      · rfl
  | videoView =>
      rw [contribution_videoView, contribution_videoView]
      show Except.ok (if d.pageView && d.hasKeywords then _ else _) = _
      split
      · rfl
      · rfl
  | segmentEntry =>
      rw [contribution_segmentEntry, contribution_segmentEntry]
      show _ = Except.ok (List.map _ (List.map _ _))
      rw [List.map_map]
      rfl
  | linkClick | engagedTime | engagedCompletion | slotClick | secondParty | thirdParty =>
      exact hothers (by decide)

theorem mapBranches_narrow (f : Condition → Condition) (q : Query) :
    (d.narrow q).mapBranches f = d.narrow (q.mapBranches f) := by
  unfold narrow
  split <;> rfl

/-- **Setting days and frequency anew changes the windows of views and entries and the frequencies of
views, and nothing else.** What could not be compiled cannot be compiled then, for the same reason. -/
theorem query_retimed (settings : Settings) (d : Definition) (days frequency : UInt32) :
    ({ d with days := days, frequency := frequency } : Definition).query settings =
      (d.query settings).map
        (Query.mapBranches (Condition.retimed (Window.lastDays days) (.atLeast frequency))) := by
  rw [query, query, branches_eq, branches_eq,
    funext (contribution_retimed settings d days frequency), flatten_mapM_map]
  cases (Signal.all.mapM (d.contribution settings)).map List.flatten with
  | error e => rfl
  | ok bs => exact congrArg Except.ok (mapBranches_narrow _ (.any bs)).symm

/-! ## Queries -/

theorem narrow_any (bs : List Condition) :
    d.narrow (.any bs) =
      if AllBlank (d.domains.getD []) then .any bs else .narrowed (.any bs) (domainFilter d) := by
  unfold narrow hasDomains
  by_cases h : AllBlank (d.domains.getD [])
  · rw [if_pos h, populated_eq_false_iff.mpr h]
    rfl
  · rw [if_neg h, if_pos (by simpa using mt populated_eq_false_iff.mp h)]

/-- **The bare branches of a query are those of its signals, in order.** -/
theorem map_bare_branches {q : Query} (h : d.query settings = .ok q) :
    q.branches.map Condition.bare = Signal.all.flatMap
      (d.bareBranches settings (Signal.enteredSegments d)
        (Roster.ofList (d.secondPartySegments.getD []))
        (Roster.ofList (d.thirdPartySegments.getD []))) := by
  obtain ⟨part, hpart, rfl⟩ := query_eq_ok_iff.mp h
  rw [branches_narrow, Query.branches, List.map_flatMap]
  exact congrArg (Signal.all.flatMap ·) (funext fun signal => map_bare_contribution (hpart signal))

end Definition

/-- **The shape of a compiled query.** Its branches are one view of pages, where the definition asks
for views and has content; one view of videos, where it has keywords; one condition for each flag that
is set; then the segments that it asks for. They are narrowed to its domains exactly where it names
any, and there is no view of either kind without content.

The windows are those of the days, and only views and entries have one; the frequency is that of
views alone: a definition with other days and another frequency has the query with these changed. -/
theorem query_shape :
    (∀ (settings : Settings) (d : Definition) (q : Query), d.query settings = .ok q →
      (∃ entered second third, d.AsksFor entered second third ∧
        q.branches.map Condition.bare =
          [Signal.pageView, .videoView, .linkClick, .engagedTime, .engagedCompletion, .slotClick,
            .segmentEntry, .secondParty, .thirdParty].flatMap
              (d.bareBranches settings entered second third)) ∧
      q = (if Definition.AllBlank (d.domains.getD []) then .any q.branches
        else .narrowed (.any q.branches) (domainFilter d)) ∧
      (d.LacksContent → ∀ b ∈ q.branches,
        b.eventName? ≠ some "Pageview" ∧ b.eventName? ≠ some "videoViews")) ∧
    ∀ (settings : Settings) (d : Definition) (days frequency : UInt32),
      ({ d with days := days, frequency := frequency } : Definition).query settings =
        (d.query settings).map
          (Query.mapBranches (Condition.retimed (Window.lastDays days) (.atLeast frequency))) := by
  refine ⟨?_, Definition.query_retimed⟩
  intro settings d q hq
  have hbranches := Definition.map_bare_branches hq
  refine ⟨⟨_, _, _, d.asksFor, hbranches⟩, ?_, ?_⟩
  · obtain ⟨part, -, rfl⟩ := Definition.query_eq_ok_iff.mp hq
    rw [Definition.branches_narrow]
    exact Definition.narrow_any _
  · intro hcontent b hb
    have hbare : b.bare ∈ q.branches.map Condition.bare := List.mem_map_of_mem hb
    rw [hbranches] at hbare
    obtain ⟨signal, -, hsignal⟩ := List.mem_flatMap.mp hbare
    rw [← Condition.eventName?_bare]
    exact Definition.no_view_of_lacksContent hcontent hsignal

/-- A definition with blank, repeated and unreadable entries in its lists. -/
def pottery : Definition :=
  { name := "Pottery", keywords := some ["pottery", " "], taxonomy := some [" "],
    segments := some ["12", "x", " 7 "],
    secondPartySegments := some [⟨"acme", "s-2"⟩, ⟨"acme", "s-1"⟩, ⟨"acme", "s-2"⟩, ⟨" ", "s-3"⟩],
    domains := some ["crafts.example"], frequency := 2, days := 30, linkClick := true,
    engagedTime := true }

/-- One with nothing to view. -/
def kiln : Definition :=
  { name := "Kiln", keywords := some [" "], segments := some ["5"], days := 7 }

theorem pottery_and_kiln_shapes :
    (∃ q entered second third, pottery.query {} = .ok q ∧ pottery.AsksFor entered second third ∧
      q.branches.map Condition.bare =
        [.event (some ⟨30⟩) "Pageview" (.atLeast 2) (.any []),
          .event (some ⟨30⟩) "videoViews" (.atLeast 2) (.any []),
          .event none "LinkClick" (.atLeast 1) (.any []),
          .engagedTime ⟨.greaterThan, .int 30⟩ (.any [])] ++
        (entered.map (.hasEntered (some ⟨30⟩)) ++
          (second.map (fun p => .inSecondPartySegment p.provider p.segment) ++
            third.map fun p => .inThirdPartySegment p.provider p.segment)) ∧
      q = .narrowed (.any q.branches) (domainFilter pottery)) ∧
    ∃ q, kiln.query {} = .ok q ∧ kiln.LacksContent ∧ q = .any q.branches ∧
      ∀ b ∈ q.branches, b.eventName? ≠ some "Pageview" ∧ b.eventName? ≠ some "videoViews" := by
  constructor
  · have hok : (pottery.query {}).isOk = true := by decide +kernel
    obtain ⟨q, hq⟩ := exists_of_isOk hok
    obtain ⟨⟨entered, second, third, hasks, hbranches⟩, hnarrow, -⟩ := query_shape.1 {} pottery q hq
    have hcontent : ¬ pottery.LacksContent := by decide +kernel
    have hkeywords : ¬ Definition.AllBlank (pottery.keywords.getD []) := by decide +kernel
    have hdomains : ¬ Definition.AllBlank (pottery.domains.getD []) := by decide +kernel
    rw [if_neg hdomains] at hnarrow
    refine ⟨q, entered, second, third, hq, hasks, ?_, hnarrow⟩
    have hpage : pottery.bareBranches {} entered second third .pageView =
        [.event (some ⟨30⟩) "Pageview" (.atLeast 2) (.any [])] := by
      rw [Definition.bareBranches, one, if_pos ⟨rfl, hcontent⟩]
      rfl
    have hvideo : pottery.bareBranches {} entered second third .videoView =
        [.event (some ⟨30⟩) "videoViews" (.atLeast 2) (.any [])] := by
      rw [Definition.bareBranches, one, if_pos ⟨rfl, hkeywords⟩]
      rfl
    rw [hbranches, List.flatMap_cons, hpage, List.flatMap_cons, hvideo]
    -- the other signals are decided by their flags alone
    simp [Definition.bareBranches, one, pottery, Definition.window?]
  · have hok : (kiln.query {}).isOk = true := by decide +kernel
    obtain ⟨q, hq⟩ := exists_of_isOk hok
    obtain ⟨-, hnarrow, hviews⟩ := query_shape.1 {} kiln q hq
    have hcontent : kiln.LacksContent := by decide +kernel
    have hdomains : Definition.AllBlank (kiln.domains.getD []) := by decide +kernel
    rw [if_pos hdomains] at hnarrow
    exact ⟨q, hq, hcontent, hnarrow, hviews hcontent⟩

end Audience
