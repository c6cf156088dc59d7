import Audience.Proofs.QueryShape

/-!
# `Audience.Proofs.SignalBranches` — the branches of a query traced back to its signals

Each kind of condition is built by one signal, so the branches of a query can be told apart again: what
a signal has built are the branches of its kind. They stand in groups, in the order of the signals that
the definition uses.

A signal that is used need not have a group. Codes call for their signal before it is known whether one
of them denotes an integer, and a list of partner segments calls for its signal whatever its pairs are;
such a signal is hollow where nothing is left to build a branch of. The signals that a definition uses
are those that contribute exactly where none of them is hollow.

## Contents
- **Signals of conditions.** `Condition.signal?`, and `signal?_of_contribution`.
- **Groups.** `Query.branchesOf`, with `contribution_eq_branchesOf` and `branches_eq_flatMap`.
- **Hollow signals.** `Definition.Hollow`, and `eq_nil_iff_hollow`.
- **Queries.** `signals_contribute_iff`.
-/

namespace Audience

open Number Text

variable {settings : Settings} {d : Definition}

/-! ## Signals of conditions -/

/-- The signal that asks for events of this name. -/
def Signal.ofEvent? : String → Option Signal
  | "Pageview" => some .pageView
  | "videoViews" => some .videoView
  | "LinkClick" => some .linkClick
  | "GamLogSlotClicked" => some .slotClick
  | _ => none

/-- The signal that builds conditions of this kind. -/
def Condition.signal? : Condition → Option Signal
  | .event _ name _ _ => Signal.ofEvent? name
  | .engagedTime _ _ => some .engagedTime
  | .engagedCompletion _ _ => some .engagedCompletion
  | .hasEntered _ _ => some .segmentEntry
  | .inSecondPartySegment _ _ => some .secondParty
  | .inThirdPartySegment _ _ => some .thirdParty

theorem Condition.signal?_bare (c : Condition) : c.bare.signal? = c.signal? := by
  cases c <;> rfl

/-- **A signal contributes conditions of its own kind.** -/
theorem signal?_of_contribution {signal : Signal} {bs : List Condition}
    (h : d.contribution settings signal = .ok bs) : ∀ b ∈ bs, b.signal? = some signal := by
  intro b hb
  have hbare : b.bare ∈ bs.map Condition.bare := List.mem_map_of_mem hb
  rw [Definition.map_bare_contribution h] at hbare
  rw [← Condition.signal?_bare]
  cases signal with
  | pageView | videoView | linkClick | engagedTime | engagedCompletion | slotClick =>
      rw [(mem_one.mp hbare).2]
      rfl
  | segmentEntry | secondParty | thirdParty =>
      obtain ⟨_, -, heq⟩ := List.mem_map.mp hbare
      rw [← heq]
      rfl

/-! ## Groups -/

section Groups

variable {α β : Type}

/-- Parts that are tagged by what they come from are found again by their tags. -/
theorem filter_flatMap_of_tag [DecidableEq α] {tag : β → Option α} {part : α → List β} {as : List α}
    (hnodup : as.Nodup) (htag : ∀ a ∈ as, ∀ b ∈ part a, tag b = some a) {a : α} (ha : a ∈ as) :
    (as.flatMap part).filter (fun b => tag b = some a) = part a := by
  induction as with
  | nil => exact absurd ha (by simp)
  | cons c rest ih =>
      obtain ⟨hc, hrest⟩ := List.nodup_cons.mp hnodup
      have htags : ∀ a ∈ rest, ∀ b ∈ part a, tag b = some a :=
        fun a ha => htag a (List.mem_cons_of_mem c ha)
      rw [List.flatMap_cons, List.filter_append]
      rcases List.mem_cons.mp ha with rfl | hmem
      · -- all of the first part has the tag, and nothing behind it has
        have hfirst : (part a).filter (fun b => tag b = some a) = part a :=
          List.filter_eq_self.mpr fun b hb => by simp [htag a (by simp) b hb]
        have hothers : (rest.flatMap part).filter (fun b => tag b = some a) = [] := by
          rw [List.filter_eq_nil_iff]
          intro b hb
          obtain ⟨a', ha', hb⟩ := List.mem_flatMap.mp hb
          have hne : a' ≠ a := fun heq => hc (heq ▸ ha')
          simp [htags a' ha' b hb, hne]
        rw [hfirst, hothers, List.append_nil]
      · have hne : c ≠ a := fun heq => hc (heq ▸ hmem)
        have hfirst : (part c).filter (fun b => tag b = some a) = [] := by
          rw [List.filter_eq_nil_iff]
          intro b hb
          simp [htag c (by simp) b hb, hne]
        rw [hfirst, List.nil_append, ih hrest htags hmem]

/-- What has no part may be left out. -/
theorem flatMap_filter_of_nil {p : α → Bool} {part : α → List β} {as : List α}
    (h : ∀ a ∈ as, p a = false → part a = []) : (as.filter p).flatMap part = as.flatMap part := by
  induction as with
  | nil => rfl
  | cons a rest ih =>
      have hrest := ih fun b hb => h b (List.mem_cons_of_mem a hb)
      cases hp : p a with
      | true => rw [List.filter_cons_of_pos hp, List.flatMap_cons, List.flatMap_cons, hrest]
      | false =>
          rw [List.filter_cons_of_neg (by simp [hp]), List.flatMap_cons, h a (by simp) hp, hrest,
            List.nil_append]

end Groups

/-- The branches of a query that are of the kind of a signal. -/
def Query.branchesOf (q : Query) (signal : Signal) : List Condition :=
  q.branches.filter fun b => b.signal? = some signal

/-- **What a signal has contributed can be read off the query.** -/
theorem contribution_eq_branchesOf {q : Query} (h : d.query settings = .ok q) (signal : Signal) :
    d.contribution settings signal = .ok (q.branchesOf signal) := by
  obtain ⟨part, hpart, rfl⟩ := Definition.query_eq_ok_iff.mp h
  rw [hpart signal, Query.branchesOf, Definition.branches_narrow, Query.branches,
    filter_flatMap_of_tag (by decide) (fun s _ => signal?_of_contribution (hpart s))
      signal.mem_all]

/-- **The branches stand in the groups of the signals that are used, in their order.** -/
theorem branches_eq_flatMap {q : Query} (h : d.query settings = .ok q) :
    q.branches = d.signals.flatMap q.branchesOf := by
  have hunused : ∀ signal ∈ Signal.all, signal.applies d = false → q.branchesOf signal = [] := by
    intro signal _ happlies
    have hcontribution := contribution_eq_branchesOf h signal
    rw [Definition.contribution_of_not_applies (by simp [happlies])] at hcontribution
    exact (Except.ok.inj hcontribution).symm
  rw [Definition.signals, flatMap_filter_of_nil hunused]
  obtain ⟨part, hpart, hq⟩ := Definition.query_eq_ok_iff.mp h
  have hgroup : q.branchesOf = part := by
    funext signal
    exact Except.ok.inj ((contribution_eq_branchesOf h signal).symm.trans (hpart signal))
  rw [hgroup, hq, Definition.branches_narrow, Query.branches]

/-! ## Hollow signals -/

/-- There is nothing to build a branch of: no code denotes a 64-bit integer, or no partner segment has
both its halves. The other signals build a branch wherever they are used. -/
def Definition.Hollow (d : Definition) : Signal → Prop
  | .segmentEntry => ∀ code ∈ d.segments.getD [], ∀ n,
      SignedDigits (trim code).toList n → fitsInt64 n = false
  | .secondParty => ∀ p ∈ d.secondPartySegments.getD [],
      isBlank p.provider = true ∨ isBlank p.segment = true
  | .thirdParty => ∀ p ∈ d.thirdPartySegments.getD [],
      isBlank p.provider = true ∨ isBlank p.segment = true
  | _ => False

theorem enteredSegments_eq_nil_iff :
    Signal.enteredSegments d = [] ↔ d.Hollow .segmentEntry := by
  rw [List.eq_nil_iff_forall_not_mem]
  constructor
  · intro h code hcode n hdigits
    rw [← Bool.not_eq_true]
    exact fun hfits => h n (mem_enteredSegments_iff.mpr ⟨⟨code, hcode, hdigits⟩, hfits⟩)
  · intro h n hn
    obtain ⟨⟨code, hcode, hdigits⟩, hfits⟩ := mem_enteredSegments_iff.mp hn
    rw [h code hcode n hdigits] at hfits
    exact absurd hfits (by simp)

theorem ofList_partners_eq_nil_iff {ps : List PartnerSegment} :
    Roster.ofList ps = [] ↔ ∀ p ∈ ps, isBlank p.provider = true ∨ isBlank p.segment = true := by
  rw [Roster.ofList_eq_nil_iff]
  refine forall₂_congr fun p _ => ?_
  show (isBlank p.provider || isBlank p.segment) = true ↔ _
  rw [Bool.or_eq_true]

/-- **A signal that is used contributes nothing exactly where it is hollow.** -/
theorem eq_nil_iff_hollow {signal : Signal} (happlies : signal.applies d = true)
    {bs : List Condition} (h : d.contribution settings signal = .ok bs) :
    bs = [] ↔ d.Hollow signal := by
  have hbuilt : ∀ {x : Except MissingContent Condition}, x.map ([·]) = .ok bs → bs ≠ [] := by
    intro x hx
    obtain ⟨b, -, rfl⟩ := map_eq_ok_iff.mp hx
    simp
  cases signal with
  | pageView | videoView =>
      rw [Definition.contribution_of_applies happlies] at h
      cases h
      exact iff_of_false (by simp) not_false
  | linkClick | engagedTime | engagedCompletion | slotClick =>
      rw [Definition.contribution_of_applies happlies] at h
      exact iff_of_false (hbuilt h) not_false
  | segmentEntry =>
      rw [Definition.contribution_segmentEntry] at h
      rw [← Except.ok.inj h, List.map_eq_nil_iff, enteredSegments_eq_nil_iff]
  | secondParty =>
      rw [Definition.contribution_secondParty] at h
      rw [← Except.ok.inj h, List.map_eq_nil_iff, ofList_partners_eq_nil_iff]
      rfl
  | thirdParty =>
      rw [Definition.contribution_thirdParty] at h
      rw [← Except.ok.inj h, List.map_eq_nil_iff, ofList_partners_eq_nil_iff]
      rfl

/-! ## Queries -/

theorem Signal.name_injective : Function.Injective Signal.name := by
  intro a b h
  cases a <;> cases b <;> first | rfl | exact absurd h (by decide)

/-- A definition uses the signals that it names. -/
theorem mem_names_iff {signal : Signal} :
    signal.name ∈ d.signals.map Signal.name ↔ signal.applies d = true := by
  rw [List.mem_map_of_injective Signal.name_injective, Definition.signals, List.mem_filter]
  exact and_iff_right signal.mem_all

/-- A signal has a group in the query exactly where it is named and not hollow. -/
theorem branchesOf_ne_nil_iff {q : Query} (h : d.query settings = .ok q) (signal : Signal) :
    q.branchesOf signal ≠ [] ↔
      signal.name ∈ d.signals.map Signal.name ∧ ¬ d.Hollow signal := by
  have hcontribution := contribution_eq_branchesOf h signal
  rw [mem_names_iff]
  by_cases happlies : signal.applies d = true
  · rw [← eq_nil_iff_hollow happlies hcontribution]
    exact (and_iff_right happlies).symm
  · rw [Definition.contribution_of_not_applies happlies] at hcontribution
    rw [← Except.ok.inj hcontribution]
    exact iff_of_false (fun hne => hne rfl) fun hand => happlies hand.1

/-- **Which signals of a definition contribute to its query.** Each group of branches is what a signal
that is named has built, and the groups stand in the order of the names. A signal contributes exactly
where it is named and not hollow; so the names are those of the signals that contribute exactly where
no signal is named in vain. -/
theorem signals_contribute_iff {q : Query} (h : d.query settings = .ok q) :
    q.branches = d.signals.flatMap q.branchesOf ∧
    (∀ signal ∈ d.signals, signal.build (.ofDefinition settings d) = .ok (q.branchesOf signal)) ∧
    (∀ signal, q.branchesOf signal ≠ [] ↔
      signal.name ∈ d.signals.map Signal.name ∧ ¬ d.Hollow signal) ∧
    ((∀ signal, signal.name ∈ d.signals.map Signal.name ↔ q.branchesOf signal ≠ []) ↔
      ∀ signal, signal.name ∈ d.signals.map Signal.name → ¬ d.Hollow signal) := by
  have hcontributes := branchesOf_ne_nil_iff h
  refine ⟨branches_eq_flatMap h, ?_, hcontributes, ?_⟩
  · intro signal hsignal
    have happlies : signal.applies d = true := (List.mem_filter.mp hsignal).2
    rw [← contribution_eq_branchesOf h signal, Definition.contribution_of_applies happlies]
  · refine forall_congr' fun signal => ?_
    rw [hcontributes]
    exact ⟨fun hiff hnamed => (hiff.mp hnamed).2,
      fun hsound => ⟨fun hnamed => ⟨hnamed, hsound hnamed⟩, And.left⟩⟩

/-- A definition with a partner segment that lacks its provider, and one that is whole. -/
def caravan : Definition :=
  { name := "Caravan", keywords := some ["camping"], segments := some ["12", "x"],
    secondPartySegments := some [⟨"acme", "s-1"⟩], thirdPartySegments := some [⟨"", "auto"⟩] }

theorem caravan_signals :
    ∃ q, caravan.query {} = .ok q ∧
      q.branches = [Signal.pageView, .videoView, .segmentEntry, .secondParty, .thirdParty].flatMap
        q.branchesOf ∧
      q.branchesOf .segmentEntry ≠ [] ∧ q.branchesOf .secondParty ≠ [] ∧
      caravan.Hollow .thirdParty ∧ q.branchesOf .thirdParty = [] := by
  have hok : (caravan.query {}).isOk = true := by decide +kernel
  obtain ⟨q, hq⟩ := exists_of_isOk hok
  obtain ⟨hbranches, -, hcontributes, -⟩ := signals_contribute_iff hq
  have hsignals : caravan.signals =
      [.pageView, .videoView, .segmentEntry, .secondParty, .thirdParty] := by decide +kernel
  have hentry : ¬ caravan.Hollow .segmentEntry := by
    rw [← enteredSegments_eq_nil_iff]
    decide +kernel
  have hsecond : ¬ caravan.Hollow .secondParty := by
    rw [Definition.Hollow]
    decide +kernel
  have hthird : caravan.Hollow .thirdParty := by
    rw [Definition.Hollow]
    decide +kernel
  refine ⟨q, hq, hsignals ▸ hbranches, (hcontributes .segmentEntry).mpr ⟨?_, hentry⟩,
    (hcontributes .secondParty).mpr ⟨?_, hsecond⟩, hthird, ?_⟩
  · rw [hsignals]
    decide
  · rw [hsignals]
    decide
  · by_contra hne
    exact ((hcontributes .thirdParty).mp hne).2 hthird

/-- A definition whose one partner segment lacks its provider. -/
def anonymousPartner : Definition :=
  { name := "Partners", thirdPartySegments := some [⟨"", "auto"⟩] }

/-- **A signal may be named and contribute nothing.** -/
theorem anonymousPartner_named_in_vain :
    ∃ q, anonymousPartner.query {} = .ok q ∧
      ¬ ∀ signal, signal.name ∈ anonymousPartner.signals.map Signal.name ↔
        q.branchesOf signal ≠ [] := by
  have hempty : ((anonymousPartner.query {}).toOption.map (·.branches.isEmpty)) = some true := by
    decide +kernel
  have hnamed : Signal.thirdParty.name ∈ anonymousPartner.signals.map Signal.name := by
    decide +kernel
  obtain ⟨q, hq, hbranches⟩ := Option.map_eq_some_iff.mp hempty
  refine ⟨q, eq_ok_of_toOption hq, fun hiff => (hiff .thirdParty).mp hnamed ?_⟩
  rw [Query.branchesOf, List.isEmpty_iff.mp hbranches]
  rfl

end Audience
