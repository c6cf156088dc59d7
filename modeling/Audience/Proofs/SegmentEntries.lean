import Audience.Proofs.CodeSpelling
import Audience.Proofs.Contribution
import Audience.Proofs.DecimalText

/-!
# `Audience.Proofs.SegmentEntries` — the segments that a query asks for

Only one kind of signal asks for entered segments, so the branches that do stand together in a query.
There is one for each integer that some segment code denotes, however often and in whatever spelling.

## Contents
- **Branches.** `EntersExactly`, and `query_entersExactly`.
- **Codes.** `mem_enteredSegments_iff`.
- **Documents.** `Definition.given?`, and `segments_of_given`.
- **Segment codes.** `segment_codes_reach_query`.
-/

namespace Audience

open Json Number Text

variable {settings : Settings} {d : Definition}

/-! ## Branches -/

/-- The condition asks for an entered segment. -/
def Condition.AsksEntry : Condition → Prop
  | .hasEntered _ _ => True
  | _ => False

/-- The branches that ask for entered segments stand together and share the window, and their segments
ascend strictly and are those with the property. -/
def EntersExactly (branches : List Condition) (window : Option Window) (P : Int → Prop) : Prop :=
  ∃ (before : List Condition) (segments : List Int) (after : List Condition),
    branches = before ++ segments.map (.hasEntered window) ++ after ∧
    (∀ c ∈ before ++ after, ¬ c.AsksEntry) ∧ segments.Pairwise (· < ·) ∧ ∀ n, n ∈ segments ↔ P n

theorem EntersExactly.congr {branches : List Condition} {window : Option Window}
    {P Q : Int → Prop} (h : EntersExactly branches window P) (hPQ : ∀ n, P n ↔ Q n) :
    EntersExactly branches window Q := by
  obtain ⟨before, segments, after, hbranches, hothers, hascending, hmem⟩ := h
  exact ⟨before, segments, after, hbranches, hothers, hascending, fun n => (hmem n).trans (hPQ n)⟩

theorem Window.lastDays_eq_none_iff {days : UInt32} : lastDays days = none ↔ days = 0 := by
  unfold lastDays
  split <;> simp [*]

/-- No other signal asks for an entered segment. -/
theorem not_asksEntry_of_contribution {signal : Signal} (hsignal : signal ≠ .segmentEntry)
    {bs : List Condition} (h : d.contribution settings signal = .ok bs) :
    ∀ b ∈ bs, ¬ b.AsksEntry := by
  unfold Definition.contribution at h
  split at h
  · cases signal with
    | pageView | videoView =>
        -- both build one event
        cases h
        exact List.forall_mem_singleton.mpr id
    | linkClick | slotClick =>
        refine forall_mem_of_map h fun c hc => ?_
        simp only [Signal.buildLinkClick, Signal.buildSlotClick] at hc
        split at hc
        · cases hc
        · cases hc
          exact id
    | engagedTime | engagedCompletion =>
        refine forall_mem_of_map h fun c hc => ?_
        simp only [Signal.buildEngagedTime, Signal.buildEngagedCompletion] at hc
        split at hc
        · cases hc
          exact id
        · cases hc
    | segmentEntry => exact absurd rfl hsignal
    | secondParty | thirdParty =>
        cases h
        intro b hb
        obtain ⟨p, -, rfl⟩ := List.mem_map.mp hb
        exact id
  · cases h
    exact fun b hb => absurd hb (by simp)

theorem Signal.pairwise_lt_enteredSegments (d : Definition) :
    (enteredSegments d).Pairwise (· < ·) := by
  have hascending : Roster.Ascending (enteredSegments d) := Roster.ascending_sorted _
  exact List.Pairwise.imp (fun {a b} hab => of_decide_eq_true hab) hascending

/-- **A query asks for the entered segments of its definition.** -/
theorem query_entersExactly {q : Query} (h : d.query settings = .ok q) :
    EntersExactly q.branches (Window.lastDays d.days) (· ∈ Signal.enteredSegments d) := by
  obtain ⟨part, hpart, rfl⟩ := Definition.query_eq_ok_iff.mp h
  have hentries := hpart .segmentEntry
  rw [Definition.contribution_segmentEntry] at hentries
  have hothers : ∀ signals : List Signal, .segmentEntry ∉ signals →
      ∀ c ∈ signals.flatMap part, ¬ c.AsksEntry := by
    intro signals hsignals c hc
    obtain ⟨signal, hsignal, hc⟩ := List.mem_flatMap.mp hc
    have hne : signal ≠ .segmentEntry := fun heq => hsignals (heq ▸ hsignal)
    exact not_asksEntry_of_contribution hne (hpart signal) c hc
  -- the branches of the other signals come before and after those of the codes
  obtain ⟨before, after, hall, hbefore, hafter⟩ : ∃ before after,
      Signal.all = before ++ .segmentEntry :: after ∧ .segmentEntry ∉ before ∧
        .segmentEntry ∉ after :=
    ⟨[.pageView, .videoView, .linkClick, .engagedTime, .engagedCompletion, .slotClick],
      [.secondParty, .thirdParty], rfl, by decide, by decide⟩
  refine ⟨before.flatMap part, Signal.enteredSegments d, after.flatMap part, ?_, ?_, ?_,
    fun _ => Iff.rfl⟩
  · rw [Definition.branches_narrow, Query.branches, hall, List.flatMap_append, List.flatMap_cons,
      ← Except.ok.inj hentries, List.append_assoc]
  · intro c hc
    rcases List.mem_append.mp hc with hc | hc
    · exact hothers before hbefore c hc
    · exact hothers after hafter c hc
  · exact Signal.pairwise_lt_enteredSegments d

/-! ## Codes -/

/-- **The entered segments are the 64-bit integers that codes denote.** -/
theorem mem_enteredSegments_iff {n : Int} :
    n ∈ Signal.enteredSegments d ↔
      (∃ code ∈ d.segments.getD [], SignedDigits (trim code).toList n) ∧ fitsInt64 n = true := by
  rw [Signal.enteredSegments, Roster.mem_sorted, List.mem_filterMap, ← exists_and_right]
  refine exists_congr fun code => ?_
  rw [readInt64?_eq_some_iff, toList_trim, and_assoc]

/-- The digits of an integer are read as the integer. -/
theorem readInt64?_trim_intText {n : Int} (h : fitsInt64 n = true) :
    readInt64? (trimChars (intText n).toList) = some n := by
  rw [intText, String.toList_ofList, trimChars_intChars, readInt64?_eq_some_iff]
  exact ⟨signedDigits_intChars n, h⟩

/-- Integers that are codes are the entered segments. -/
theorem mem_enteredSegments_of_integers {ns : List Int} (hns : ∀ n ∈ ns, fitsInt64 n = true)
    (h : d.segments = some (ns.map intText)) {n : Int} : n ∈ Signal.enteredSegments d ↔ n ∈ ns := by
  have hread : ns.filterMap (fun m => readInt64? (trimChars (intText m).toList)) = ns := by
    rw [List.filterMap_congr fun m hm => readInt64?_trim_intText (hns m hm), List.filterMap_some]
  rw [Signal.enteredSegments, Roster.mem_sorted, h, Option.getD_some, List.filterMap_map]
  exact iff_of_eq (congrArg (n ∈ ·) hread)

/-! ## Documents -/

namespace Definition

/-- What a JSON value gives for the field of a key: a member of the object, or an item of the list at
the place of the field. -/
def given? (key : String) : Json → Option Json
  | .object members => Keyed.lookup? key members
  | .list items => Keyed.lookup? key (fieldKeys.zip items)
  | _ => none

/-- A definition is read from the members of its value. -/
theorem exists_members_of_ofJson {v : Json} (h : ofJson v = .ok d) :
    ∃ ms, ofMembers ms = d ∧ ∀ key, Keyed.lookup? key ms = given? key v := by
  obtain ⟨ms, hms, rfl⟩ := map_eq_ok_iff.mp h
  refine ⟨ms, rfl, fun key => ?_⟩
  cases v with
  | object members => rw [Schema.eq_of_members_object hms, given?]
  | list items =>
      rw [Schema.eq_of_members_list hms]
      rfl
  | _ => cases hms

/-- The segments of a definition that gives them as integers. -/
theorem segments_of_given {v : Json} (h : ofJson v = .ok d) {ns : List Int}
    (hns : ∀ n ∈ ns, fitsInt64 n = true) (hgiven : given? "segments" v = some (.list (ns.map .int))) :
    d.segments = some (ns.map intText) := by
  obtain ⟨ms, rfl, hlookup⟩ := exists_members_of_ofJson h
  have hcodes : List.Forall₂ SameCode (ns.map .int) ((ns.map intText).map .text) := by
    rw [List.map_map, List.forall₂_map_left_iff, List.forall₂_map_right_iff, List.forall₂_same]
    exact fun n hn => .respelt (hns n hn)
  have hdecode : Fields.segments.decode (.list (ns.map .int)) = .ok (some (ns.map intText)) := by
    show ((ns.map Json.int).mapM Codec.code.decode).map some = _
    rw [mapM_decode_congr hcodes]
    exact congrArg (Except.map some) (Codec.mapM_decode_map_encode Codec.code _)
  show Fields.segments.get ms = _
  have hfound : Keyed.lookup? Fields.segments.key ms = some (.list (ns.map .int)) :=
    (hlookup "segments").trans hgiven
  simp only [RecordField.get, hfound, hdecode]
  rfl

end Definition

/-! ## Segment codes -/

/-- **Segment codes reach the query with no loss and no duplication.** Where a definition compiles, the
branches that ask for entered segments stand together, share the window and ascend strictly, and they
are those of the 64-bit integers that codes denote. Respelling an integer code as its digits leaves
the definition as it is, and so integers that are given as segments are the segments asked for. -/
theorem segment_codes_reach_query :
    (∀ (settings : Settings) (d : Definition) (q : Query), d.query settings = .ok q →
      (Window.lastDays d.days = none ↔ d.days = 0) ∧
      EntersExactly q.branches (Window.lastDays d.days) fun n =>
        (∃ code ∈ d.segments.getD [], SignedDigits (trim code).toList n) ∧ fitsInt64 n = true) ∧
    (∀ v w : Json, Definition.Respelt v w → Definition.ofJson v = Definition.ofJson w) ∧
    ∀ (settings : Settings) (v : Json) (d : Definition) (q : Query) (ns : List Int),
      Definition.ofJson v = .ok d → d.query settings = .ok q →
      Definition.given? "segments" v = some (.list (ns.map .int)) →
      (∀ n ∈ ns, fitsInt64 n = true) →
      EntersExactly q.branches (Window.lastDays d.days) (· ∈ ns) := by
  refine ⟨?_, fun v w => Definition.ofJson_congr, ?_⟩
  · intro settings d q hq
    exact ⟨Window.lastDays_eq_none_iff,
      (query_entersExactly hq).congr fun n => mem_enteredSegments_iff⟩
  · intro settings v d q ns hd hq hgiven hns
    have hsegments := Definition.segments_of_given hd hns hgiven
    exact (query_entersExactly hq).congr fun n => mem_enteredSegments_of_integers hns hsegments

/-- A definition with segments in many spellings. -/
def marathon : Definition :=
  { name := "Marathon", segments := some ["7", " +007 ", "-0", "x", "", "9223372036854775808"],
    days := 30 }

/-- Another one in JSON, with integers for codes. -/
def relay : Json :=
  .object [("code", .int 40), ("name", .text "Relay"), ("segments", .list [.int 7, .int (-3), .int 7])]

/-- The same with some of the integers respelt. -/
def relayRespelt : Json :=
  .object [("code", .text "40"), ("name", .text "Relay"),
    ("segments", .list [.int 7, .text "-3", .int 7])]

theorem marathon_and_relay_enter :
    (∃ q, marathon.query {} = .ok q ∧
      EntersExactly q.branches (some ⟨30⟩) fun n =>
        (∃ code ∈ marathon.segments.getD [], SignedDigits (trim code).toList n) ∧
          fitsInt64 n = true) ∧
    (Definition.Respelt relay relayRespelt ∧
      Definition.ofJson relay = Definition.ofJson relayRespelt) ∧
    Definition.given? "segments" relay = some (.list ([7, -3, 7].map .int)) ∧
    (∀ n ∈ [7, -3, 7], fitsInt64 n = true) ∧
    ∃ d q, Definition.ofJson relay = .ok d ∧ d.query {} = .ok q ∧
      EntersExactly q.branches (Window.lastDays d.days) (· ∈ [7, -3, 7]) := by
  obtain ⟨henters, hrespelt, hintegers⟩ := segment_codes_reach_query
  refine ⟨?_, ?_, rfl, by decide, ?_⟩
  · have hok : (marathon.query {}).isOk = true := by decide +kernel
    obtain ⟨q, hq⟩ := exists_of_isOk hok
    exact ⟨q, hq, (henters {} marathon q hq).2⟩
  · have hcode : SameCode (.int 40) (.text "40") := .respelt rfl
    have hsegment : SameCode (.int (-3)) (.text "-3") := .respelt rfl
    have hrelay : Definition.Respelt relay relayRespelt :=
      .object (.cons (.code (by decide) hcode) (.cons (.same _) (.cons
        (.codes (by decide) (.cons (.same _) (.cons hsegment (.cons (.same _) .nil)))) .nil)))
    exact ⟨hrelay, hrespelt relay relayRespelt hrelay⟩
  · have hd : Definition.ofJson relay =
        .ok { name := "Relay", code := some "40", segments := some ["7", "-3", "7"] } := by rfl
    have hok : (Definition.query {}
        { name := "Relay", code := some "40", segments := some ["7", "-3", "7"] }).isOk = true := by
      decide +kernel
    obtain ⟨q, hq⟩ := exists_of_isOk hok
    exact ⟨_, q, hd, hq, hintegers {} relay _ q [7, -3, 7] hd hq rfl (by decide)⟩

end Audience
