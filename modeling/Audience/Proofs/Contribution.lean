import Audience.Compile
import Audience.Proofs.BlankText
import Audience.Proofs.RosterSet
import Mathlib.Data.List.Forall2

/-!
# `Audience.Proofs.Contribution` — a query is put together from what each signal contributes

The compiler selects the signals that apply and builds them in turn. Read signal by signal, a signal
contributes its branches where it applies and nothing where it does not; a query is the concatenation
of nine contributions, and it fails when one of them does. Statements about queries are proved one
contribution at a time, so each contribution gets its equation here, in terms of the rosters of the
definition and of no raw list.

## Contents
- **Runs over lists.** When running a failing function over a list succeeds, and with what, and which
  element refuses it.
- **Signals.** `populated_eq`, `contextId`, `contextLeaves_eq`: which signals are populated.
- **Sources.** `slugs_ofDefinition` and `slugs_congr`.
- **Contributions.** `Definition.contribution`, with one equation for each signal that is no plain flag.
- **Queries.** `query_eq_ok_iff`, and `query_congr` for two definitions.
-/

namespace Audience

open Text

/-! ## Runs over lists -/

section Runs

variable {α β ε : Type}

theorem exists_of_isOk {x : Except ε α} (h : x.isOk = true) : ∃ a, x = .ok a := by
  cases x with
  | error e => cases h
  | ok a => exact ⟨a, rfl⟩

theorem eq_ok_of_toOption {x : Except ε α} {a : α} (h : x.toOption = some a) : x = .ok a := by
  cases x with
  | error e => cases h
  | ok b => exact congrArg Except.ok (Option.some.inj h)

theorem map_eq_ok_iff {x : Except ε α} {f : α → β} {b : β} :
    x.map f = .ok b ↔ ∃ a, x = .ok a ∧ f a = b := by
  cases x <;> simp [Except.map]

theorem map_eq_error_iff {x : Except ε α} {f : α → β} {e : ε} :
    x.map f = .error e ↔ x = .error e := by
  cases x <;> simp [Except.map]

theorem bind_eq_ok_iff {x : Except ε α} {f : α → Except ε β} {b : β} :
    x >>= f = .ok b ↔ ∃ a, x = .ok a ∧ f a = .ok b := by
  cases x <;> simp [bind, Except.bind]

/-- What holds of the one branch that is built holds of all. -/
theorem forall_mem_of_map {P : α → Prop} {x : Except ε α} {bs : List α}
    (h : x.map ([·]) = .ok bs) (hP : ∀ a, x = .ok a → P a) : ∀ b ∈ bs, P b := by
  intro b hb
  obtain ⟨a, ha, rfl⟩ := map_eq_ok_iff.mp h
  obtain rfl := List.mem_singleton.mp hb
  exact hP b ha

/-- A run succeeds with one result for each element. -/
theorem mapM_eq_ok_iff {f : α → Except ε β} {as : List α} {bs : List β} :
    as.mapM f = .ok bs ↔ List.Forall₂ (fun a b => f a = .ok b) as bs := by
  induction as generalizing bs with
  | nil =>
      rw [List.mapM_nil, List.forall₂_nil_left_iff]
      exact ⟨fun h => (Except.ok.inj h).symm, fun h => congrArg Except.ok h.symm⟩
  | cons a rest ih =>
      rw [List.mapM_cons, List.forall₂_cons_left_iff]
      constructor
      · intro h
        cases ha : f a with
        | error e =>
            rw [ha] at h
            cases h
        | ok b =>
            cases hrest : rest.mapM f with
            | error e =>
                rw [ha, hrest] at h
                cases h
            | ok cs =>
                rw [ha, hrest] at h
                cases h
                exact ⟨b, cs, rfl, ih.mp hrest, rfl⟩
      · rintro ⟨b, cs, hb, hcs, rfl⟩
        rw [hb, ih.mpr hcs]
        rfl

/-- A run that is refused was refused by the first element that refuses. -/
theorem exists_first_of_mapM_eq_error {f : α → Except ε β} {as : List α} {e : ε}
    (h : as.mapM f = .error e) : ∃ before a after, as = before ++ a :: after ∧
      (∀ b ∈ before, ∃ v, f b = .ok v) ∧ f a = .error e := by
  induction as with
  | nil => cases h
  | cons a rest ih =>
      rw [List.mapM_cons] at h
      cases ha : f a with
      | error e' =>
          rw [ha] at h
          cases h
          exact ⟨[], a, rest, rfl, by simp, ha⟩
      | ok b =>
          cases hrest : rest.mapM f with
          | error e' =>
              rw [ha, hrest] at h
              cases h
              obtain ⟨before, c, after, rfl, hbefore, hc⟩ := ih hrest
              refine ⟨a :: before, c, after, rfl, ?_, hc⟩
              intro d hd
              rcases List.mem_cons.mp hd with rfl | hd
              · exact ⟨b, ha⟩
              · exact hbefore d hd
          | ok cs =>
              rw [ha, hrest] at h
              cases h

/-- **The first element that refuses decides the error of a run.** -/
theorem mapM_eq_error_iff {f : α → Except ε β} {as : List α} {e : ε} :
    as.mapM f = .error e ↔ ∃ before a after, as = before ++ a :: after ∧
      (∀ b ∈ before, ∃ v, f b = .ok v) ∧ f a = .error e := by
  constructor
  · exact exists_first_of_mapM_eq_error
  · rintro ⟨before, a, after, rfl, hbefore, ha⟩
    induction before with
    | nil =>
        rw [List.nil_append, List.mapM_cons, ha]
        rfl
    | cons b before ih =>
        obtain ⟨⟨v, hv⟩, hbefore⟩ := List.forall_mem_cons.mp hbefore
        rw [List.cons_append, List.mapM_cons, hv, ih hbefore]
        rfl

/-- Runs agree when they agree on the elements. -/
theorem mapM_congr {f g : α → Except ε β} {as : List α} (h : ∀ a ∈ as, f a = g a) :
    as.mapM f = as.mapM g := by
  induction as with
  | nil => rfl
  | cons a rest ih =>
      obtain ⟨ha, hrest⟩ := List.forall_mem_cons.mp h
      rw [List.mapM_cons, List.mapM_cons, ha, ih hrest]

/-- A run succeeds exactly where no element is refused. -/
theorem exists_mapM_eq_ok_iff {f : α → Except ε β} {as : List α} :
    (∃ bs, as.mapM f = .ok bs) ↔ ∀ a ∈ as, ∃ b, f a = .ok b := by
  constructor
  · rintro ⟨bs, hbs⟩ a ha
    obtain ⟨i, hi, rfl⟩ := List.getElem_of_mem ha
    have hall := mapM_eq_ok_iff.mp hbs
    have hlt : i < bs.length := hall.length_eq ▸ hi
    exact ⟨bs[i], hall.get hi hlt⟩
  · intro h
    cases hrun : as.mapM f with
    | ok bs => exact ⟨bs, rfl⟩
    | error e =>
        obtain ⟨before, a, after, rfl, -, ha⟩ := exists_first_of_mapM_eq_error hrun
        obtain ⟨b, hb⟩ := h a (by simp)
        rw [hb] at ha
        cases ha

/-- Running over a list and joining what comes out begins with the head. -/
theorem flatten_mapM_cons (f : α → Except ε (List β)) (a : α) (rest : List α) :
    ((a :: rest).mapM f).map List.flatten =
      (f a).bind fun bs => ((rest.mapM f).map List.flatten).map (bs ++ ·) := by
  rw [List.mapM_cons]
  cases f a with
  | error e => rfl
  | ok bs => cases rest.mapM f <;> rfl

/-- Running over the selected elements is running over all of them, with nothing in place of those
that were not selected. -/
theorem flatten_mapM_filter (p : α → Bool) (f : α → Except ε (List β)) (as : List α) :
    ((as.filter p).mapM f).map List.flatten =
      (as.mapM fun a => if p a then f a else .ok []).map List.flatten := by
  induction as with
  | nil => rfl
  | cons a rest ih =>
      rw [flatten_mapM_cons, ← ih]
      by_cases hp : p a = true
      · rw [List.filter_cons_of_pos hp, flatten_mapM_cons, if_pos hp]
      · rw [List.filter_cons_of_neg hp, if_neg hp]
        cases (rest.filter p).mapM f <;> rfl

/-- A run succeeds when every element does. -/
theorem flatten_mapM_eq_ok_iff {f : α → Except ε (List β)} {as : List α} {bs : List β} :
    (as.mapM f).map List.flatten = .ok bs ↔
      ∃ part : α → List β, (∀ a ∈ as, f a = .ok (part a)) ∧ bs = as.flatMap part := by
  constructor
  · intro h
    -- no element of a run that succeeds comes to the second case
    refine ⟨fun a => match f a with | .ok cs => cs | .error _ => [], ?_⟩
    induction as generalizing bs with
    | nil =>
        cases h
        exact ⟨by simp, rfl⟩
    | cons a rest ih =>
        rw [flatten_mapM_cons] at h
        cases hf : f a with
        | error e =>
            rw [hf] at h
            cases h
        | ok cs =>
            rw [hf] at h
            cases hrest : (rest.mapM f).map List.flatten with
            | error e =>
                rw [hrest] at h
                cases h
            | ok ds =>
                rw [hrest] at h
                cases h
                obtain ⟨hall, hds⟩ := ih hrest
                refine ⟨?_, ?_⟩
                · intro b hb
                  rcases List.mem_cons.mp hb with rfl | hb
                  · simp only [hf]
                  · exact hall b hb
                · rw [List.flatMap_cons, ← hds]
                  simp only [hf]
  · rintro ⟨part, hpart, rfl⟩
    induction as with
    | nil => rfl
    | cons a rest ih =>
        rw [flatten_mapM_cons, hpart a (by simp), ih fun b hb => hpart b (by simp [hb])]
        rfl

end Runs

variable {settings : Settings} {d : Definition}

namespace Definition

/-! ## Populated signals -/

theorem populated_iff {entries : Option (List String)} :
    populated entries = true ↔ ∃ s ∈ entries.getD [], isBlank s = false := by
  simp [populated]

/-- A list is populated when its roster has an entry. -/
theorem populated_eq (entries : Option (List String)) :
    populated entries = !(Roster.ofList (entries.getD [])).isEmpty := by
  cases h : populated entries with
  | true =>
      obtain ⟨s, hs, hblank⟩ := populated_iff.mp h
      have hmem : s ∈ Roster.ofList (entries.getD []) := Roster.mem_ofList.mpr ⟨hs, hblank⟩
      simp [List.ne_nil_of_mem hmem]
  | false =>
      have hnil : Roster.ofList (entries.getD []) = [] := by
        rw [Roster.ofList_eq_nil_iff]
        intro s hs
        by_contra hblank
        rw [Bool.not_eq_true] at hblank
        rw [populated_iff.mpr ⟨s, hs, hblank⟩] at h
        exact absurd h (by simp)
      simp [hnil]

/-- The context segment without the blanks around it; no context segment counts as a blank one. -/
def contextId (d : Definition) : String :=
  trim (d.obsidianId.getD "")

theorem hasObsidianId_eq (d : Definition) : d.hasObsidianId = !isBlank d.contextId := by
  rw [contextId, isBlank_trim, hasObsidianId]
  cases d.obsidianId <;> rfl

theorem contextLeaves_eq (d : Definition) :
    contextLeaves d = if isBlank d.contextId then []
      else [.compare "properties.context.sg" (.listContains [upper d.contextId])] := by
  rw [contextId, isBlank_trim, contextLeaves]
  cases d.obsidianId <;> rfl

end Definition

/-! ## Sources -/

/-- The slugs of keywords depend on the keywords that are not blank alone. -/
theorem Keyword.mem_slugs {keywords : List String} {slug : String} :
    slug ∈ slugs keywords ↔
      (∃ k ∈ keywords, isBlank k = false ∧ slug ∈ slugsOf k) ∧ isBlank slug = false := by
  rw [slugs, Roster.mem_ofList, List.mem_flatMap]
  refine and_congr_left fun _ => exists_congr fun k => and_congr_right fun _ => ?_
  constructor
  · intro h
    refine ⟨?_, h⟩
    by_contra hblank
    rw [Bool.not_eq_false] at hblank
    rw [slugsOf_of_isBlank hblank] at h
    exact absurd h (by simp)
  · exact And.right

theorem Keyword.includes_slugs {keywords keywords' : List String}
    (h : Roster.Includes keywords keywords') :
    Roster.Includes (slugs keywords) (slugs keywords') := by
  intro slug hblank hslug
  obtain ⟨⟨k, hk, hkblank, hmem⟩, -⟩ := mem_slugs.mp hslug
  exact mem_slugs.mpr ⟨⟨k, h k hkblank hk, hkblank, hmem⟩, hblank⟩

@[simp] theorem Source.definition_ofDefinition (settings : Settings) (d : Definition) :
    (ofDefinition settings d).definition = d := rfl

/-- Without a keyword there are no slugs, so testing for keywords first changes nothing. -/
theorem Source.slugs_ofDefinition (settings : Settings) (d : Definition) :
    (ofDefinition settings d).slugs = Keyword.slugs (d.keywords.getD []) := by
  rw [ofDefinition]
  split
  · rfl
  · -- a slug comes from a keyword that is not blank
    rename_i h
    symm
    rw [List.eq_nil_iff_forall_not_mem]
    intro slug hslug
    obtain ⟨⟨k, hk, hblank, -⟩, -⟩ := Keyword.mem_slugs.mp hslug
    exact h (Definition.populated_iff.mpr ⟨k, hk, hblank⟩)

namespace Signal

theorem mem_all (signal : Signal) : signal ∈ all := by
  cases signal <;> decide

/-- The entered segments are the integers that codes denote. -/
theorem mem_enteredSegments {n : Int} :
    n ∈ enteredSegments d ↔ ∃ code ∈ d.segments.getD [], isBlank code = false ∧
      Number.readInt64? (trimChars code.toList) = some n := by
  rw [enteredSegments, Roster.mem_sorted, List.mem_filterMap]
  refine exists_congr fun code => and_congr_right fun _ => ?_
  constructor
  · intro h
    refine ⟨?_, h⟩
    by_contra hblank
    rw [Bool.not_eq_false] at hblank
    rw [Number.readInt64?_of_isBlank hblank] at h
    exact absurd h (by simp)
  · exact And.right

end Signal

/-! ## Contributions -/

namespace Definition

/-- What a signal contributes to the query: its branches where it applies, and none elsewhere. -/
def contribution (settings : Settings) (d : Definition) (signal : Signal) :
    Except MissingContent (List Condition) :=
  if signal.applies d then signal.build (.ofDefinition settings d) else .ok []

theorem contribution_of_applies {signal : Signal} (h : signal.applies d = true) :
    d.contribution settings signal = signal.build (.ofDefinition settings d) :=
  if_pos h

theorem contribution_of_not_applies {signal : Signal} (h : ¬ signal.applies d = true) :
    d.contribution settings signal = .ok [] :=
  if_neg h

theorem contribution_congr {d' : Definition} {signal : Signal}
    (happlies : signal.applies d = signal.applies d')
    (hbuild : signal.build (.ofDefinition settings d) = signal.build (.ofDefinition settings d')) :
    d.contribution settings signal = d'.contribution settings signal := by
  rw [contribution, contribution, happlies, hbuild]

theorem contribution_pageView (settings : Settings) (d : Definition) :
    d.contribution settings .pageView =
      .ok (if d.pageView && d.hasContent then [Signal.buildPageView (.ofDefinition settings d)]
        else []) := by
  have happlies : Signal.applies d .pageView = (d.pageView && d.hasContent) := rfl
  rw [contribution, happlies]
  split <;> rfl

/-- Keywords are content, so a video view applies where there are keywords. -/
theorem contribution_videoView (settings : Settings) (d : Definition) :
    d.contribution settings .videoView =
      .ok (if d.pageView && d.hasKeywords then [Signal.buildVideoView (.ofDefinition settings d)]
        else []) := by
  have happlies : Signal.applies d .videoView = (d.pageView && d.hasKeywords) := by
    show (d.pageView && d.hasContent && d.hasKeywords) = _
    unfold hasContent
    cases d.hasKeywords <;> simp
  rw [contribution, happlies]
  split <;> rfl

/-- A signal of segment codes contributes its branches whether it applies or not: where it does not,
there is no code that denotes an integer. -/
theorem contribution_segmentEntry (settings : Settings) (d : Definition) :
    d.contribution settings .segmentEntry =
      .ok ((Signal.enteredSegments d).map (.hasEntered (Window.lastDays d.days))) := by
  rw [contribution]
  split
  · rfl
  · rename_i h
    have hnil : Signal.enteredSegments d = [] := by
      rw [List.eq_nil_iff_forall_not_mem]
      intro n hn
      -- a code that denotes an integer is not blank, and then the signal does apply
      obtain ⟨code, hcode, hblank, -⟩ := Signal.mem_enteredSegments.mp hn
      exact h (populated_iff.mpr ⟨code, hcode, hblank⟩)
    rw [hnil]
    rfl

theorem contribution_secondParty (settings : Settings) (d : Definition) :
    d.contribution settings .secondParty =
      .ok ((Roster.ofList (d.secondPartySegments.getD [])).map fun p =>
        .inSecondPartySegment p.provider p.segment) := by
  rw [contribution]
  split
  · rfl
  · rename_i h
    have hnil : d.secondPartySegments.getD [] = [] := by simpa [Signal.applies] using h
    rw [hnil]
    rfl

theorem contribution_thirdParty (settings : Settings) (d : Definition) :
    d.contribution settings .thirdParty =
      .ok ((Roster.ofList (d.thirdPartySegments.getD [])).map fun p =>
        .inThirdPartySegment p.provider p.segment) := by
  rw [contribution]
  split
  · rfl
  · rename_i h
    have hnil : d.thirdPartySegments.getD [] = [] := by simpa [Signal.applies] using h
    rw [hnil]
    rfl

/-! ## Queries -/

/-- **The branches of a definition are what its signals contribute, in order.** -/
theorem branches_eq (settings : Settings) (d : Definition) :
    d.branches settings = (Signal.all.mapM (d.contribution settings)).map List.flatten :=
  flatten_mapM_filter (Signal.applies d) (Signal.build (.ofDefinition settings d)) Signal.all

theorem branches_narrow (d : Definition) (q : Query) : (d.narrow q).branches = q.branches := by
  unfold narrow
  split <;> rfl

/-- A query compiles when every signal can make its contribution. -/
theorem query_eq_ok_iff {q : Query} :
    d.query settings = .ok q ↔ ∃ part : Signal → List Condition,
      (∀ signal, d.contribution settings signal = .ok (part signal)) ∧
        q = d.narrow (.any (Signal.all.flatMap part)) := by
  rw [query, branches_eq]
  constructor
  · intro h
    obtain ⟨bs, hrun, rfl⟩ := map_eq_ok_iff.mp h
    obtain ⟨part, hpart, rfl⟩ := flatten_mapM_eq_ok_iff.mp hrun
    exact ⟨part, fun signal => hpart signal signal.mem_all, rfl⟩
  · rintro ⟨part, hpart, rfl⟩
    have hrun := flatten_mapM_eq_ok_iff.mpr
      ⟨part, fun signal (_ : signal ∈ Signal.all) => hpart signal, rfl⟩
    exact map_eq_ok_iff.mpr ⟨_, hrun, rfl⟩

/-- Definitions whose signals contribute the same, and that narrow alike, have one query. -/
theorem query_congr {d' : Definition}
    (hcontribution : ∀ signal, d.contribution settings signal = d'.contribution settings signal)
    (hnarrow : d.narrow = d'.narrow) : d.query settings = d'.query settings := by
  rw [query, query, branches_eq, branches_eq, funext hcontribution, hnarrow]

end Definition

end Audience
