import Audience.Proofs.SameSignals
import Audience.Proofs.Widening

/-!
# `Audience.Proofs.Pooling` — a query does not depend on how merges are arranged

Merging keeps a list sorted or takes it over as it stands, so the lists of a parent do depend on the
order, the number and the nesting of the merges that made it. The signals do not: whatever the
arrangement, a list ends up with the entries of the target and of all sources that took part. The
reference is the pool of the target and its sources, in which every list is simply followed by those of
the sources. Two arrangements of the same sources have pools with the same entries, and so one query.

## Contents
- **Pools.** `pool` for one list, `Definition.pooled` for a definition.
- **One merge.** `SameSignals.merge`: merging two pools is a pool of both.
- **Merges in turn.** `SameSignals.mergeAll` and `sameSignals_mergeAll`.
- **Arrangements.** `merge_arrangement_irrelevant`.
-/

namespace Audience.Definition

open Roster (SameEntries)

/-! ## Pools -/

section Lists

variable {α : Type}

/-- The entries of one list of the target, and those of the sources behind them. -/
def pool (list : Definition → Option (List α)) (target : Definition) (sources : List Definition) :
    List α :=
  (target :: sources).flatMap fun d => (list d).getD []

theorem mem_pool {list : Definition → Option (List α)} {target : Definition}
    {sources : List Definition} {a : α} :
    a ∈ pool list target sources ↔ ∃ d ∈ target :: sources, a ∈ (list d).getD [] :=
  List.mem_flatMap

theorem pool_nil (list : Definition → Option (List α)) (d : Definition) :
    pool list d [] = (list d).getD [] := by
  rw [pool, List.flatMap_singleton]

/-- Two pools together are one pool, in which the second target is another source. -/
theorem pool_append (list : Definition → Option (List α)) (target other : Definition)
    (sources others : List Definition) :
    pool list target (sources ++ other :: others) =
      pool list target sources ++ pool list other others := by
  rw [pool, ← List.cons_append, List.flatMap_append]
  rfl

/-- A pool reads the sources as a set. -/
theorem mem_pool_congr {list : Definition → Option (List α)} {target : Definition}
    {sources sources' : List Definition} (h : ∀ s, s ∈ sources ↔ s ∈ sources') (a : α) :
    a ∈ pool list target sources ↔ a ∈ pool list target sources' := by
  rw [mem_pool, mem_pool]
  refine exists_congr fun d => and_congr_left fun _ => ?_
  rw [List.mem_cons, List.mem_cons, h]

variable [Roster.Entry α]

/-- Merging a list that stands for a pool into another such list gives one that stands for both. -/
theorem sameEntries_mergeField_pool {list : Definition → Option (List α)}
    {d e target other : Definition} {sources others : List Definition}
    (h : SameEntries ((list d).getD []) (pool list target sources))
    (h' : SameEntries ((list e).getD []) (pool list other others)) :
    SameEntries ((mergeField (list d) (list e)).getD [])
      (pool list target (sources ++ other :: others)) := by
  rw [pool_append]
  exact (sameEntries_mergeField _ _).trans (h.append h')

end Lists

/-- The target with each list that a merge adds to followed by those of the sources, blanks,
repetitions and all. -/
def pooled (target : Definition) (sources : List Definition) : Definition :=
  { target with
    segments := some (pool segments target sources)
    accurateSegments := some (pool accurateSegments target sources)
    volumeSegments := some (pool volumeSegments target sources)
    obsidianSegments := some (pool obsidianSegments target sources)
    keywords := some (pool keywords target sources)
    taxonomy := some (pool taxonomy target sources)
    urls := some (pool urls target sources)
    secondPartySegments := some (pool secondPartySegments target sources)
    thirdPartySegments := some (pool thirdPartySegments target sources) }

/-- Without a source there is nothing to pool. -/
theorem sameSignals_pooled_nil (d : Definition) : SameSignals d (d.pooled []) := by
  have hlist : ∀ {α : Type} [Roster.Entry α] (list : Definition → Option (List α)),
      SameEntries ((list d).getD []) (pool list d []) := by
    intro α _ list
    rw [pool_nil]
    exact SameEntries.refl _
  exact
    { SameSignals.refl d with
      keywords := hlist keywords
      taxonomy := hlist taxonomy
      urls := hlist urls
      segments := hlist segments
      secondPartySegments := hlist secondPartySegments
      thirdPartySegments := hlist thirdPartySegments }

/-- Pools of the same sources have the same signals. -/
theorem sameSignals_pooled_congr (target : Definition) {sources sources' : List Definition}
    (h : ∀ s, s ∈ sources ↔ s ∈ sources') :
    SameSignals (target.pooled sources) (target.pooled sources') :=
  { SameSignals.refl target with
    keywords := fun a _ => mem_pool_congr h a
    taxonomy := fun a _ => mem_pool_congr h a
    urls := fun a _ => mem_pool_congr h a
    segments := fun a _ => mem_pool_congr h a
    secondPartySegments := fun a _ => mem_pool_congr h a
    thirdPartySegments := fun a _ => mem_pool_congr h a }

/-! ## One merge -/

variable {d e target other : Definition} {sources others : List Definition}

/-- **One merge pools.** Where two definitions have the signals of two pools, the first with the second
merged in has the signals of the pool of both. -/
theorem SameSignals.merge (h : SameSignals d (target.pooled sources))
    (h' : SameSignals e (other.pooled others)) :
    SameSignals (d.merge e) (target.pooled (sources ++ other :: others)) :=
  -- a merge leaves counts, flags, codes and domains alone, and so does pooling
  { h with
    keywords := sameEntries_mergeField_pool h.keywords h'.keywords
    taxonomy := sameEntries_mergeField_pool h.taxonomy h'.taxonomy
    urls := sameEntries_mergeField_pool h.urls h'.urls
    segments := sameEntries_mergeField_pool h.segments h'.segments
    secondPartySegments :=
      sameEntries_mergeField_pool h.secondPartySegments h'.secondPartySegments
    thirdPartySegments := sameEntries_mergeField_pool h.thirdPartySegments h'.thirdPartySegments }

/-! ## Merges in turn -/

/-- **Merges in turn pool**: the sources that are merged next join those of the pool. -/
theorem SameSignals.mergeAll (h : SameSignals d (target.pooled sources)) (next : List Definition) :
    SameSignals (d.mergeAll next) (target.pooled (sources ++ next)) := by
  -- the source at the head of the rest moves to the end of the pool
  induction next generalizing d sources with
  | nil =>
      rw [List.append_nil]
      exact h
  | cons source rest ih =>
      have hstep : SameSignals (d.merge source) (target.pooled (sources ++ [source])) :=
        h.merge (sameSignals_pooled_nil source)
      rw [List.append_cons]
      exact ih hstep

theorem sameSignals_mergeAll (target : Definition) (sources : List Definition) :
    SameSignals (target.mergeAll sources) (target.pooled sources) :=
  (sameSignals_pooled_nil target).mergeAll sources

/-- A source into which others were merged before brings all of them. -/
theorem sameSignals_merge_mergeAll (target first : Definition) (rest : List Definition) :
    SameSignals (target.merge (first.mergeAll rest)) (target.pooled (first :: rest)) :=
  (sameSignals_pooled_nil target).merge (sameSignals_mergeAll first rest)

/-! ## Arrangements -/

/-- **The query of a parent does not depend on how its children are merged.** Sources may be merged in
any order and any number of times, and they may be merged into each other first: the parent has one
query, or fails with one error. -/
theorem merge_arrangement_irrelevant :
    (∀ (settings : Settings) (target : Definition) (sources sources' : List Definition),
      (∀ s, s ∈ sources ↔ s ∈ sources') →
        (target.mergeAll sources).query settings = (target.mergeAll sources').query settings) ∧
    ∀ (settings : Settings) (target first second : Definition),
      (target.merge (first.merge second)).query settings =
        ((target.merge first).merge second).query settings := by
  refine ⟨?_, ?_⟩
  · intro settings target sources sources' h
    calc (target.mergeAll sources).query settings
        = (target.pooled sources).query settings :=
          (sameSignals_mergeAll target sources).query settings
      _ = (target.pooled sources').query settings :=
          (sameSignals_pooled_congr target h).query settings
      _ = (target.mergeAll sources').query settings :=
          ((sameSignals_mergeAll target sources').query settings).symm
  · intro settings target first second
    have hnested := sameSignals_merge_mergeAll target first [second]
    have hturn := sameSignals_mergeAll target [first, second]
    exact (hnested.query settings).trans (hturn.query settings).symm

/-- A parent without lists, and two children; a list of the first one does not ascend. -/
def sport : Definition :=
  { name := "Sport", linkClick := true, slotClick := true }

def golf : Definition :=
  { name := "Golf", keywords := some ["putter", "golf", " "], segments := some ["7"] }

def tennis : Definition :=
  { name := "Tennis", segments := some ["12", "x", "7"], urls := some ["/tennis/"] }

/-- The lists of the parent depend on the arrangement, and its query does not. -/
theorem sport_arrangements_agree :
    (∀ s, s ∈ [golf, tennis] ↔ s ∈ [tennis, golf, tennis, golf]) ∧
    sport.mergeAll [golf, tennis] ≠ sport.mergeAll [tennis, golf, tennis, golf] ∧
    (sport.mergeAll [golf, tennis]).query {} =
      (sport.mergeAll [tennis, golf, tennis, golf]).query {} := by
  have hsame : ∀ s, s ∈ [golf, tennis] ↔ s ∈ [tennis, golf, tennis, golf] := by
    intro s
    simp only [List.mem_cons, List.not_mem_nil, or_false]
    tauto
  exact ⟨hsame, by decide +kernel, merge_arrangement_irrelevant.1 {} sport _ _ hsame⟩

end Audience.Definition
