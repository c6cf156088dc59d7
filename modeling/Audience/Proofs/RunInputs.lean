import Audience.Program
import Audience.Proofs.KeyedOrder

/-!
# `Audience.Proofs.RunInputs` — what a run works on

A run takes its data path from the first place that names one: the option, the variable of the exact
name, the configuration. The market of the option replaces the configured one and nothing else in the
settings. Of the definitions that are loaded, those of the workspace are kept in their order, or all of
them where no workspace is given. Each rule is a relation of its own here, with the one solution that
the run computes.

## Contents
- **Settings.** `IsDataPath` and `AreSettings`, which `effective` solves.
- **Definitions.** `Keeps`, which `kept` solves.
- **Inputs.** `Reaches`: how far a request gets in front of its results, with `reaches_iff`.
-/

namespace Audience.Program

open CommandLine

variable {env : List (String × String)} {fs : FileSystem} {request : Invocation} {options : Options}
  {c : Configuration} {settings : Settings} {dataPath workspace : Option String}
  {ds ks : List Definition}

/-! ## Settings -/

/-- The data path of a run. -/
inductive IsDataPath (env : List (String × String)) (options : Options) (c : Configuration) :
    Option String → Prop
  /-- The option comes first. -/
  | ofOption {path : String} (hoption : options.dataPath = some path) :
      IsDataPath env options c (some path)
  /-- Without it, the variable of this very name decides; of two, the first. -/
  | ofVariable {path : String} {before after : List (String × String)}
      (hoption : options.dataPath = none)
      (henv : env = before ++ ("COHORT_COMPILER__DATA__DATA_PATH", path) :: after)
      (hbefore : "COHORT_COMPILER__DATA__DATA_PATH" ∉ Keyed.keys before) :
      IsDataPath env options c (some path)
  /-- Without either, the configuration does. -/
  | ofConfiguration (hoption : options.dataPath = none)
      (henv : "COHORT_COMPILER__DATA__DATA_PATH" ∉ Keyed.keys env) :
      IsDataPath env options c c.dataPath

theorem IsDataPath.eq_effective (h : IsDataPath env options c dataPath) :
    dataPath = (effective env options c).dataPath := by
  cases h with
  | ofOption hoption =>
      rw [effective, hoption]
      rfl
  | ofVariable hoption henv hbefore =>
      rw [effective, hoption, dataPathVariable,
        Keyed.lookup?_eq_some_iff.mpr ⟨_, _, henv, hbefore⟩]
      rfl
  | ofConfiguration hoption henv =>
      rw [effective, hoption, dataPathVariable, Keyed.lookup?_of_notMem henv]
      rfl

theorem isDataPath_effective (env : List (String × String)) (options : Options)
    (c : Configuration) : IsDataPath env options c (effective env options c).dataPath := by
  cases hoption : options.dataPath with
  | some path =>
      have hpath : (effective env options c).dataPath = some path := by
        rw [effective, hoption]
        rfl
      rw [hpath]
      exact .ofOption hoption
  | none =>
      cases hvariable : Keyed.lookup? dataPathVariable env with
      | some path =>
          have hpath : (effective env options c).dataPath = some path := by
            rw [effective, hoption, hvariable]
            rfl
          obtain ⟨before, after, henv, hbefore⟩ := Keyed.lookup?_eq_some_iff.mp hvariable
          rw [hpath]
          exact .ofVariable hoption henv hbefore
      | none =>
          have hpath : (effective env options c).dataPath = c.dataPath := by
            rw [effective, hoption, hvariable]
            rfl
          rw [hpath]
          refine .ofConfiguration hoption fun hmem => ?_
          obtain ⟨path, hpath⟩ := Keyed.mem_keys_iff.mp hmem
          exact absurd (hvariable.symm.trans hpath) (by simp)

/-- **There is one data path.** -/
theorem isDataPath_iff :
    IsDataPath env options c dataPath ↔ dataPath = (effective env options c).dataPath := by
  refine ⟨IsDataPath.eq_effective, ?_⟩
  rintro rfl
  exact isDataPath_effective env options c

/-- The settings of a run: the market of the option stands in for the configured one. -/
structure AreSettings (options : Options) (c : Configuration) (settings : Settings) : Prop where
  market : settings.defaultMarket = options.market.getD c.compiler.defaultMarket
  others : { settings with defaultMarket := c.compiler.defaultMarket } = c.compiler

/-- **The settings are determined**: the market by the first part, all else by the second. -/
theorem areSettings_iff :
    AreSettings options c settings ↔ settings = (effective env options c).compiler := by
  have heffective : (effective env options c).compiler =
      { c.compiler with defaultMarket := options.market.getD c.compiler.defaultMarket } := by
    unfold effective
    cases options.market <;> rfl
  rw [heffective]
  constructor
  · rintro ⟨hmarket, hothers⟩
    rw [← hmarket, ← hothers]
  · rintro rfl
    exact ⟨rfl, rfl⟩

/-! ## Definitions -/

/-- The definitions of a workspace among others, in their order; without a workspace, all of them. -/
inductive Keeps (workspace : Option String) : List Definition → List Definition → Prop
  | nil : Keeps workspace [] []
  /-- The definition is bound to the workspace, if there is one. -/
  | kept {d : Definition} {ds ks : List Definition}
      (hd : ∀ name, workspace = some name → d.workspaceId = some name) (hrest : Keeps workspace ds ks) :
      Keeps workspace (d :: ds) (d :: ks)
  /-- The definition is bound to another workspace or to none. -/
  | dropped {d : Definition} {ds ks : List Definition} {name : String}
      (hworkspace : workspace = some name) (hd : d.workspaceId ≠ some name)
      (hrest : Keeps workspace ds ks) : Keeps workspace (d :: ds) ks

theorem kept_cons_of (d : Definition) (ds : List Definition)
    (hd : ∀ name, options.workspace = some name → d.workspaceId = some name) :
    kept options (d :: ds) = d :: kept options ds := by
  unfold kept
  cases hworkspace : options.workspace with
  | none => rfl
  | some name => simp [Definition.inWorkspace, hd name hworkspace]

theorem kept_cons_of_other (d : Definition) (ds : List Definition) {name : String}
    (hworkspace : options.workspace = some name) (hd : d.workspaceId ≠ some name) :
    kept options (d :: ds) = kept options ds := by
  simp [kept, hworkspace, Definition.inWorkspace, hd]

theorem keeps_kept (options : Options) (ds : List Definition) :
    Keeps options.workspace ds (kept options ds) := by
  induction ds with
  | nil =>
      have hnil : kept options [] = [] := by
        unfold kept
        split <;> rfl
      rw [hnil]
      exact .nil
  | cons d ds ih =>
      by_cases hd : ∀ name, options.workspace = some name → d.workspaceId = some name
      · rw [kept_cons_of d ds hd]
        exact .kept hd ih
      · simp only [not_forall, exists_prop] at hd
        obtain ⟨name, hworkspace, hd⟩ := hd
        rw [kept_cons_of_other d ds hworkspace hd]
        exact .dropped hworkspace hd ih

/-- **There is one list of definitions to keep.** -/
theorem keeps_iff : Keeps options.workspace ds ks ↔ ks = kept options ds := by
  constructor
  · intro h
    -- on the list that is kept from
    induction h with
    | nil =>
        unfold kept
        split <;> rfl
    | kept hd _ ih => rw [kept_cons_of _ _ hd, ih]
    | dropped hworkspace hd _ ih => rw [kept_cons_of_other _ _ hworkspace hd, ih]
  · rintro rfl
    exact keeps_kept options ds

/-! ## Inputs -/

/-- The request gets as far as its results: the configuration and the definitions can be loaded, and
these are the settings and the kept definitions. -/
inductive Reaches (env : List (String × String)) (fs : FileSystem) (request : Invocation) :
    Settings → List Definition → Prop
  | intro {c : Configuration} {dataPath : Option String} {settings : Settings}
      {ds ks : List Definition} (hload : Environment.load env = .ok c)
      (hpath : IsDataPath env request.options c dataPath)
      (hfiles : Library.load fs request.file dataPath = .ok ds)
      (hsettings : AreSettings request.options c settings)
      (hkeeps : Keeps request.options.workspace ds ks) : Reaches env fs request settings ks

theorem reaches_iff : Reaches env fs request settings ks ↔
    ∃ c ds, Environment.load env = .ok c ∧
      Library.load fs request.file (effective env request.options c).dataPath = .ok ds ∧
      settings = (effective env request.options c).compiler ∧ ks = kept request.options ds := by
  constructor
  · rintro ⟨hload, hpath, hfiles, hsettings, hkeeps⟩
    rw [isDataPath_iff.mp hpath] at hfiles
    exact ⟨_, _, hload, hfiles, areSettings_iff.mp hsettings, keeps_iff.mp hkeeps⟩
  · rintro ⟨c, ds, hload, hfiles, rfl, rfl⟩
    exact ⟨hload, isDataPath_effective env request.options c, hfiles, areSettings_iff.mpr rfl,
      keeps_kept request.options ds⟩

end Audience.Program
