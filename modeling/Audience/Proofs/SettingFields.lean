import Audience.Proofs.SettingNames

/-!
# `Audience.Proofs.SettingFields` — every field is loaded from its own variable

A configuration has seven fields, and each of them has a variable. A variable puts its value at the path
that its name denotes, and on the way it makes sections in the place of whatever is not one. So variables
disturb one another where one path leads through the other, where there are positions in a path, and
where two names differ in their case only.

Names of letters, digits and underscores have no positions in them. If none of them is the name of a
section, and none goes on behind the name of a field, then a variable changes the field of its own name
and no other. Every field therefore has what its own variable converts to, or its default where there is
no such variable. A variable that does not convert is an error; it is never passed over.

## Contents
- **Paths of keys.** `Node.IsSection`, `exists_put?_keys` and `sectionOf_insert`.
- **Fields.** `SettingVariable`, and `settingVariables` with all seven of them.
- **Environments.** `IsPlainName`, `PlainNames` and `valueOf?`.
- **One variable.** `Holds`, what is at a field, `Misses`, and `holds_withVariable`.
- **All variables.** `holds_foldlM` and `exists_assembled`.
- **Loading.** `valueIn?` and `Gives`, what an environment has for its fields; `load_congr` and
  `load_fieldwise`.
-/

namespace Audience.Environment

open Text

/-! ## Paths of keys -/

/-- The node is a section, or nothing is there yet. -/
def Node.IsSection : Node → Prop
  | .nothing | .members _ => True
  | .scalar _ | .items _ => False

variable {old new root added : Node}

/-- The fields of a section are under their keys. -/
theorem member_of_isSection (h : root.IsSection) (key : String) (position : Nat) :
    member root key position = .ok (Keyed.lookup? key root.memberNodes) := by
  cases root with
  | nothing | members _ => rfl
  | scalar _ | items _ => exact absurd h id

/-- Every path of keys has a place. -/
theorem exists_put?_keys (keys : List String) (added old : Node) :
    ∃ new, Node.put? (keys.map .key) added old = some new := by
  induction keys generalizing old with
  | nil => exact ⟨added, rfl⟩
  | cons key keys ih =>
      obtain ⟨inner, hinner⟩ := ih (sectionOf old key)
      exact ⟨_, put?_key_eq_some_iff.mpr ⟨inner, hinner, rfl⟩⟩

theorem sectionOf_insert (key part : String) (inner : Node) (nodes : List (String × Node)) :
    sectionOf (.members (Keyed.insert key inner nodes)) part =
      if part = key then inner else sectionOf (.members nodes) part := by
  unfold sectionOf
  by_cases hpart : part = key
  · rw [if_pos hpart, hpart]
    show (Keyed.lookup? key (Keyed.insert key inner nodes)).getD .nothing = inner
    rw [Keyed.lookup?_insert_self]
    rfl
  · rw [if_neg hpart]
    show (Keyed.lookup? part (Keyed.insert key inner nodes)).getD .nothing = _
    rw [Keyed.lookup?_insert_of_ne hpart]
    rfl

/-! ## Fields -/

/-- A field of the configuration, and the variable that it is read from. -/
structure SettingVariable where
  name : String
  /-- The section of the field, and its key there. -/
  part : String
  key : String
  /-- The values of the variable are taken apart at their commas. -/
  isList : Bool
  /-- The name leads to the field. -/
  leads : target? name = some ([.key part, .key key], isList)
  Value : Type
  [decEq : DecidableEq Value]
  convert : Node → Option Value
  default : Value
  /-- The field in a configuration. -/
  value : Configuration → Value

attribute [instance] SettingVariable.decEq

namespace SettingVariable

def linkClickDestinations : SettingVariable :=
  ⟨"COHORT_COMPILER__COMPILER__LINK_CLICK_DESTINATIONS", "compiler", "link_click_destinations",
   true, by decide +kernel, List String, Node.asTexts?, ({} : Settings).linkClickDestinations,
   fun c => c.compiler.linkClickDestinations⟩

def engagedTimeSeconds : SettingVariable :=
  ⟨"COHORT_COMPILER__COMPILER__ENGAGED_TIME_SECONDS", "compiler", "engaged_time_seconds",
   false, by decide +kernel, UInt32, Node.asCount?, ({} : Settings).engagedTimeSeconds,
   fun c => c.compiler.engagedTimeSeconds⟩

def engagedCompletionRatio : SettingVariable :=
  ⟨"COHORT_COMPILER__COMPILER__ENGAGED_COMPLETION_RATIO", "compiler", "engaged_completion_ratio",
   false, by decide +kernel, Number.Binary64, Node.asRatio?, ({} : Settings).engagedCompletionRatio,
   fun c => c.compiler.engagedCompletionRatio⟩

def slotTargetingKey : SettingVariable :=
  ⟨"COHORT_COMPILER__COMPILER__SLOT_TARGETING_KEY", "compiler", "slot_targeting_key",
   false, by decide +kernel, String, Node.asText?, ({} : Settings).slotTargetingKey,
   fun c => c.compiler.slotTargetingKey⟩

def defaultTags : SettingVariable :=
  ⟨"COHORT_COMPILER__COMPILER__DEFAULT_TAGS", "compiler", "default_tags",
   true, by decide +kernel, List String, Node.asTexts?, ({} : Settings).defaultTags,
   fun c => c.compiler.defaultTags⟩

def defaultMarket : SettingVariable :=
  ⟨"COHORT_COMPILER__COMPILER__DEFAULT_MARKET", "compiler", "default_market",
   false, by decide +kernel, String, Node.asText?, ({} : Settings).defaultMarket,
   fun c => c.compiler.defaultMarket⟩

def dataPath : SettingVariable :=
  ⟨"COHORT_COMPILER__DATA__DATA_PATH", "data", "data_path",
   false, by decide +kernel, Option String, Node.asOptionalText?, ({} : Configuration).dataPath,
   fun c => c.dataPath⟩

end SettingVariable

/-- All fields of the configuration. -/
def settingVariables : List SettingVariable :=
  [.linkClickDestinations, .engagedTimeSeconds, .engagedCompletionRatio, .slotTargetingKey,
   .defaultTags, .defaultMarket, .dataPath]

theorem forall_settingVariables {P : SettingVariable → Prop} :
    (∀ x ∈ settingVariables, P x) ↔
      P .linkClickDestinations ∧ P .engagedTimeSeconds ∧ P .engagedCompletionRatio ∧
        P .slotTargetingKey ∧ P .defaultTags ∧ P .defaultMarket ∧ P .dataPath := by
  simp [settingVariables]

/-- The names of the two sections. -/
def sectionNames : List String :=
  ["COHORT_COMPILER__COMPILER", "COHORT_COMPILER__DATA"]

namespace SettingVariable

/-- What a value of the variable is for the field, where it converts to the type of the field. -/
def read (x : SettingVariable) (s : String) : Option x.Value :=
  x.convert (.ofText x.isList s)

variable {x : SettingVariable}

theorem isPlain (hx : x ∈ settingVariables) : IsPlain x.name := by
  have hall : ∀ x ∈ settingVariables, IsPlain x.name := by decide +kernel
  exact hall x hx

/-- The name of a field is the text of its section and its key. -/
theorem lower_name (hx : x ∈ settingVariables) : lower x.name = nameText [x.part, x.key] := by
  have hleads : target? x.name = some ([x.part, x.key].map .key, x.isList) := x.leads
  exact lower_of_target? (isPlain hx) hleads

end SettingVariable

/-! ## Environments -/

/-- A plain name that is not the name of a section and does not go on behind the name of a field. -/
@[mk_iff]
structure IsPlainName (name : String) : Prop where
  chars : IsPlain name
  not_section : ∀ s ∈ sectionNames, lower name ≠ lower s
  not_behind : ∀ x ∈ settingVariables, ¬ Extends x.name name

/-- An environment of plain names, no two of which differ in their case only. -/
@[mk_iff]
structure PlainNames (env : List (String × String)) : Prop where
  plain : ∀ v ∈ env, IsPlainName v.1
  distinct : (env.map fun v => lower v.1).Nodup

instance : DecidablePred IsPlainName := fun name =>
  decidable_of_iff' _ (isPlainName_iff name)

instance : DecidablePred PlainNames := fun env =>
  decidable_of_iff' _ (plainNames_iff env)

/-- The value of the variable of this name, in any case. -/
def valueOf? (name : String) (env : List (String × String)) : Option String :=
  (env.find? fun v => lower v.1 = lower name).map Prod.snd

/-! ## One variable -/

variable {v : String × String}

/-- A plain name has a place, if it leads anywhere. -/
theorem exists_withVariable (h : IsPlain v.1) (old : Node) : ∃ new, withVariable old v = .ok new := by
  cases htarget : target? v.1 with
  | none => exact ⟨old, withVariable_of_none htarget⟩
  | some target =>
      obtain ⟨path, isList⟩ := target
      obtain ⟨key, keys, rfl, -, -⟩ := exists_keys_of_target? h htarget
      obtain ⟨new, hnew⟩ := exists_put?_keys (key :: keys) (.ofText isList v.2) old
      exact ⟨new, withVariable_of_some htarget hnew⟩

namespace SettingVariable

variable {x : SettingVariable} {found : Option Node}

/-- What is at the field in a configuration: its section is one, and this is under its key there. -/
structure Holds (x : SettingVariable) (root : Node) (found : Option Node) : Prop where
  isSection : (sectionOf root x.part).IsSection
  lookup : Keyed.lookup? x.key (sectionOf root x.part).memberNodes = found

theorem holds_empty (x : SettingVariable) : x.Holds (.members []) none :=
  ⟨trivial, rfl⟩

/-- The keys lead neither to the section of the field nor through the field. -/
def Misses (x : SettingVariable) (key : String) (keys : List String) : Prop :=
  key = x.part → ∃ next more, keys = next :: more ∧ next ≠ x.key

/-- **A plain name misses every field but its own.** -/
theorem misses_of_target? {path : Path} {isList : Bool} (hx : x ∈ settingVariables)
    (hv : IsPlainName v.1) (htarget : target? v.1 = some (path, isList))
    (hname : lower v.1 ≠ lower x.name) :
    ∃ key keys, path = (key :: keys).map .key ∧ x.Misses key keys := by
  obtain ⟨key, keys, hpath, hlower, hkeys⟩ := exists_keys_of_target? hv.chars htarget
  refine ⟨key, keys, hpath, ?_⟩
  rintro rfl
  cases keys with
  | nil =>
      -- the name would be that of the section
      have hsections : ∀ x ∈ settingVariables, ∃ s ∈ sectionNames, nameText [x.part] = lower s := by
        decide +kernel
      obtain ⟨s, hs, hsection⟩ := hsections x hx
      exact absurd (hlower.trans hsection) (hv.not_section s hs)
  | cons next more =>
      refine ⟨next, more, rfl, ?_⟩
      rintro rfl
      cases more with
      | nil => exact hname (hlower.trans (lower_name hx).symm)
      | cons further others =>
          -- the name would go on behind that of the field
          apply hv.not_behind x hx
          apply extends_of_lower_eq (lower_name hx) hlower (List.cons_ne_nil further others)
          intro k hk
          exact hkeys k (List.mem_cons_of_mem _ (List.mem_cons_of_mem _ hk))

/-- A field stays as it is where a path of keys misses it. -/
theorem Holds.put?_of_misses {key : String} {keys : List String} (hold : x.Holds old found)
    (hmiss : x.Misses key keys) (h : Node.put? ((key :: keys).map .key) added old = some new) :
    x.Holds new found := by
  obtain ⟨inner, hinner, rfl⟩ := put?_key_eq_some_iff.mp h
  by_cases hpart : x.part = key
  · obtain ⟨next, more, rfl, hnext⟩ := hmiss hpart.symm
    obtain ⟨innermost, -, rfl⟩ := put?_key_eq_some_iff.mp hinner
    constructor
    · rw [sectionOf_insert, if_pos hpart]
      trivial
    · rw [sectionOf_insert, if_pos hpart, ← hpart]
      show Keyed.lookup? x.key (Keyed.insert next innermost _) = found
      rw [Keyed.lookup?_insert_of_ne hnext.symm]
      exact hold.lookup
  · have hsame : sectionOf (.members (Keyed.insert key inner old.memberNodes)) x.part =
        sectionOf old x.part := by
      rw [sectionOf_insert, if_neg hpart]
      rfl
    exact ⟨hsame ▸ hold.isSection, hsame ▸ hold.lookup⟩

/-- The field has what is put at its place. -/
theorem holds_put? (h : Node.put? [.key x.part, .key x.key] added old = some new) :
    x.Holds new (some added) := by
  obtain ⟨inner, hinner, rfl⟩ := put?_key_eq_some_iff.mp h
  obtain ⟨innermost, hinnermost, rfl⟩ := put?_key_eq_some_iff.mp hinner
  obtain rfl : added = innermost := Option.some.inj hinnermost
  constructor
  · rw [sectionOf_insert, if_pos rfl]
    trivial
  · rw [sectionOf_insert, if_pos rfl]
    exact Keyed.lookup?_insert_self x.key added _

/-- **One variable** changes the field of its own name, and no other. -/
theorem holds_withVariable (hx : x ∈ settingVariables) (hv : IsPlainName v.1)
    (hold : x.Holds old found) (h : withVariable old v = .ok new) :
    x.Holds new (if lower v.1 = lower x.name then some (.ofText x.isList v.2) else found) := by
  by_cases hname : lower v.1 = lower x.name
  · have htarget : target? v.1 = some ([.key x.part, .key x.key], x.isList) := by
      rw [← x.leads, target?, target?, pathText?, pathText?, String.ofList_injective hname]
    obtain ⟨next, hnext⟩ := exists_put?_keys [x.part, x.key] (.ofText x.isList v.2) old
    rw [withVariable_of_some htarget hnext] at h
    cases h
    rw [if_pos hname]
    exact holds_put? hnext
  · rw [if_neg hname]
    cases htarget : target? v.1 with
    | none =>
        rw [withVariable_of_none htarget] at h
        cases h
        exact hold
    | some target =>
        obtain ⟨path, isList⟩ := target
        obtain ⟨key, keys, rfl, hmiss⟩ := misses_of_target? hx hv htarget hname
        obtain ⟨next, hnext⟩ := exists_put?_keys (key :: keys) (.ofText isList v.2) old
        rw [withVariable_of_some htarget hnext] at h
        cases h
        exact hold.put?_of_misses hmiss hnext

end SettingVariable

/-! ## All variables -/

variable {env : List (String × String)} {x : SettingVariable} {found : Option Node}

theorem valueOf?_cons (name : String) (v : String × String) (rest : List (String × String)) :
    valueOf? name (v :: rest) = if lower v.1 = lower name then some v.2 else valueOf? name rest := by
  unfold valueOf?
  rw [List.find?_cons]
  by_cases hname : lower v.1 = lower name
  · rw [if_pos hname, decide_eq_true hname]
    rfl
  · rw [if_neg hname, decide_eq_false hname]

theorem valueOf?_eq_none (name : String) (h : lower name ∉ env.map fun v => lower v.1) :
    valueOf? name env = none := by
  induction env with
  | nil => rfl
  | cons v rest ih =>
      rw [List.map_cons, List.mem_cons, not_or] at h
      rw [valueOf?_cons, if_neg (Ne.symm h.1)]
      exact ih h.2

theorem PlainNames.of_cons {rest : List (String × String)} (h : PlainNames (v :: rest)) :
    IsPlainName v.1 ∧ (lower v.1 ∉ rest.map fun w => lower w.1) ∧ PlainNames rest := by
  obtain ⟨hv, hrest⟩ := List.forall_mem_cons.mp h.plain
  obtain ⟨hnew, hdistinct⟩ := List.nodup_cons.mp h.distinct
  exact ⟨hv, hnew, hrest, hdistinct⟩

/-- **All variables.** In the end a field has the value of its own variable, and without one it is as it
was. -/
theorem SettingVariable.holds_foldlM (hx : x ∈ settingVariables) (henv : PlainNames env)
    (hold : x.Holds old found) (h : env.foldlM withVariable old = .ok new) :
    x.Holds new (((valueOf? x.name env).map (.ofText x.isList)).or found) := by
  -- by induction on the variables: one of them changes what is there before the others come
  induction env generalizing old found with
  | nil =>
      cases h
      exact hold
  | cons v rest ih =>
      obtain ⟨hv, hnew, hrest⟩ := henv.of_cons
      rw [List.foldlM_cons] at h
      obtain ⟨next, hnext, hlast⟩ := bind_eq_ok_iff.mp h
      have hheld := ih hrest (SettingVariable.holds_withVariable hx hv hold hnext) hlast
      rw [valueOf?_cons]
      by_cases hname : lower v.1 = lower x.name
      · rw [if_pos hname, valueOf?_eq_none x.name (hname ▸ hnew)] at hheld
        rw [if_pos hname]
        exact hheld
      · rw [if_neg hname] at hheld ⊢
        exact hheld

/-- Variables of plain names have places, whatever was there before. -/
theorem exists_foldlM (h : ∀ v ∈ env, IsPlain v.1) (old : Node) :
    ∃ root, env.foldlM withVariable old = .ok root := by
  induction env generalizing old with
  | nil => exact ⟨old, rfl⟩
  | cons v rest ih =>
      obtain ⟨hv, hrest⟩ := List.forall_mem_cons.mp h
      obtain ⟨next, hnext⟩ := exists_withVariable hv old
      obtain ⟨root, hroot⟩ := ih hrest next
      refine ⟨root, ?_⟩
      rw [List.foldlM_cons]
      exact bind_eq_ok_iff.mpr ⟨next, hnext, hroot⟩

/-- **Plain names put a configuration together**, in which every field has the value of its own
variable. -/
theorem exists_assembled (henv : PlainNames env) :
    ∃ root, assembled env = .ok root ∧ ∀ x ∈ settingVariables,
      x.Holds root ((valueOf? x.name env).map (.ofText x.isList)) := by
  have hplain : ∀ v ∈ env, IsPlain v.1 := fun v hv => (henv.plain v hv).chars
  obtain ⟨root, hroot⟩ := exists_foldlM hplain (.members [])
  refine ⟨root, hroot, fun x hx => ?_⟩
  have hheld := SettingVariable.holds_foldlM hx henv x.holds_empty hroot
  rwa [Option.or_none] at hheld

/-! ## Loading -/

/-- What an environment has for a field: the default where the variable of the field is absent, and
otherwise what the value of that variable converts to. -/
def SettingVariable.valueIn? (x : SettingVariable) (env : List (String × String)) :
    Option x.Value :=
  match valueOf? x.name env with
  | none => some x.default
  | some s => x.read s

/-- Every field of the configuration is as the environment has it. -/
def Gives (env : List (String × String)) (c : Configuration) : Prop :=
  ∀ x ∈ settingVariables, x.valueIn? env = some (x.value c)

instance (env : List (String × String)) (c : Configuration) : Decidable (Gives env c) :=
  inferInstanceAs (Decidable (∀ x ∈ settingVariables, x.valueIn? env = some (x.value c)))

theorem SettingVariable.exists_valueIn?_iff : (∃ a, x.valueIn? env = some a) ↔
    ∀ s, valueOf? x.name env = some s → ∃ a, x.read s = some a := by
  unfold SettingVariable.valueIn?
  cases valueOf? x.name env with
  | none => exact iff_of_true ⟨x.default, rfl⟩ fun _ h => absurd h (by simp)
  | some s =>
      constructor
      · rintro h _ ⟨⟩
        exact h
      · exact fun h => h s rfl

/-- A field is read as the environment has it. -/
theorem SettingVariable.field_eq_ok_iff
    (h : x.Holds root ((valueOf? x.name env).map (.ofText x.isList))) (position : Nat)
    {a : x.Value} : field (sectionOf root x.part) x.key position x.convert x.default = .ok a ↔
      x.valueIn? env = some a := by
  have hmember := member_of_isSection h.isSection x.key position
  rw [h.lookup] at hmember
  unfold SettingVariable.valueIn? SettingVariable.read
  cases hvalue : valueOf? x.name env with
  | none =>
      rw [hvalue] at hmember
      rw [field_of_none hmember, Except.ok.injEq, Option.some.injEq]
  | some s =>
      rw [hvalue] at hmember
      rw [field_of_some hmember]
      dsimp only
      cases x.convert (.ofText x.isList s) with
      | none => exact iff_of_false (by simp) (by simp)
      | some v => rw [Except.ok.injEq, Option.some.injEq]

/-- There is one configuration at most that an environment gives. -/
theorem Gives.unique {c c' : Configuration} (h : Gives env c) (h' : Gives env c') : c = c' := by
  have hfields : ∀ x ∈ settingVariables, x.value c = x.value c' := fun x hx =>
    Option.some.inj ((h x hx).symm.trans (h' x hx))
  obtain ⟨hdestinations, hseconds, hratio, hkey, htags, hmarket, hdataPath⟩ :=
    forall_settingVariables.mp hfields
  obtain ⟨⟨_, _, _, _, _, _⟩, _⟩ := c
  obtain ⟨⟨_, _, _, _, _, _⟩, _⟩ := c'
  cases hdestinations
  cases hseconds
  cases hratio
  cases hkey
  cases htags
  cases hmarket
  cases hdataPath
  rfl

/-- An environment gives a configuration where every variable that is present converts. -/
theorem exists_gives_iff : (∃ c, Gives env c) ↔
    ∀ x ∈ settingVariables, ∀ s, valueOf? x.name env = some s → ∃ a, x.read s = some a := by
  constructor
  · rintro ⟨c, h⟩ x hx
    exact SettingVariable.exists_valueIn?_iff.mp ⟨_, h x hx⟩
  · intro h
    have hvalues : ∀ x ∈ settingVariables, ∃ a, x.valueIn? env = some a := fun x hx =>
      SettingVariable.exists_valueIn?_iff.mpr (h x hx)
    obtain ⟨⟨linkClickDestinations, h₁⟩, ⟨engagedTimeSeconds, h₂⟩, ⟨engagedCompletionRatio, h₃⟩,
      ⟨slotTargetingKey, h₄⟩, ⟨defaultTags, h₅⟩, ⟨defaultMarket, h₆⟩, ⟨dataPath, h₇⟩⟩ :=
      forall_settingVariables.mp hvalues
    refine ⟨⟨⟨linkClickDestinations, engagedTimeSeconds, engagedCompletionRatio, slotTargetingKey,
      defaultTags, defaultMarket⟩, dataPath⟩, ?_⟩
    exact forall_settingVariables.mpr ⟨h₁, h₂, h₃, h₄, h₅, h₆, h₇⟩

/-- The two sections are read as the environment has their fields. -/
theorem sections_eq_ok_iff {c : Configuration} (hroot : ∀ x ∈ settingVariables,
      x.Holds root ((valueOf? x.name env).map (.ofText x.isList))) :
    (settingsIn (sectionOf root "compiler") = .ok c.compiler ∧
      dataPathIn (sectionOf root "data") = .ok c.dataPath) ↔ Gives env c := by
  obtain ⟨hdestinations, hseconds, hratio, hkey, htags, hmarket, hdataPath⟩ :=
    forall_settingVariables.mp hroot
  unfold Gives
  rw [settingsIn_eq_ok_iff, forall_settingVariables, and_assoc, and_assoc, and_assoc, and_assoc,
    and_assoc]
  exact and_congr (SettingVariable.field_eq_ok_iff hdestinations 0) <|
    and_congr (SettingVariable.field_eq_ok_iff hseconds 1) <|
    and_congr (SettingVariable.field_eq_ok_iff hratio 2) <|
    and_congr (SettingVariable.field_eq_ok_iff hkey 3) <|
    and_congr (SettingVariable.field_eq_ok_iff htags 4) <|
    and_congr (SettingVariable.field_eq_ok_iff hmarket 5) <|
    SettingVariable.field_eq_ok_iff hdataPath 0

/-- No other error than this one. -/
def FailsOnlyWith {α : Type} (e : SettingsError) (x : Except SettingsError α) : Prop :=
  ∀ e', x = .error e' → e' = e

theorem FailsOnlyWith.bind {α β : Type} {e : SettingsError} {x : Except SettingsError α}
    {f : α → Except SettingsError β} (hx : FailsOnlyWith e x) (hf : ∀ a, FailsOnlyWith e (f a)) :
    FailsOnlyWith e (x >>= f) := by
  intro e' h
  cases x with
  | error e₀ => exact hx e' (congrArg Except.error (Except.error.inj h))
  | ok a => exact hf a e' h

theorem FailsOnlyWith.ok {α : Type} (e : SettingsError) (a : α) :
    FailsOnlyWith e (Except.ok a) := by
  rintro _ ⟨⟩

theorem failsOnlyWith_field {α : Type} (parent : Node) (key : String) (position : Nat)
    (convert : Node → Option α) (default : α) :
    FailsOnlyWith .unreadable (field parent key position convert default) := by
  apply FailsOnlyWith.bind
  · cases parent with
    | nothing | members _ | items _ => exact .ok _ _
    | scalar _ =>
        rintro _ ⟨⟩
        rfl
  · intro found
    cases found with
    | none => exact .ok _ default
    | some n =>
        dsimp only
        split
        · exact .ok _ _
        · rintro _ ⟨⟩
          rfl

theorem failsOnlyWith_settingsIn (compiler : Node) :
    FailsOnlyWith .unreadable (settingsIn compiler) := by
  unfold settingsIn
  exact .bind (failsOnlyWith_field _ _ _ _ _) fun _ => .bind (failsOnlyWith_field _ _ _ _ _) fun _ =>
    .bind (failsOnlyWith_field _ _ _ _ _) fun _ => .bind (failsOnlyWith_field _ _ _ _ _) fun _ =>
    .bind (failsOnlyWith_field _ _ _ _ _) fun _ => .bind (failsOnlyWith_field _ _ _ _ _) fun _ =>
    FailsOnlyWith.ok _ _

/-- What an environment gives is loaded, if it is valid. -/
theorem load_of_gives (henv : PlainNames env) {c : Configuration} (h : Gives env c) :
    load env = c.compiler.validate.map fun _ => c := by
  obtain ⟨root, hassembled, hroot⟩ := exists_assembled henv
  obtain ⟨hcompiler, hdata⟩ := (sections_eq_ok_iff hroot).mpr h
  rw [load_of_sections hassembled hdata, hcompiler]
  rfl

/-- Nothing is loaded where some variable does not convert. -/
theorem load_of_not_gives (henv : PlainNames env) (h : ¬ ∃ c, Gives env c) :
    load env = .error .unreadable := by
  obtain ⟨root, hassembled, hroot⟩ := exists_assembled henv
  unfold load
  rw [hassembled]
  cases hcompiler : settingsIn (sectionOf root "compiler") with
  | error e =>
      rw [failsOnlyWith_settingsIn _ e hcompiler] at hcompiler
      simp only [bind, Except.bind, hcompiler]
  | ok compiler =>
      cases hdata : dataPathIn (sectionOf root "data") with
      | error e =>
          rw [failsOnlyWith_field _ _ _ _ _ e hdata] at hdata
          simp only [bind, Except.bind, hcompiler, hdata]
      | ok dataPath =>
          exact absurd ⟨⟨compiler, dataPath⟩, (sections_eq_ok_iff hroot).mp ⟨hcompiler, hdata⟩⟩ h

/-- **No other variable matters**: environments that agree on the seven variables are loaded alike. -/
theorem load_congr {env' : List (String × String)} (henv : PlainNames env) (henv' : PlainNames env')
    (h : ∀ x ∈ settingVariables, valueOf? x.name env = valueOf? x.name env') :
    load env = load env' := by
  have hgives : ∀ c, Gives env c ↔ Gives env' c := by
    intro c
    refine forall₂_congr fun x hx => ?_
    rw [SettingVariable.valueIn?, SettingVariable.valueIn?, h x hx]
  by_cases hsome : ∃ c, Gives env c
  · obtain ⟨c, hc⟩ := hsome
    rw [load_of_gives henv hc, load_of_gives henv' ((hgives c).mp hc)]
  · have hsome' : ¬ ∃ c, Gives env' c := by
      rintro ⟨c, hc⟩
      exact hsome ⟨c, (hgives c).mpr hc⟩
    rw [load_of_not_gives henv hsome, load_of_not_gives henv' hsome']

/-- **Every field is loaded from its own variable.** Where no name is a section and none goes on behind
a field, the environment gives a configuration exactly when each of the seven variables converts, if it
is present; every field is then what its own variable converts to, or its default. That configuration is
loaded exactly when its settings are valid, and every other environment is refused: for a variable that
does not convert, or for what is wrong with the settings. -/
theorem load_fieldwise (henv : PlainNames env) :
    ((∃ c, Gives env c) ↔ ∀ x ∈ settingVariables, ∀ s,
      valueOf? x.name env = some s → ∃ a, x.read s = some a) ∧
    (∀ c, load env = .ok c ↔ Gives env c ∧ c.compiler.validate = .ok ()) ∧
    ∀ e, load env = .error e ↔
      (e = .unreadable ∧ ∃ x ∈ settingVariables, ∃ s,
        valueOf? x.name env = some s ∧ x.read s = none) ∨
      ∃ c, Gives env c ∧ c.compiler.validate = .error e := by
  have hconverts : ¬ (∃ c, Gives env c) ↔ ∃ x ∈ settingVariables, ∃ s,
      valueOf? x.name env = some s ∧ x.read s = none := by
    rw [exists_gives_iff]
    push Not
    simp only [← Option.eq_none_iff_forall_ne_some]
  refine ⟨exists_gives_iff, fun c => ?_, fun e => ?_⟩
  · by_cases hgives : ∃ c, Gives env c
    · obtain ⟨given, hgiven⟩ := hgives
      rw [load_of_gives henv hgiven, map_eq_ok_iff]
      constructor
      · rintro ⟨⟨⟩, hvalid, rfl⟩
        exact ⟨hgiven, hvalid⟩
      · rintro ⟨hc, hvalid⟩
        obtain rfl := hgiven.unique hc
        exact ⟨(), hvalid, rfl⟩
    · rw [load_of_not_gives henv hgives]
      exact iff_of_false (by simp) fun h => hgives ⟨c, h.1⟩
  · by_cases hgives : ∃ c, Gives env c
    · obtain ⟨given, hgiven⟩ := hgives
      rw [load_of_gives henv hgiven]
      constructor
      · intro h
        refine Or.inr ⟨given, hgiven, ?_⟩
        cases hvalid : given.compiler.validate with
        | error e' =>
            rw [hvalid] at h
            exact congrArg Except.error (Except.error.inj h)
        | ok _ =>
            rw [hvalid] at h
            cases h
      · rintro (⟨-, hfails⟩ | ⟨c, hc, hvalid⟩)
        · exact absurd ⟨given, hgiven⟩ (hconverts.mpr hfails)
        · obtain rfl := hgiven.unique hc
          rw [hvalid]
          rfl
    · rw [load_of_not_gives henv hgives]
      constructor
      · rintro ⟨⟩
        exact Or.inl ⟨rfl, hconverts.mp hgives⟩
      · rintro (⟨rfl, -⟩ | ⟨c, hc, -⟩)
        · rfl
        · exact absurd ⟨c, hc⟩ hgives

/-- An environment with names in several cases, and with a variable of no field. -/
def scattered : List (String × String) :=
  [("Cohort_Compiler__Data__Data_Path", "/srv"), ("COHORT_COMPILER__COMPILER___MARKET", "UK"),
   ("cohort_compiler__compiler__default_tags", "#golf,2024")]

/-- An environment with a market, and with a ratio that is no number. -/
def misspelt : List (String × String) :=
  [("COHORT_COMPILER__COMPILER__DEFAULT_MARKET", "UK"),
   ("COHORT_COMPILER__COMPILER__ENGAGED_COMPLETION_RATIO", "high")]

theorem scattered_loaded :
    PlainNames scattered ∧
      load scattered = .ok { compiler := { defaultTags := ["#golf", "2024"] }
                             dataPath := some "/srv" } ∧
      PlainNames misspelt ∧ load misspelt = .error .unreadable := by
  have hscattered : PlainNames scattered := by decide +kernel
  have hmisspelt : PlainNames misspelt := by decide +kernel
  obtain ⟨-, hok, -⟩ := load_fieldwise hscattered
  obtain ⟨-, -, herror⟩ := load_fieldwise hmisspelt
  refine ⟨hscattered, (hok _).mpr ⟨by decide +kernel, by decide +kernel⟩, hmisspelt, ?_⟩
  refine (herror _).mpr (Or.inl ⟨rfl, .engagedCompletionRatio, ?_, "high", ?_, ?_⟩)
  · simp [settingVariables]
  · decide +kernel
  · decide +kernel

end Audience.Environment
