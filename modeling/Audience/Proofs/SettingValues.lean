import Audience.Proofs.SettingOrigins

/-!
# `Audience.Proofs.SettingValues` — what the value of a variable is loaded as

The type of a field is not known when its variable is read, so every value is tried as a truth value,
as an integer and as a floating-point number before it is taken as a text. Where a text is wanted, what
has been read is written again. A text comes back as it was exactly when it is spelt the way its value
is written: `CN` does, and `007`, `TRUE` and `1e3` do not.

A list is taken apart at its commas only if it has not been read as a single value. No number has a
comma in it, so lists of two texts and more are always loaded; a list of one text is refused where that
text looks like a number or a truth value.

## Contents
- **Reading.** `ReadsAs`, the order in which a text is tried, and `ofText_eq_iff`.
- **Characters of values.** `isText_of_mem`: no number and no truth value has another character.
- **Spelling.** `SpeltAsWritten`, and `asText_ofText_eq_self_iff`.
- **Lone variables.** `target?` and `withVariable_of_some`, with `assembled_lone`, `field_lone` and
  `load_lone`: a configuration of one variable.
- **Settings.** `lone_values_loaded`.
-/

namespace Audience.Environment

open Number Text

variable {s : String} {cs : List Char} {value : Scalar}

/-! ## Reading -/

/-- The text is a truth value, in any case. -/
def IsTruth (s : String) : Prop :=
  lower s = "true" ∨ lower s = "false"

instance : DecidablePred IsTruth := fun _ => inferInstanceAs (Decidable (_ ∨ _))

/-- The text is neither a truth value nor a number. -/
structure IsText (s : String) : Prop where
  truth : ¬ IsTruth s
  int : readInt64? s.toList = none
  float : readFloat? s.toList = none

instance : DecidablePred IsText := fun s =>
  decidable_of_iff (¬ IsTruth s ∧ readInt64? s.toList = none ∧ readFloat? s.toList = none)
    ⟨fun ⟨truth, int, float⟩ => ⟨truth, int, float⟩, fun h => ⟨h.truth, h.int, h.float⟩⟩

/-- What a text is read as: the first of a truth value, an integer of 64 bits, a floating-point number
and the text itself that it can be. -/
inductive ReadsAs : String → Scalar → Prop
  | flag {s : String} {b : Bool} (h : lower s = (Scalar.flag b).asText) : ReadsAs s (.flag b)
  | int {s : String} {n : Int} (htruth : ¬ IsTruth s) (h : readInt64? s.toList = some n) :
      ReadsAs s (.int n)
  | float {s : String} {x : Binary64} (htruth : ¬ IsTruth s) (hint : readInt64? s.toList = none)
      (h : readFloat? s.toList = some x) : ReadsAs s (.float x)
  | text {s : String} (h : IsText s) : ReadsAs s (.text s)

theorem readsAs_ofText (s : String) : ReadsAs s (.ofText s) := by
  unfold Scalar.ofText
  split
  · rename_i htrue
    exact .flag htrue
  · rename_i htrue
    split
    · rename_i hfalse
      exact .flag hfalse
    · rename_i hfalse
      have htruth : ¬ IsTruth s := not_or.mpr ⟨htrue, hfalse⟩
      split
      · rename_i hint
        exact .int htruth hint
      · rename_i hint hfloat
        exact .float htruth hint hfloat
      · rename_i hint hfloat
        exact .text ⟨htruth, hint, hfloat⟩

/-- A text is read as one value only. -/
theorem ReadsAs.ofText_eq (h : ReadsAs s value) : Scalar.ofText s = value := by
  cases h with
  | flag h =>
      rename_i b
      cases b with
      | true => exact if_pos h
      | false =>
          have hfalse : lower s = "false" := h
          rw [Scalar.ofText, hfalse, if_neg (by decide), if_pos rfl]
  | int htruth h =>
      obtain ⟨htrue, hfalse⟩ := not_or.mp htruth
      rw [Scalar.ofText, if_neg htrue, if_neg hfalse, h]
  | float htruth hint h =>
      obtain ⟨htrue, hfalse⟩ := not_or.mp htruth
      rw [Scalar.ofText, if_neg htrue, if_neg hfalse, hint, h]
  | text h =>
      obtain ⟨htrue, hfalse⟩ := not_or.mp h.truth
      rw [Scalar.ofText, if_neg htrue, if_neg hfalse, h.int, h.float]

/-- **A text is read in this order.** -/
theorem ofText_eq_iff : Scalar.ofText s = value ↔ ReadsAs s value := by
  constructor
  · rintro rfl
    exact readsAs_ofText s
  · exact ReadsAs.ofText_eq

theorem ofText_eq_text_iff : Scalar.ofText s = .text s ↔ IsText s := by
  rw [ofText_eq_iff]
  constructor
  · rintro ⟨h⟩
    assumption
  · exact .text

/-! ## Characters of values -/

/-- A character of numbers and truth values: a letter or digit of ASCII, a sign or a point. -/
def isValueChar (c : Char) : Bool :=
  c.toLower.isAlphanum || c == '+' || c == '-' || c == '.'

theorem isValueChar_of_isDigit {c : Char} (h : c.isDigit = true) : isValueChar c = true := by
  have hdigits : ∀ d < 10, isValueChar (Nat.digitChar d) = true := by decide
  obtain ⟨d, hd, rfl⟩ := exists_digitChar_eq h
  exact hdigits d hd

theorem isValueChar_of_signedDigits {n : Int} (h : SignedDigits cs n) :
    ∀ c ∈ cs, isValueChar c = true := by
  have hdigits : ∀ {ds : List Char} {m : Nat}, Digits ds m → ∀ c ∈ ds, isValueChar c = true :=
    fun hds c hc => isValueChar_of_isDigit (hds.isDigit c hc)
  cases h with
  | unsigned h => exact hdigits h
  | plus h => exact List.forall_mem_cons.mpr ⟨by decide, hdigits h⟩
  | minus h => exact List.forall_mem_cons.mpr ⟨by decide, hdigits h⟩

theorem isValueChar_of_readExponent? {e : Int} (h : readExponent? cs = some e) :
    ∀ c ∈ cs, isValueChar c = true := by
  cases cs with
  | nil => simp
  | cons c rest =>
      rw [readExponent?] at h
      split at h
      · rename_i hmark
        refine List.forall_mem_cons.mpr ⟨?_, isValueChar_of_signedDigits (readInt?_eq_some_iff.mp h)⟩
        rcases hmark with rfl | rfl <;> decide
      · cases h

theorem isValueChar_of_readMagnitude? {negative : Bool} {x : Binary64}
    (h : readMagnitude? negative cs = some x) : ∀ c ∈ cs, isValueChar c = true := by
  have hdigits : ∀ {as : List Char}, ∀ c ∈ as.takeWhile Char.isDigit, isValueChar c = true :=
    fun c hc => isValueChar_of_isDigit (List.all_eq_true.mp List.all_takeWhile c hc)
  have hsplit : ∀ {as : List Char}, (∀ c ∈ as.dropWhile Char.isDigit, isValueChar c = true) →
      ∀ c ∈ as, isValueChar c = true := by
    intro as has c hc
    have hparts : as.takeWhile Char.isDigit ++ as.dropWhile Char.isDigit = as :=
      List.takeWhile_append_dropWhile
    rw [← hparts] at hc
    exact (List.mem_append.mp hc).elim (hdigits c) (has c)
  have hexponent : ∀ {b : Bool} {exponent : Option Int} {f : Int → Binary64},
      (if b = true then none else exponent.map f) = some x → ∃ e, exponent = some e := by
    intro b exponent f hvalue
    split at hvalue
    · cases hvalue
    · obtain ⟨e, he, -⟩ := Option.map_eq_some_iff.mp hvalue
      exact ⟨e, he⟩
  apply hsplit
  unfold readMagnitude? takeDigits at h
  dsimp only at h
  -- behind the whole digits stands a point with the places behind it, or the exponent alone
  split at h
  · rename_i places hrest
    obtain ⟨e, he⟩ := hexponent h
    rw [hrest]
    exact List.forall_mem_cons.mpr ⟨by decide, hsplit (isValueChar_of_readExponent? he)⟩
  · obtain ⟨e, he⟩ := hexponent h
    exact isValueChar_of_readExponent? he

theorem isValueChar_of_readWord? {negative : Bool} {x : Binary64}
    (h : readWord? negative cs = some x) : ∀ c ∈ cs, isValueChar c = true := by
  have hletters : ∀ {word : List Char}, cs.map Char.toLower = word →
      word.all Char.isAlphanum = true → ∀ c ∈ cs, isValueChar c = true := by
    rintro word rfl hword c hc
    have hlower := List.all_eq_true.mp hword _ (List.mem_map_of_mem hc)
    simp [isValueChar, hlower]
  unfold readWord? at h
  dsimp only at h
  split at h
  · rename_i hword
    rcases hword with hword | hword
    · exact hletters hword (by decide)
    · exact hletters hword (by decide)
  · split at h
    · rename_i hword
      exact hletters hword (by decide)
    · cases h

theorem isValueChar_of_readFloat? {x : Binary64} (h : readFloat? cs = some x) :
    ∀ c ∈ cs, isValueChar c = true := by
  unfold readFloat? at h
  split at h
  rename_i negative ds hsign
  have hunsigned : ∀ c ∈ ds, isValueChar c = true := by
    split at h
    · rename_i hword
      exact isValueChar_of_readWord? hword
    · exact isValueChar_of_readMagnitude? h
  -- what is behind the sign is the whole literal where there is no sign
  split at hsign
  · cases hsign
    exact List.forall_mem_cons.mpr ⟨by decide, hunsigned⟩
  · cases hsign
    exact List.forall_mem_cons.mpr ⟨by decide, hunsigned⟩
  · cases hsign
    exact hunsigned

/-- A character that is its own lower case stays in a text that is put in lower case. -/
theorem mem_lowerChars_of_mem {c : Char} (hc : c ∈ cs) (hlower : lowerChar c = [c]) :
    c ∈ lowerChars cs := by
  have hafter : ∀ before, c ∈ lowerAfter before cs := by
    induction cs with
    | nil => cases hc
    | cons d rest ih =>
        intro before
        rw [lowerAfter]
        rcases List.mem_cons.mp hc with rfl | hc
        · -- the capital sigma is not its own lower case
          have hsigma : c ≠ 'Σ' := by
            rintro rfl
            exact absurd hlower (by decide)
          rw [if_neg hsigma, hlower]
          exact List.mem_append_left _ (List.mem_singleton_self c)
        · exact List.mem_append_right _ (ih hc _)
  exact hafter []

theorem not_isTruth_of_mem {c : Char} (hc : c ∈ s.toList) (hlower : lowerChar c = [c])
    (hletter : c ∉ "true".toList ++ "false".toList) : ¬ IsTruth s := by
  have hmem : c ∈ (lower s).toList := by
    rw [lower, String.toList_ofList]
    exact mem_lowerChars_of_mem hc hlower
  rintro (htrue | hfalse)
  · rw [htrue] at hmem
    exact hletter (List.mem_append_left _ hmem)
  · rw [hfalse] at hmem
    exact hletter (List.mem_append_right _ hmem)

/-- **A text with a character that is in no value** is read as a text. -/
theorem isText_of_mem {c : Char} (hc : c ∈ s.toList) (hlower : lowerChar c = [c])
    (hvalue : isValueChar c = false) : IsText s := by
  have hletters : ∀ d ∈ "true".toList ++ "false".toList, isValueChar d = true :=
    List.all_eq_true.mp (by decide)
  have hnone : ¬ ∀ d ∈ s.toList, isValueChar d = true := by
    intro hall
    rw [hall c hc] at hvalue
    exact absurd hvalue (by simp)
  refine ⟨not_isTruth_of_mem hc hlower fun hmem => ?_, ?_, ?_⟩
  · rw [hletters c hmem] at hvalue
    exact absurd hvalue (by simp)
  · refine Option.eq_none_iff_forall_ne_some.mpr fun n hn => hnone ?_
    exact isValueChar_of_signedDigits (readInt64?_eq_some_iff.mp hn).1
  · exact Option.eq_none_iff_forall_ne_some.mpr fun x hx => hnone (isValueChar_of_readFloat? hx)

theorem blank_not_value {c : Char} (h : isBlankChar c = true) :
    lowerChar c = [c] ∧ isValueChar c = false := by
  have hranges : ∀ r ∈ blankRanges, ∀ n ∈ List.range' r.first (r.last + 1 - r.first),
      lowerChar (Char.ofNat n) = [Char.ofNat n] ∧ isValueChar (Char.ofNat n) = false := by
    decide +kernel
  obtain ⟨r, hr, hfirst, hlast⟩ := inRanges_iff.mp h
  have hn : c.toNat ∈ List.range' r.first (r.last + 1 - r.first) := by
    rw [List.mem_range'_1]
    omega
  have hc := hranges r hr c.toNat hn
  rwa [Char.ofNat_toNat] at hc

theorem isText_of_isBlank (h : isBlank s = true) : IsText s := by
  by_cases hempty : s = ""
  · subst hempty
    exact ⟨by decide, by decide, by decide⟩
  · obtain ⟨c, hc⟩ := List.exists_mem_of_ne_nil s.toList (by simpa using hempty)
    obtain ⟨hlower, hvalue⟩ := blank_not_value (isBlank_iff.mp h c hc)
    exact isText_of_mem hc hlower hvalue

/-- A joined list of two texts and more has a comma in it. -/
theorem comma_mem_join (first second : String) (others : List String) :
    ',' ∈ (join ',' (first :: second :: others)).toList := by
  rw [join, String.toList_ofList, List.map_cons, List.map_cons, joinChars]
  · exact List.mem_append_right _ List.mem_cons_self
  · simp

/-! ## Spelling -/

/-- The text is spelt the way its value is written. -/
inductive SpeltAsWritten : String → Prop
  | text {s : String} (h : IsText s) : SpeltAsWritten s
  | truth (b : Bool) : SpeltAsWritten (Scalar.flag b).asText
  | int {n : Int} (h : fitsInt64 n = true) : SpeltAsWritten (intText n)
  | float {s : String} {x : Binary64} (h : ReadsAs s (.float x)) (hspelt : plainText x = s) :
      SpeltAsWritten s

theorem not_isTruth_intText (n : Int) : ¬ IsTruth (intText n) := by
  have hdigits : ∀ d < 10, lowerChar (Nat.digitChar d) = [Nat.digitChar d] ∧
      Nat.digitChar d ∉ "true".toList ++ "false".toList := by
    decide
  have hdigit : ∃ c ∈ intChars n, c.isDigit = true := by
    cases n with
    | ofNat n =>
        obtain ⟨c, hc⟩ := List.exists_mem_of_ne_nil _ (natChars_ne_nil n)
        exact ⟨c, hc, isDigit_of_mem_natChars hc⟩
    | negSucc n =>
        obtain ⟨c, hc⟩ := List.exists_mem_of_ne_nil _ (natChars_ne_nil (n + 1))
        exact ⟨c, List.mem_cons_of_mem _ hc, isDigit_of_mem_natChars hc⟩
  obtain ⟨c, hc, hdigit⟩ := hdigit
  obtain ⟨d, hd, rfl⟩ := exists_digitChar_eq hdigit
  refine not_isTruth_of_mem ?_ (hdigits d hd).1 (hdigits d hd).2
  rwa [intText, String.toList_ofList]

/-- **A text comes back from its value** exactly when it is spelt the way its value is written. -/
theorem asText_ofText_eq_self_iff : (Scalar.ofText s).asText = s ↔ SpeltAsWritten s := by
  constructor
  · intro h
    have hread : ReadsAs s (.ofText s) := readsAs_ofText s
    cases hvalue : Scalar.ofText s with
    | flag b =>
        rw [hvalue] at h
        rw [← h]
        exact .truth b
    | int n =>
        rw [hvalue] at h hread
        cases hread with
        | int _ hn =>
            rw [← h]
            exact .int (readInt64?_eq_some_iff.mp hn).2
    | float x =>
        rw [hvalue] at h hread
        exact .float hread h
    | text t =>
        obtain rfl := text_of_ofText hvalue
        exact .text (ofText_eq_text_iff.mp hvalue)
  · intro h
    cases h with
    | text h => rw [ofText_eq_text_iff.mpr h, Scalar.asText]
    | truth b =>
        have hlower : lower (Scalar.flag b).asText = (Scalar.flag b).asText := by
          cases b <;> decide
        rw [(ReadsAs.flag hlower).ofText_eq]
    | @int n h =>
        have hread : readInt64? (intText n).toList = some n := by
          rw [intText, String.toList_ofList]
          exact readInt64?_eq_some_iff.mpr ⟨signedDigits_intChars n, h⟩
        rw [(ReadsAs.int (not_isTruth_intText n) hread).ofText_eq, Scalar.asText]
    | float h hspelt => rw [h.ofText_eq, Scalar.asText, hspelt]

/-! ## Lone variables -/

/-- Where a variable leads, and whether its value is a list. -/
def target? (name : String) : Option (Path × Bool) :=
  (pathText? name).bind fun cs => (Path.ofText? cs).map fun path => (path, listPaths.contains cs)

section Targets

variable {old new : Node} {v : String × String} {path : Path} {isList : Bool}

/-- A variable that leads nowhere changes nothing. -/
theorem withVariable_of_none (h : target? v.1 = none) : withVariable old v = .ok old := by
  cases hname : pathText? v.1 with
  | none => rw [withVariable, hname]
  | some cs =>
      have hpath : Path.ofText? cs = none := by
        rw [target?, hname, Option.bind_some, Option.map_eq_none_iff] at h
        exact h
      rw [withVariable, hname]
      dsimp only
      rw [hpath]

/-- A variable puts its value where it leads. -/
theorem withVariable_of_some (h : target? v.1 = some (path, isList))
    (hput : Node.put? path (.ofText isList v.2) old = some new) : withVariable old v = .ok new := by
  rw [target?, Option.bind_eq_some_iff] at h
  obtain ⟨cs, hname, h⟩ := h
  obtain ⟨path', hpath, htarget⟩ := Option.map_eq_some_iff.mp h
  obtain ⟨rfl, rfl⟩ := Prod.mk.inj htarget
  rw [withVariable, hname]
  dsimp only
  rw [hpath]
  dsimp only
  rw [hput]

end Targets

variable {name part key : String} {isList : Bool}

/-- A configuration of one variable has the value of that variable, and nothing else. -/
theorem assembled_lone (h : target? name = some ([.key part, .key key], isList)) (s : String) :
    assembled [(name, s)] = .ok (.members [(part, .members [(key, .ofText isList s)])]) := by
  have hstep : withVariable (.members []) (name, s) =
      .ok (.members [(part, .members [(key, .ofText isList s)])]) :=
    withVariable_of_some h rfl
  rw [assembled, List.foldlM_cons, hstep]
  rfl

section Fields

variable {α : Type} {n : Node} {position : Nat} {convert : Node → Option α} {default : α}

/-- The field of a section of one field. -/
theorem field_lone : field (.members [(key, n)]) key position convert default =
    match convert n with
    | some v => .ok v
    | none => .error .unreadable := by
  have hmember : member (.members [(key, n)]) key position = .ok (some n) := by
    simp [member, Keyed.lookup?]
  exact field_of_some hmember

/-- The other fields have their defaults. -/
theorem field_of_ne {other : String} (h : other ≠ key) :
    field (.members [(key, n)]) other position convert default = .ok default := by
  have hmember : member (.members [(key, n)]) other position = .ok none := by
    simp [member, Keyed.lookup?, Ne.symm h]
  exact field_of_none hmember

end Fields

theorem sectionOf_lone {n : Node} : sectionOf (.members [(part, n)]) part = n := by
  simp [sectionOf, Node.memberNodes, Keyed.lookup?]

theorem sectionOf_of_ne {n : Node} {other : String} (h : other ≠ part) :
    sectionOf (.members [(part, n)]) other = .nothing := by
  simp [sectionOf, Node.memberNodes, Keyed.lookup?, Ne.symm h]

theorem load_of_sections {env : List (String × String)} {root : Node} {dataPath : Option String}
    (hroot : assembled env = .ok root) (hdata : dataPathIn (sectionOf root "data") = .ok dataPath) :
    load env = (settingsIn (sectionOf root "compiler")).bind fun compiler =>
      compiler.validate.map fun _ => { compiler, dataPath } := by
  unfold load
  rw [hroot]
  cases hcompiler : settingsIn (sectionOf root "compiler") with
  | error e => simp only [bind, Except.bind, hcompiler]
  | ok compiler =>
      simp only [bind, Except.bind, hcompiler, hdata]
      cases compiler.validate <;> rfl

/-- The configuration of one variable that leads to a field of the settings. -/
theorem load_lone (h : target? name = some ([.key "compiler", .key key], isList)) (s : String) :
    load [(name, s)] = (settingsIn (.members [(key, .ofText isList s)])).bind fun compiler =>
      compiler.validate.map fun _ => { compiler } := by
  have hdata : dataPathIn (sectionOf (.members [("compiler", .members [(key, .ofText isList s)])])
      "data") = .ok none := by
    rw [sectionOf_of_ne (by decide)]
    rfl
  rw [load_of_sections (assembled_lone h s) hdata, sectionOf_lone]

/-! ## Settings -/

theorem ofText_single (s : String) : Node.ofText false s = .scalar (.ofText s) := rfl

/-- With the default ratio, settings are valid if some destination and the targeting key are not
blank. -/
theorem validate_of_ratio {settings : Settings}
    (h : settings.engagedCompletionRatio = ({} : Settings).engagedCompletionRatio) :
    settings.validate =
      if settings.linkClickDestinations.all isBlank then .error .noDestination
      else if isBlank settings.slotTargetingKey then .error .noTargetingKey
      else .ok () := by
  have hratio : ({} : Settings).engagedCompletionRatio.inUnitInterval = true := by decide
  rw [Settings.validate, h, hratio]
  rfl

theorem validate_default : ({} : Settings).validate = .ok () := by decide

/-- The variable of the default market. -/
def marketVariable : String :=
  "COHORT_COMPILER__COMPILER__DEFAULT_MARKET"

theorem load_market (s : String) : load [(marketVariable, s)] =
    .ok { compiler := { defaultMarket := (Scalar.ofText s).asText } } := by
  have hname : target? marketVariable = some ([.key "compiler", .key "default_market"], false) :=
    rfl
  have hsettings : settingsIn (.members [("default_market", .scalar (.ofText s))]) =
      .ok { defaultMarket := (Scalar.ofText s).asText } := by
    simp (disch := decide) only [settingsIn, field_of_ne, field_lone]
    rfl
  -- the market is not looked at when settings are checked
  have hvalid : ({ defaultMarket := (Scalar.ofText s).asText } : Settings).validate = .ok () :=
    validate_default
  rw [load_lone hname, ofText_single, hsettings, Except.bind, hvalid]
  rfl

/-- The variable of the key that carries segment codes. -/
def targetingKeyVariable : String :=
  "COHORT_COMPILER__COMPILER__SLOT_TARGETING_KEY"

theorem isBlank_asText_ofText (s : String) : isBlank (Scalar.ofText s).asText = isBlank s := by
  cases hs : isBlank s with
  | true =>
      rw [ofText_eq_text_iff.mpr (isText_of_isBlank hs)]
      exact hs
  | false =>
      rw [Bool.eq_false_iff]
      intro hblank
      have htext := text_of_isBlank_asText hblank
      rw [text_of_ofText htext, hs] at hblank
      exact absurd hblank (by simp)

/-- A blank targeting key is refused. -/
theorem load_targetingKey (s : String) : load [(targetingKeyVariable, s)] =
    if isBlank s then .error .noTargetingKey
    else .ok { compiler := { slotTargetingKey := (Scalar.ofText s).asText } } := by
  have hname : target? targetingKeyVariable =
      some ([.key "compiler", .key "slot_targeting_key"], false) :=
    rfl
  have hsettings : settingsIn (.members [("slot_targeting_key", .scalar (.ofText s))]) =
      .ok { slotTargetingKey := (Scalar.ofText s).asText } := by
    simp (disch := decide) only [settingsIn, field_of_ne, field_lone]
    rfl
  have hvalid : ({ slotTargetingKey := (Scalar.ofText s).asText } : Settings).validate =
      if isBlank s then .error .noTargetingKey else .ok () := by
    have hhosts : ({} : Settings).linkClickDestinations.all isBlank = false := by decide
    simp only [validate_of_ratio, hhosts, isBlank_asText_ofText]
    rfl
  rw [load_lone hname, ofText_single, hsettings, Except.bind, hvalid]
  cases isBlank s <;> rfl

/-- The variable of the folder of definitions. -/
def dataPathVariable : String :=
  "COHORT_COMPILER__DATA__DATA_PATH"

theorem load_dataPath (s : String) : load [(dataPathVariable, s)] =
    .ok { dataPath := some (Scalar.ofText s).asText } := by
  have hname : target? dataPathVariable = some ([.key "data", .key "data_path"], false) := rfl
  have hdata : dataPathIn (sectionOf (.members [("data", .members [("data_path", .ofText false s)])])
      "data") = .ok (some (Scalar.ofText s).asText) := by
    rw [sectionOf_lone, ofText_single, dataPathIn, field_lone]
    rfl
  have hsettings : settingsIn .nothing = .ok {} := rfl
  rw [load_of_sections (assembled_lone hname s) hdata, sectionOf_of_ne (by decide), hsettings,
    Except.bind, validate_default]
  rfl

/-- The variable of the tags of every payload. -/
def tagsVariable : String :=
  "COHORT_COMPILER__COMPILER__DEFAULT_TAGS"

/-- A text is a list of its pieces; a number and a truth value are none. -/
theorem asTexts?_ofText (s : String) :
    (Node.ofText true s).asTexts? = if IsText s then some (split ',' s) else none := by
  by_cases hs : IsText s
  · simp only [Node.ofText, ofText_eq_text_iff.mpr hs, if_pos hs]
    show ((split ',' s).map fun piece => Node.scalar (.text piece)).mapM Node.asText? = _
    rw [List.mapM_map]
    exact List.mapM_pure.trans (congrArg some (List.map_id _))
  · rw [if_neg hs]
    cases hvalue : Scalar.ofText s with
    | text t =>
        obtain rfl := text_of_ofText hvalue
        exact absurd (ofText_eq_text_iff.mp hvalue) hs
    | flag _ | int _ | float _ =>
        simp only [Node.ofText, hvalue]
        rfl

theorem load_tags (s : String) : load [(tagsVariable, s)] =
    if IsText s then .ok { compiler := { defaultTags := split ',' s } }
    else .error .unreadable := by
  have hname : target? tagsVariable = some ([.key "compiler", .key "default_tags"], true) := rfl
  have hsettings : settingsIn (.members [("default_tags", .ofText true s)]) =
      if IsText s then .ok { defaultTags := split ',' s } else .error .unreadable := by
    simp (disch := decide) only [settingsIn, field_of_ne, field_lone, asTexts?_ofText]
    by_cases hs : IsText s
    · simp only [if_pos hs]
      rfl
    · simp only [if_neg hs]
      rfl
  rw [load_lone hname, hsettings]
  by_cases hs : IsText s
  · -- the tags are not looked at when settings are checked
    have hvalid : ({ defaultTags := split ',' s } : Settings).validate = .ok () := validate_default
    rw [if_pos hs, if_pos hs, Except.bind, hvalid]
    rfl
  · rw [if_neg hs, if_neg hs]
    rfl

/-- A joined list is read as a text, unless it is a single text that is not. -/
theorem isText_join_iff {tags : List String} (hne : tags ≠ []) :
    IsText (join ',' tags) ↔ ∀ tag, tags = [tag] → IsText tag := by
  match tags, hne with
  | [tag], _ =>
      have hjoin : join ',' [tag] = tag := by simp [join, joinChars]
      rw [hjoin]
      constructor
      · rintro h tag' ⟨⟩
        exact h
      · exact fun h => h tag rfl
  | first :: second :: others, _ =>
      refine iff_of_true ?_ fun _ h => absurd h (by simp)
      exact isText_of_mem (comma_mem_join first second others) (by decide) (by decide)

/-- **What the value of a lone variable is loaded as.** A market, a targeting key that is not blank and
a data path are loaded as their values are written, which is as they were exactly when they are spelt
that way. A list of tags is loaded as it was unless it is a single number or truth value, and is then
refused. -/
theorem lone_values_loaded (s : String) (tags : List String) (hne : tags ≠ [])
    (hcomma : ∀ tag ∈ tags, ',' ∉ tag.toList) :
    load [(marketVariable, s)] =
      .ok { compiler := { defaultMarket := (Scalar.ofText s).asText } } ∧
    load [(targetingKeyVariable, s)] = (if isBlank s then .error .noTargetingKey
      else .ok { compiler := { slotTargetingKey := (Scalar.ofText s).asText } }) ∧
    load [(dataPathVariable, s)] = .ok { dataPath := some (Scalar.ofText s).asText } ∧
    ((Scalar.ofText s).asText = s ↔ SpeltAsWritten s) ∧
    ((∀ tag, tags = [tag] → IsText tag) →
      load [(tagsVariable, join ',' tags)] = .ok { compiler := { defaultTags := tags } }) ∧
    ∀ tag, tags = [tag] → ¬ IsText tag →
      load [(tagsVariable, join ',' tags)] = .error .unreadable := by
  refine ⟨load_market s, load_targetingKey s, load_dataPath s, asText_ofText_eq_self_iff, ?_, ?_⟩
  · intro htext
    rw [load_tags, if_pos ((isText_join_iff hne).mpr htext), split_join hne hcomma]
  · intro tag htag hvalue
    have hjoin : ¬ IsText (join ',' tags) := fun h => hvalue ((isText_join_iff hne).mp h tag htag)
    rw [load_tags, if_neg hjoin]

/-- A market with leading zeros, and a tag that looks like a year beside another. -/
theorem zeros_and_year_loaded :
    load [(marketVariable, "007")] = .ok { compiler := { defaultMarket := "7" } } ∧
      ¬ SpeltAsWritten "007" ∧
      load [(tagsVariable, "#golf,2024")] =
        .ok { compiler := { defaultTags := ["#golf", "2024"] } } := by
  obtain ⟨hmarket, -, -, hspelt, htags, -⟩ :=
    lone_values_loaded "007" ["#golf", "2024"] (by simp) (by simp)
  have hvalue : (Scalar.ofText "007").asText = "7" := by decide
  have hjoin : join ',' ["#golf", "2024"] = "#golf,2024" := by decide
  rw [hvalue] at hmarket hspelt
  rw [hjoin] at htags
  exact ⟨hmarket, fun h => absurd (hspelt.mpr h) (by decide), htags fun _ h => absurd h (by simp)⟩

/-- **A single tag that looks like a year is refused.** -/
theorem year_alone_refused :
    ["2024"] ≠ [] ∧ (∀ tag ∈ ["2024"], ',' ∉ tag.toList) ∧
      load [(tagsVariable, join ',' ["2024"])] = .error .unreadable := by
  have hyear : ¬ IsText (join ',' ["2024"]) := by decide
  refine ⟨by simp, by simp, ?_⟩
  rw [load_tags, if_neg hyear]

end Audience.Environment
