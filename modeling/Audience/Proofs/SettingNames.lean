import Audience.Proofs.SettingValues

/-!
# `Audience.Proofs.SettingNames` — where the names of variables lead

The name of a variable denotes a path: behind the beginning, two underscores are a point, points stand
between keys, and brackets around positions. A name of letters, digits and underscores has neither points
nor brackets in it. Its path has no positions, and the name can be told from the path: in lower case it is
the text `cohort_compiler` with every key behind two underscores. So two such names with one path differ
in their case only, and a path that goes on behind another one has a name that goes on behind the name of
the other.

## Contents
- **Plain names.** `IsPlain`, and `isNameChar_of_mem_lowerChars`.
- **Points and underscores.** `undotted`, with `undotted_dotted`.
- **Keys.** `IsKey`, and `exists_keys_of_pathOfText?`: a text without brackets denotes a path of keys.
- **The name of a path.** `nameText` and `exists_keys_of_target?`; `Extends`, when a name goes on behind
  another.
-/

namespace Audience.Environment

open Text

/-! ## Plain names -/

/-- A character of plain names. -/
def isNameChar (c : Char) : Bool :=
  c.isAlphanum || c == '_'

/-- The name consists of letters and digits of ASCII, and underscores. -/
def IsPlain (name : String) : Prop :=
  ∀ c ∈ name.toList, isNameChar c = true

instance : DecidablePred IsPlain := fun name =>
  decidable_of_iff (name.toList.all isNameChar = true) List.all_eq_true

variable {cs bs rest : List Char}

theorem isNameChar_of_mem_lowerChar {c d : Char} (h : isNameChar c = true) (hd : d ∈ lowerChar c) :
    isNameChar d = true := by
  rcases Bool.or_eq_true_iff.mp h with hletter | hline
  · obtain ⟨hlower, halphanum⟩ := lowerChar_of_isAlphanum hletter
    rw [hlower, List.mem_singleton] at hd
    rw [hd, isNameChar, halphanum, Bool.true_or]
  · rw [beq_iff_eq.mp hline] at hd
    have hlower : lowerChar '_' = ['_'] := by decide
    rw [hlower, List.mem_singleton] at hd
    rw [hd]
    decide

/-- A plain name is plain in lower case. -/
theorem isNameChar_of_mem_lowerChars (h : ∀ c ∈ cs, isNameChar c = true) :
    ∀ c ∈ lowerChars cs, isNameChar c = true := by
  intro d hd
  obtain ⟨c, hc, hlower | ⟨rfl, -⟩⟩ := exists_of_mem_lowerChars hd
  · exact isNameChar_of_mem_lowerChar (h c hc) hlower
  · exact absurd (h 'Σ' hc) (by decide)

theorem dropBeginning?_eq_some_iff : dropBeginning? bs cs = some rest ↔ cs = bs ++ rest := by
  induction bs generalizing cs with
  | nil => simp [dropBeginning?]
  | cons b bs ih =>
      cases cs with
      | nil => simp [dropBeginning?]
      | cons c cs =>
          by_cases hc : b = c
          · rw [dropBeginning?, if_pos hc, ih, hc, List.cons_append, List.cons.injEq,
              and_iff_right rfl]
          · rw [dropBeginning?, if_neg hc]
            exact iff_of_false (by simp) fun h => hc (List.cons.inj h).1.symm

/-! ## Points and underscores -/

/-- Each point becomes a pair of underscores. -/
def undotted (cs : List Char) : List Char :=
  cs.flatMap fun c => if c = '.' then "__".toList else [c]

theorem undotted_cons_of_ne {c : Char} (h : c ≠ '.') : undotted (c :: cs) = c :: undotted cs := by
  rw [undotted, List.flatMap_cons, if_neg h]
  rfl

theorem undotted_append (as bs : List Char) : undotted (as ++ bs) = undotted as ++ undotted bs :=
  List.flatMap_append

theorem undotted_of_notMem (h : '.' ∉ cs) : undotted cs = cs := by
  induction cs with
  | nil => rfl
  | cons c rest ih =>
      rw [List.mem_cons, not_or] at h
      rw [undotted_cons_of_ne (Ne.symm h.1), ih h.2]

/-- The underscores come back where no point was before. -/
theorem undotted_dotted (h : '.' ∉ cs) : undotted (dotted cs) = cs := by
  fun_induction dotted cs with
  | case1 => rfl
  | case2 c => exact undotted_of_notMem h
  | case3 c d rest hpair ih =>
      obtain ⟨rfl, rfl⟩ := hpair
      simp only [List.mem_cons, not_or] at h
      show "__".toList ++ undotted (dotted rest) = _
      rw [ih h.2.2]
      rfl
  | case4 c d rest hpair ih =>
      rw [List.mem_cons, not_or] at h
      rw [undotted_cons_of_ne (Ne.symm h.1), ih h.2]

/-- Nothing but points is new. -/
theorem mem_of_mem_dotted {c : Char} (h : c ∈ dotted cs) (hc : c ≠ '.') : c ∈ cs := by
  fun_induction dotted cs with
  | case1 => exact h
  | case2 d => exact h
  | case3 d e rest hpair ih =>
      rcases List.mem_cons.mp h with rfl | h
      · exact absurd rfl hc
      · exact List.mem_cons_of_mem _ (List.mem_cons_of_mem _ (ih h))
  | case4 d e rest hpair ih =>
      rcases List.mem_cons.mp h with rfl | h
      · exact List.mem_cons_self
      · exact List.mem_cons_of_mem _ (ih h)

/-! ## Keys -/

/-- The segments are the whole text. -/
theorem flatten_segments (cs : List Char) : (segments cs).flatten = cs := by
  induction cs with
  | nil => rfl
  | cons c rest ih =>
      rw [segments]
      cases hrest : segments rest with
      | nil =>
          rw [hrest] at ih
          rw [← ih]
          rfl
      | cons s ss =>
          rw [hrest] at ih
          dsimp only
          by_cases hc : c = '.' ∨ c = '['
          · rw [if_pos hc, ← ih]
            rfl
          · rw [if_neg hc, ← ih]
            rfl

/-- The text can be a key of a path. -/
def IsKey (key : String) : Prop :=
  key ≠ "" ∧ '.' ∉ key.toList

theorem exists_key_of_keyOf? {step : Step} (h : keyOf? cs = some step) :
    ∃ key : String, step = .key key ∧ key.toList = cs ∧ IsKey key := by
  unfold keyOf? at h
  split at h
  · rename_i hchars
    simp only [Bool.and_eq_true, Bool.not_eq_true', List.isEmpty_eq_false_iff] at hchars
    obtain ⟨hne, hall⟩ := hchars
    cases h
    refine ⟨String.ofList cs, rfl, String.toList_ofList, fun hempty => ?_, fun hpoint => ?_⟩
    · exact hne (String.ofList_eq_empty_iff.mp hempty)
    · rw [String.toList_ofList] at hpoint
      exact absurd (List.all_eq_true.mp hall '.' hpoint) (by decide)
  · cases h

/-- The texts of the keys, with a point in front of each. -/
def pointed (keys : List String) : List Char :=
  keys.flatMap fun key => '.' :: key.toList

/-- Without brackets, the segments behind the first lead to keys. -/
theorem exists_keys_of_stepOf? {ss : List (List Char)} {path : Path}
    (hbracket : ∀ s ∈ ss, '[' ∉ s) (h : ss.mapM stepOf? = some path) :
    ∃ keys, path = keys.map .key ∧ ss.flatten = pointed keys ∧ ∀ key ∈ keys, IsKey key := by
  induction ss generalizing path with
  | nil =>
      cases h
      exact ⟨[], rfl, rfl, by simp⟩
  | cons s ss ih =>
      simp only [List.mapM_cons, Option.bind_eq_bind, Option.bind_eq_some_iff] at h
      obtain ⟨step, hstep, steps, hsteps, hpath⟩ := h
      cases hpath
      obtain ⟨hs, hss⟩ := List.forall_mem_cons.mp hbracket
      obtain ⟨keys, rfl, hflat, hkeys⟩ := ih hss hsteps
      unfold stepOf? at hstep
      split at hstep
      · rename_i cs
        obtain ⟨key, rfl, hchars, hkey⟩ := exists_key_of_keyOf? hstep
        refine ⟨key :: keys, rfl, ?_, List.forall_mem_cons.mpr ⟨hkey, hkeys⟩⟩
        rw [List.flatten_cons, hflat, pointed, pointed, List.flatMap_cons, hchars]
      · exact absurd List.mem_cons_self hs
      · cases hstep

/-- **A text without brackets denotes a path of keys**, which are the pieces between its points. -/
theorem exists_keys_of_pathOfText? {path : Path} (hbracket : '[' ∉ cs)
    (h : Path.ofText? cs = some path) :
    ∃ key keys, path = (key :: keys).map .key ∧ '.' :: cs = pointed (key :: keys) ∧
      ∀ k ∈ key :: keys, IsKey k := by
  have hflat := flatten_segments cs
  unfold Path.ofText? at h
  split at h
  · cases h
  · rename_i first others hsegments
    rw [hsegments] at hflat
    simp only [Option.bind_eq_bind, Option.bind_eq_some_iff] at h
    obtain ⟨step, hstep, steps, hsteps, hpath⟩ := h
    cases hpath
    obtain ⟨key, rfl, hchars, hkey⟩ := exists_key_of_keyOf? hstep
    have hothers : ∀ s ∈ others, '[' ∉ s := by
      intro s hs hmem
      apply hbracket
      rw [← hflat]
      exact List.mem_flatten.mpr ⟨s, List.mem_cons_of_mem first hs, hmem⟩
    obtain ⟨keys, rfl, hpointed, hkeys⟩ := exists_keys_of_stepOf? hothers hsteps
    refine ⟨key, keys, rfl, ?_, List.forall_mem_cons.mpr ⟨hkey, hkeys⟩⟩
    rw [← hflat, List.flatten_cons, hpointed, pointed, pointed, List.flatMap_cons, hchars]
    rfl

/-! ## The name of a path -/

/-- The texts of the keys, with two underscores in front of each. -/
def underscored (keys : List String) : List Char :=
  keys.flatMap fun key => "__".toList ++ key.toList

/-- The name of these keys, in lower case. -/
def nameText (keys : List String) : String :=
  "cohort_compiler" ++ String.ofList (underscored keys)

theorem undotted_pointed {keys : List String} (h : ∀ key ∈ keys, IsKey key) :
    undotted (pointed keys) = underscored keys := by
  induction keys with
  | nil => rfl
  | cons key keys ih =>
      obtain ⟨hkey, hkeys⟩ := List.forall_mem_cons.mp h
      show undotted (('.' :: key.toList) ++ pointed keys) = _
      rw [undotted_append, ih hkeys]
      show "__".toList ++ undotted key.toList ++ underscored keys = _
      rw [undotted_of_notMem hkey.2]
      rfl

/-- **A plain name that leads somewhere is the text of its keys**, in some case. -/
theorem exists_keys_of_target? {name : String} {path : Path} {isList : Bool} (hplain : IsPlain name)
    (h : target? name = some (path, isList)) :
    ∃ key keys, path = (key :: keys).map .key ∧ lower name = nameText (key :: keys) ∧
      ∀ k ∈ key :: keys, IsKey k := by
  rw [target?, Option.bind_eq_some_iff] at h
  obtain ⟨cs, hname, h⟩ := h
  obtain ⟨path, hpath, heq⟩ := Option.map_eq_some_iff.mp h
  cases heq
  rw [pathText?, Option.map_eq_some_iff] at hname
  obtain ⟨rest, hrest, rfl⟩ := hname
  have hlower : lowerChars name.toList = nameStart ++ rest := dropBeginning?_eq_some_iff.mp hrest
  have hchars : ∀ c ∈ rest, isNameChar c = true := by
    intro c hc
    apply isNameChar_of_mem_lowerChars hplain
    rw [hlower]
    exact List.mem_append_right _ hc
  have hpoint : '.' ∉ rest := fun hmem => absurd (hchars '.' hmem) (by decide)
  have hbracket : '[' ∉ dotted rest := fun hmem =>
    absurd (hchars '[' (mem_of_mem_dotted hmem (by decide))) (by decide)
  obtain ⟨key, keys, rfl, hpointed, hkeys⟩ := exists_keys_of_pathOfText? hbracket hpath
  refine ⟨key, keys, rfl, ?_, hkeys⟩
  have hunderscored : "__".toList ++ rest = underscored (key :: keys) := by
    rw [← undotted_pointed hkeys, ← hpointed]
    show _ = "__".toList ++ undotted (dotted rest)
    rw [undotted_dotted hpoint]
  have hstart : nameStart = "cohort_compiler".toList ++ "__".toList := by decide
  rw [lower, hlower, hstart, List.append_assoc, hunderscored, String.ofList_append,
    String.ofList_toList]
  rfl

theorem nameText_append (keys more : List String) :
    nameText (keys ++ more) = nameText keys ++ String.ofList (underscored more) := by
  have hkeys : underscored (keys ++ more) = underscored keys ++ underscored more :=
    List.flatMap_append
  show "cohort_compiler" ++ String.ofList (underscored (keys ++ more)) = _
  rw [hkeys, String.ofList_append, ← String.append_assoc]
  rfl

theorem lower_of_target? {name : String} {keys : List String} {isList : Bool} (hplain : IsPlain name)
    (h : target? name = some (keys.map .key, isList)) : lower name = nameText keys := by
  obtain ⟨key, others, hpath, hlower, -⟩ := exists_keys_of_target? hplain h
  have hkeys : keys = key :: others :=
    List.map_injective_iff.mpr (fun _ _ heq => Step.key.inj heq) hpath
  rw [hlower, hkeys]

/-- The other name goes on behind this one with two underscores and a further part, in any case. -/
def Extends (name other : String) : Prop :=
  ∃ part, part ≠ "" ∧ lower other = lower name ++ "__" ++ part

/-- A path that goes on behind another one has a name that does so. -/
theorem extends_of_lower_eq {name other : String} {keys more : List String}
    (hname : lower name = nameText keys) (hother : lower other = nameText (keys ++ more))
    (hne : more ≠ []) (h : ∀ key ∈ more, IsKey key) : Extends name other := by
  cases more with
  | nil => exact absurd rfl hne
  | cons key others =>
      refine ⟨key ++ String.ofList (underscored others), fun hempty => ?_, ?_⟩
      · exact (h key List.mem_cons_self).1 (String.append_eq_empty_iff.mp hempty).1
      · rw [hother, hname, nameText_append, underscored, List.flatMap_cons, String.ofList_append,
          String.ofList_append, String.ofList_toList, String.ofList_toList, String.append_assoc,
          String.append_assoc]
        rfl

theorem exists_part_iff {s t : String} :
    (∃ part, part ≠ "" ∧ t = s ++ part) ↔ s.toList <+: t.toList ∧ t ≠ s := by
  constructor
  · rintro ⟨part, hne, rfl⟩
    rw [String.toList_append]
    exact ⟨List.prefix_append _ _, fun hempty => hne (String.append_eq_left_iff.mp hempty)⟩
  · rintro ⟨⟨rest, hrest⟩, hne⟩
    have ht : t = s ++ String.ofList rest := by
      rw [← String.toList_inj, ← hrest, String.toList_append, String.toList_ofList]
    refine ⟨String.ofList rest, fun hempty => hne ?_, ht⟩
    rw [ht, hempty, String.append_empty]

instance : DecidableRel Extends := fun _ _ => decidable_of_iff' _ exists_part_iff

end Audience.Environment
