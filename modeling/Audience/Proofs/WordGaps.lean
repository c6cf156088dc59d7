import Audience.Proofs.KeywordBlanks

/-!
# `Audience.Proofs.WordGaps` — slugs keep half of every gap between words

Between the words of a keyword each pair of spaces is collapsed, once and from the left, which leaves
half of a gap, rounded up. One or two spaces become one, while of three spaces two are left. The words
do not matter for this, and neither do the gaps for the words: what is behind a space never decides the
lower case of a letter. Hence two spacings of the same words have the same slugs exactly when the halves
of their gaps agree, for the raw slug shows every space that is left.

## Contents
- **Words and gaps.** `IsWord`, `spread` and `halved`.
- **Lower case.** `lowerChars_spread`: words are put in lower case one by one.
- **Collapsing.** `collapse_spread`: collapsing halves the gaps.
- **Telling spacings apart.** `spread_gaps_inj` on texts, and `baseSlugs_spread_inj` on slugs.
- **Gaps in a keyword.** `base_spread` and `slugs_spread_iff`.
-/

namespace Audience.Keyword

open Text

variable {cs cs' rest first : List Char} {more more' : List (Nat × List Char)}

/-! ## Words and gaps -/

/-- The text has a character, and none of its characters is blank. -/
structure IsWord (w : List Char) : Prop where
  ne_nil : w ≠ []
  not_blank : ∀ c ∈ w, isBlankChar c = false

instance : DecidablePred IsWord := fun w =>
  decidable_of_iff (w ≠ [] ∧ (w.all fun c => !isBlankChar c) = true)
    ⟨fun h => ⟨h.1, by simpa using h.2⟩, fun h => ⟨h.ne_nil, by simpa using h.not_blank⟩⟩

/-- The first word, and behind it further words, each with the number of spaces in front of it. -/
def spread (first : List Char) : List (Nat × List Char) → List Char
  | [] => first
  | (gap, word) :: more => first ++ (List.replicate gap ' ' ++ spread word more)

/-- What is left of a gap when pairs of spaces are collapsed. -/
def halved (gap : Nat) : Nat :=
  (gap + 1) / 2

theorem IsWord.space_notMem {w : List Char} (h : IsWord w) : ' ' ∉ w := by
  intro hspace
  have hblank : isBlankChar ' ' = false := h.not_blank ' ' hspace
  exact absurd hblank (by decide)

theorem head?_spread (h : first ≠ []) : (spread first more).head? = first.head? := by
  cases more with
  | nil => rfl
  | cons g more => exact List.head?_append_of_ne_nil _ h

theorem spread_ne_nil (h : first ≠ []) : spread first more ≠ [] := by
  intro hnil
  have hhead : (spread first more).head? = first.head? := head?_spread h
  rw [hnil] at hhead
  exact h (List.head?_eq_none_iff.mp hhead.symm)

/-- A text ends as its last word does. -/
theorem getLast?_spread (h : ∀ g ∈ more, g.2 ≠ []) :
    (spread first more).getLast? = ((more.map Prod.snd).getLast?.getD first).getLast? := by
  induction more generalizing first with
  | nil => rfl
  | cons g more ih =>
      obtain ⟨hg, hmore⟩ := List.forall_mem_cons.mp h
      have hne : spread g.2 more ≠ [] := spread_ne_nil hg
      rw [spread, List.getLast?_append_of_ne_nil _ (by simp [hne]),
        List.getLast?_append_of_ne_nil _ hne, ih hmore, List.map_cons, List.getLast?_cons,
        Option.getD_some]

/-- A text of words has nothing to trim. -/
theorem trimChars_spread (hfirst : IsWord first) (hmore : ∀ g ∈ more, IsWord g.2) :
    trimChars (spread first more) = spread first more := by
  have hbetween : trimChars ([] ++ spread first more ++ []) = spread first more := by
    refine trimChars_between ?_ ?_ (by simp) (by simp)
    · intro c hc
      rw [head?_spread hfirst.ne_nil] at hc
      exact hfirst.not_blank c (List.mem_of_head? hc)
    · intro c hc
      rw [getLast?_spread fun g hg => (hmore g hg).ne_nil] at hc
      -- the last character is one of the last word, whichever that is
      cases hlast : (more.map Prod.snd).getLast? with
      | none =>
          rw [hlast] at hc
          exact hfirst.not_blank c (List.mem_of_getLast? hc)
      | some w =>
          rw [hlast] at hc
          obtain ⟨g, hg, rfl⟩ := List.mem_map.mp (List.mem_of_getLast? hlast)
          exact (hmore g hg).not_blank c (List.mem_of_getLast? hc)
  rwa [List.nil_append, List.append_nil] at hbetween

/-! ## Lower case -/

/-- A run of the case data cannot lead to a character that it never reaches. -/
theorem eq_of_shiftBy {runs : List CaseRun} {c d : Char} (hd : d.toNat ≠ 0)
    (hmiss : ∀ r ∈ runs, 0 ≤ r.first + r.shift ∧
      (r.last + r.shift < d.toNat ∨ d.toNat < r.first + r.shift))
    (h : shiftBy runs c = d) : c = d := by
  unfold shiftBy at h
  split at h
  · rename_i r hfind
    obtain ⟨hpos, hout⟩ := hmiss r (List.mem_of_find?_eq_some hfind)
    have hholds := List.find?_some hfind
    simp only [CaseRun.holds, Bool.and_eq_true, decide_eq_true_eq] at hholds
    obtain ⟨⟨hlow, hhigh⟩, -⟩ := hholds
    rw [← h] at hd hout
    rcases toNat_ofNat_eq_or (((c.toNat : Int) + r.shift).toNat) with hn | hn
    · rw [hn] at hout
      omega
    · exact absurd hn hd
  · exact h

theorem lowerRuns_miss_space : ∀ r ∈ lowerRuns, 0 ≤ r.first + r.shift ∧
    (r.last + r.shift < ' '.toNat ∨ ' '.toNat < r.first + r.shift) := by
  decide +kernel

/-- No other character has a space in its lower case. -/
theorem eq_space_of_mem_lowerChar {c : Char} (h : ' ' ∈ lowerChar c) : c = ' ' := by
  unfold lowerChar at h
  split at h
  · rename_i hc
    exact of_ascii (P := fun c => ' ' = c.toLower → c = ' ') (by decide) hc (List.mem_singleton.mp h)
  · split at h
    · exact absurd h (by decide)
    · exact eq_of_shiftBy (by decide) lowerRuns_miss_space (List.mem_singleton.mp h).symm

theorem space_notMem_lowerChars (h : ' ' ∉ cs) : ' ' ∉ lowerChars cs := by
  intro hmem
  obtain ⟨c, hc, hlower | ⟨-, hsigma⟩⟩ := exists_of_mem_lowerChars hmem
  · exact h (eq_space_of_mem_lowerChar hlower ▸ hc)
  · exact absurd hsigma (by decide)

theorem IsWord.lowered {w : List Char} (h : IsWord w) : lowerChars w ≠ [] ∧ ' ' ∉ lowerChars w :=
  ⟨fun hnil => h.ne_nil (lowerAfter_eq_nil_iff.mp hnil), space_notMem_lowerChars h.space_notMem⟩

/-- A space is neither ignored nor cased, so nothing is seen beyond it. -/
theorem meetsCased_append_space (cs rest : List Char) :
    meetsCased (cs ++ ' ' :: rest) = meetsCased cs := by
  have hignorable : ¬ inRanges caseIgnorableRanges ' ' = true := by decide +kernel
  have hcased : inRanges casedRanges ' ' = false := by decide
  unfold meetsCased
  induction cs with
  | nil =>
      rw [List.nil_append, List.dropWhile_cons_of_neg hignorable]
      exact hcased
  | cons c cs ih =>
      rw [List.cons_append]
      by_cases hc : inRanges caseIgnorableRanges c = true
      · rw [List.dropWhile_cons_of_pos hc, List.dropWhile_cons_of_pos hc]
        exact ih
      · rw [List.dropWhile_cons_of_neg hc, List.dropWhile_cons_of_neg hc]

theorem lowerAfter_behind_space (near before cs : List Char) :
    lowerAfter (near ++ ' ' :: before) cs = lowerAfter near cs := by
  induction cs generalizing near with
  | nil => rfl
  | cons c rest ih =>
      have hends : endsWord (near ++ ' ' :: before) rest = endsWord near rest := by
        rw [endsWord, meetsCased_append_space, endsWord]
      rw [lowerAfter, hends, ← List.cons_append, ih, lowerAfter]

/-- **What is behind a space is put in lower case apart from what is in front of it.** -/
theorem lowerAfter_append_space (before cs rest : List Char) :
    lowerAfter before (cs ++ ' ' :: rest) = lowerAfter before cs ++ ' ' :: lowerChars rest := by
  induction cs generalizing before with
  | nil =>
      have hspace : lowerAfter before (' ' :: rest) = [' '] ++ lowerAfter (' ' :: before) rest := by
        rw [lowerAfter, if_neg (by decide), show lowerChar ' ' = [' '] by decide]
      rw [List.nil_append, hspace]
      exact congrArg (' ' :: ·) (lowerAfter_behind_space [] before rest)
  | cons c cs ih =>
      have hends : endsWord before (cs ++ ' ' :: rest) = endsWord before cs := by
        rw [endsWord, meetsCased_append_space, endsWord]
      rw [List.cons_append, lowerAfter, hends, ih, lowerAfter, List.append_assoc]

theorem lowerChars_append_gap {gap : Nat} (hgap : 0 < gap) (cs rest : List Char) :
    lowerChars (cs ++ (List.replicate gap ' ' ++ rest)) =
      lowerChars cs ++ (List.replicate gap ' ' ++ lowerChars rest) := by
  have hspaces : ∀ n, lowerChars (List.replicate n ' ' ++ rest) =
      List.replicate n ' ' ++ lowerChars rest := by
    intro n
    induction n with
    | zero => rfl
    | succ n ih =>
        rw [List.replicate_succ, List.cons_append, List.cons_append, ← ih]
        exact lowerAfter_append_space [] [] _
  obtain ⟨n, rfl⟩ := Nat.exists_eq_succ_of_ne_zero (Nat.ne_of_gt hgap)
  rw [List.replicate_succ, List.cons_append, lowerChars, lowerAfter_append_space, hspaces]
  rfl

/-- **Words are put in lower case one by one.** -/
theorem lowerChars_spread (h : ∀ g ∈ more, 0 < g.1) :
    lowerChars (spread first more) =
      spread (lowerChars first) (more.map (Prod.map id lowerChars)) := by
  induction more generalizing first with
  | nil => rfl
  | cons g more ih =>
      obtain ⟨hg, hmore⟩ := List.forall_mem_cons.mp h
      rw [spread, lowerChars_append_gap hg, ih hmore]
      rfl

/-! ## Collapsing -/

theorem collapse_cons_of_ne {c : Char} (hc : c ≠ ' ') : collapse (c :: rest) = c :: collapse rest := by
  cases rest with
  | nil => rfl
  | cons d rest =>
      rw [collapse, if_neg]
      exact fun h => hc h.1

/-- Collapsing leaves words as they are. -/
theorem collapse_append (h : ' ' ∉ cs) : collapse (cs ++ rest) = cs ++ collapse rest := by
  induction cs with
  | nil => rfl
  | cons c cs ih =>
      rw [List.mem_cons, not_or] at h
      rw [List.cons_append, collapse_cons_of_ne fun hc => h.1 hc.symm, ih h.2]
      rfl

/-- **Collapsing halves a gap**, two spaces at a time; a last one is left over. -/
theorem collapse_gap (h : rest.head? ≠ some ' ') (gap : Nat) :
    collapse (List.replicate gap ' ' ++ rest) =
      List.replicate (halved gap) ' ' ++ collapse rest := by
  induction gap using Nat.twoStepInduction with
  | zero => rfl
  | one =>
      cases rest with
      | nil => rfl
      | cons c rest =>
          have hc : c ≠ ' ' := by simpa using h
          show collapse (' ' :: c :: rest) = ' ' :: collapse (c :: rest)
          rw [collapse, if_neg]
          exact fun heq => hc heq.2
  | more n ih _ =>
      have hhalved : halved (n + 2) = halved n + 1 := by
        unfold halved
        omega
      show collapse (' ' :: ' ' :: (List.replicate n ' ' ++ rest)) = _
      rw [collapse, if_pos ⟨rfl, rfl⟩, ih, hhalved, List.replicate_succ]
      rfl

theorem collapse_spread (hfirst : ' ' ∉ first) (hmore : ∀ g ∈ more, g.2 ≠ [] ∧ ' ' ∉ g.2) :
    collapse (spread first more) = spread first (more.map (Prod.map halved id)) := by
  induction more generalizing first with
  | nil =>
      have hwhole : collapse (first ++ []) = first ++ collapse [] := collapse_append hfirst
      rwa [collapse, List.append_nil] at hwhole
  | cons g more ih =>
      obtain ⟨⟨hne, hg⟩, hmore⟩ := List.forall_mem_cons.mp hmore
      have hhead : (spread g.2 more).head? ≠ some ' ' := by
        rw [head?_spread hne]
        exact fun h => hg (List.mem_of_head? h)
      rw [spread, collapse_append hfirst, collapse_gap hhead, ih hg hmore]
      rfl

/-! ## Telling spacings apart -/

/-- Spaces in front of something else can be counted. -/
theorem replicate_append_inj {n m : Nat} {as bs : List Char} (has : as.head? ≠ some ' ')
    (hbs : bs.head? ≠ some ' ')
    (h : List.replicate n ' ' ++ as = List.replicate m ' ' ++ bs) : n = m ∧ as = bs := by
  induction n generalizing m with
  | zero =>
      cases m with
      | zero => exact ⟨rfl, h⟩
      | succ m =>
          rw [show List.replicate 0 ' ' ++ as = as from rfl] at h
          exact absurd (congrArg List.head? h) has
  | succ n ih =>
      cases m with
      | zero =>
          rw [show List.replicate 0 ' ' ++ bs = bs from rfl] at h
          exact absurd (congrArg List.head? h).symm hbs
      | succ m =>
          rw [List.replicate_succ, List.replicate_succ, List.cons_append, List.cons_append] at h
          obtain ⟨hn, has⟩ := ih (List.cons.inj h).2
          exact ⟨congrArg (· + 1) hn, has⟩

/-- The gaps can be read off a text of words that are known. -/
theorem spread_gaps_inj (hmore : ∀ g ∈ more, g.2 ≠ [] ∧ ' ' ∉ g.2)
    (hwords : more.map Prod.snd = more'.map Prod.snd) (h : spread first more = spread first more') :
    more = more' := by
  induction more generalizing first more' with
  | nil => exact (List.map_eq_nil_iff.mp hwords.symm).symm
  | cons g more ih =>
      cases more' with
      | nil => exact absurd hwords (by simp)
      | cons g' more' =>
          obtain ⟨⟨hne, hg⟩, hmore⟩ := List.forall_mem_cons.mp hmore
          obtain ⟨hword, hwords⟩ := List.cons.inj hwords
          have hhead : ∀ {more}, (spread g.2 more).head? ≠ some ' ' := by
            intro more hspace
            rw [head?_spread hne] at hspace
            exact hg (List.mem_of_head? hspace)
          have hrest : List.replicate g.1 ' ' ++ spread g.2 more =
              List.replicate g'.1 ' ' ++ spread g'.2 more' := List.append_cancel_left h
          rw [← hword] at hrest
          obtain ⟨hgap, hspread⟩ := replicate_append_inj hhead hhead hrest
          rw [ih hmore hwords hspread, show g = g' from Prod.ext hgap hword]

/-- No character is folded to a space. -/
theorem space_notMem_fold (cs : List Char) : ' ' ∉ fold cs := by
  intro hmem
  obtain ⟨c, -, hc⟩ := List.mem_map.mp hmem
  have hplain : ∀ pair ∈ accents, pair.2 ≠ ' ' := by decide
  unfold foldAccent at hc
  split at hc
  · rename_i accented plain hfind
    exact hplain (accented, plain) (List.mem_of_find?_eq_some hfind) hc
  · unfold foldSpace at hc
    split at hc
    · exact absurd hc (by decide)
    · rename_i hspace
      exact hspace hc

/-- Two bases with spaces that begin and end alike have different slugs: a raw slug that shows a space is
no folded one, and the hyphens around both are the same. -/
theorem baseSlugs_inj (hspace : ' ' ∈ cs) (hspace' : ' ' ∈ cs')
    (hhead : cs.head? = cs'.head?) (hlast : cs.getLast? = cs'.getLast?)
    (h : baseSlugs cs = baseSlugs cs') : cs = cs' := by
  have hne : cs ≠ [] := List.ne_nil_of_mem hspace
  have hne' : cs' ≠ [] := List.ne_nil_of_mem hspace'
  have hraw : rawSlug cs ∈ baseSlugs cs' := by
    rw [← h]
    exact mem_baseSlugs.mpr ⟨hne, Or.inl rfl⟩
  rcases (mem_baseSlugs.mp hraw).2 with hslug | hslug
  · have hhyphened : hyphened cs = hyphened cs' := by
      rw [← String.toList_inj, toList_rawSlug hne, toList_rawSlug hne'] at hslug
      exact Percent.encode_inj hslug
    rw [hyphened, hyphened, missingStart, missingStart, missingEnd, missingEnd, hhead, hlast] at hhyphened
    exact List.append_cancel_left (List.append_cancel_right hhyphened)
  · have hhyphened : hyphened cs = hyphened (fold cs') := by
      rw [← String.toList_inj, toList_rawSlug hne, toList_foldedSlug hne'] at hslug
      exact Percent.encode_inj hslug
    have hmem : ' ' ∈ hyphened (fold cs') := by
      rw [← hhyphened]
      exact (mem_hyphened_iff (by decide)).mpr hspace
    exact absurd ((mem_hyphened_iff (by decide)).mp hmem) (space_notMem_fold cs')

/-- **The gaps can be read off the slugs** of a base whose words are known. -/
theorem baseSlugs_spread_inj (hfirst : first ≠ [])
    (hmore : ∀ g ∈ more, 0 < g.1 ∧ g.2 ≠ [] ∧ ' ' ∉ g.2)
    (hmore' : ∀ g ∈ more', 0 < g.1 ∧ g.2 ≠ [] ∧ ' ' ∉ g.2)
    (hwords : more.map Prod.snd = more'.map Prod.snd)
    (h : baseSlugs (spread first more) = baseSlugs (spread first more')) : more = more' := by
  have hspace : ∀ {g : Nat × List Char} {ms}, 0 < g.1 → ' ' ∈ spread first (g :: ms) := by
    intro g ms hg
    have hgap : ' ' ∈ List.replicate g.1 ' ' := List.mem_replicate.mpr ⟨Nat.ne_of_gt hg, rfl⟩
    exact List.mem_append_right _ (List.mem_append_left _ hgap)
  cases more with
  | nil => exact (List.map_eq_nil_iff.mp hwords.symm).symm
  | cons g ms =>
      cases more' with
      | nil => exact absurd hwords (by simp)
      | cons g' ms' =>
          have hbases : spread first (g :: ms) = spread first (g' :: ms') := by
            refine baseSlugs_inj (hspace (hmore g List.mem_cons_self).1)
              (hspace (hmore' g' List.mem_cons_self).1) ?_ ?_ h
            · rw [head?_spread hfirst, head?_spread hfirst]
            · rw [getLast?_spread fun g hg => (hmore g hg).2.1,
                getLast?_spread fun g hg => (hmore' g hg).2.1, hwords]
          exact spread_gaps_inj (fun g hg => (hmore g hg).2) hwords hbases

/-! ## Gaps in a keyword -/

/-- **The base of spaced words**: the words in lower case, and half of each gap. -/
theorem base_spread (hfirst : IsWord first) (hmore : ∀ g ∈ more, 0 < g.1 ∧ IsWord g.2) :
    base (String.ofList (spread first more)) =
      spread (lowerChars first) (more.map (Prod.map halved lowerChars)) := by
  have hlowered : ∀ g ∈ more.map (Prod.map id lowerChars), g.2 ≠ [] ∧ ' ' ∉ g.2 :=
    List.forall_mem_map.mpr fun g hg => (hmore g hg).2.lowered
  rw [base, String.toList_ofList, trimChars_spread hfirst fun g hg => (hmore g hg).2,
    lowerChars_spread fun g hg => (hmore g hg).1,
    collapse_spread hfirst.lowered.2 hlowered, List.map_map,
    Prod.map_comp_map]
  rfl

theorem isPath_spread_iff (h : first ≠ []) :
    IsPath (String.ofList (spread first more)) ↔ first.head? = some '/' := by
  rw [IsPath, String.toList_ofList, head?_spread h]

/-- Gaps and words are all there is to a spacing. -/
theorem map_halved_eq_zip (more : List (Nat × List Char)) :
    more.map (Prod.map halved lowerChars) =
      (more.map fun g => halved g.1).zip ((more.map Prod.snd).map lowerChars) := by
  rw [List.map_map, List.zip_map']
  rfl

/-- **Two spacings of the same words have the same slugs when collapsing leaves the same of their gaps**,
and only then, unless the first word makes both of them paths. -/
theorem slugs_spread_iff (hfirst : IsWord first) (hmore : ∀ g ∈ more, 0 < g.1 ∧ IsWord g.2)
    (hmore' : ∀ g ∈ more', 0 < g.1 ∧ IsWord g.2) (hwords : more.map Prod.snd = more'.map Prod.snd) :
    slugs [String.ofList (spread first more)] = slugs [String.ofList (spread first more')] ↔
      first.head? = some '/' ∨
        (more.map fun g => halved g.1) = more'.map fun g => halved g.1 := by
  have hpath : ∀ {ms : List (Nat × List Char)},
      IsPath (String.ofList (spread first ms)) ↔ first.head? = some '/' :=
    isPath_spread_iff hfirst.ne_nil
  by_cases hslash : first.head? = some '/'
  · rw [slugs_of_isPath (hpath.mpr hslash), slugs_of_isPath (hpath.mpr hslash)]
    exact iff_of_true rfl (Or.inl hslash)
  rw [slugs_of_not_isPath fun h => hslash (hpath.mp h),
    slugs_of_not_isPath fun h => hslash (hpath.mp h), base_spread hfirst hmore,
    base_spread hfirst hmore', or_iff_right hslash]
  constructor
  · intro hslugs
    have hlowered : ∀ {ms : List (Nat × List Char)}, (∀ g ∈ ms, 0 < g.1 ∧ IsWord g.2) →
        ∀ g ∈ ms.map (Prod.map halved lowerChars), 0 < g.1 ∧ g.2 ≠ [] ∧ ' ' ∉ g.2 := by
      intro ms hms
      refine List.forall_mem_map.mpr fun g hg => ⟨?_, (hms g hg).2.lowered⟩
      have hgap : 0 < g.1 := (hms g hg).1
      show 0 < halved g.1
      unfold halved
      omega
    have hsnd : (more.map (Prod.map halved lowerChars)).map Prod.snd =
        (more'.map (Prod.map halved lowerChars)).map Prod.snd := by
      rw [List.map_map, List.map_map, Prod.map_snd', ← List.map_map, ← List.map_map, hwords]
    have hspacings := baseSlugs_spread_inj hfirst.lowered.1 (hlowered hmore) (hlowered hmore') hsnd
      hslugs
    have hgaps := congrArg (List.map Prod.fst) hspacings
    rw [List.map_map, List.map_map] at hgaps
    exact hgaps
  · intro hgaps
    rw [map_halved_eq_zip, map_halved_eq_zip, hgaps, hwords]

/-- A gap of two spaces is as good as one. -/
theorem road_trip_gaps :
    IsWord "road".toList ∧
    (∀ g ∈ [(1, "trip".toList), (2, "Σ".toList)], 0 < g.1 ∧ IsWord g.2) ∧
    (∀ g ∈ [(2, "trip".toList), (1, "Σ".toList)], 0 < g.1 ∧ IsWord g.2) ∧
    slugs [String.ofList (spread "road".toList [(1, "trip".toList), (2, "Σ".toList)])] =
      slugs [String.ofList (spread "road".toList [(2, "trip".toList), (1, "Σ".toList)])] := by
  have hroad : IsWord "road".toList := by decide
  have hmore : ∀ g ∈ [(1, "trip".toList), (2, "Σ".toList)], 0 < g.1 ∧ IsWord g.2 := by decide
  have hmore' : ∀ g ∈ [(2, "trip".toList), (1, "Σ".toList)], 0 < g.1 ∧ IsWord g.2 := by decide
  exact ⟨hroad, hmore, hmore', (slugs_spread_iff hroad hmore hmore' rfl).mpr (Or.inr rfl)⟩

/-- **A gap of three spaces is not as good as one.** -/
theorem three_spaces_leave_two :
    IsWord "road".toList ∧ IsWord "trip".toList ∧
    slugs [String.ofList (spread "road".toList [(1, "trip".toList)])] =
      ["-road%20trip-", "-road-trip-"] ∧
    slugs [String.ofList (spread "road".toList [(3, "trip".toList)])] =
      ["-road%20%20trip-", "-road--trip-"] := by
  decide +kernel

end Audience.Keyword
