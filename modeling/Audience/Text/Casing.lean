import Audience.Text.CaseTable

/-!
# `Audience.Text.Casing` — full lower and upper case

Every character has a lower and an upper case that may be several characters (`İ` and `ß`). The only
character whose case depends on its neighbours is the capital sigma, which becomes `ς` at the end of
a word and `σ` elsewhere.

## Contents
- **Single characters.** `lowerChar` and `upperChar`.
- **The end of a word.** `meetsCased` and `endsWord`.
- **Texts.** `lowerChars`, `upperChars` on character lists, `lower` and `upper` on texts.
- **Laws.** `exists_of_mem_lowerChars`: where the characters of a text in lower case stem from.
  `lowerChars_eq_flatMap`, and `lowerChar_of_isAlphanum` for ASCII.
-/

namespace Audience.Text

/-! ## Single characters -/

/-- The character that a run of the table moves `c` to, and `c` itself where no run holds it. -/
def shiftBy (runs : List CaseRun) (c : Char) : Char :=
  match runs.find? (·.holds c.toNat) with
  | some r => Char.ofNat ((c.toNat : Int) + r.shift).toNat
  | none => c

/-- The lower case of one character: only `İ` has two characters. -/
def lowerChar (c : Char) : List Char :=
  if c.toNat < 0x80 then [c.toLower]
  else if c.toNat = 0x130 then ['i', Char.ofNat 0x307]
  else [shiftBy lowerRuns c]

/-- The upper case of one character. -/
def upperChar (c : Char) : List Char :=
  if c.toNat < 0x80 then [c.toUpper]
  else
    match upperExpansions.find? (·.code == c.toNat) with
    | some e => e.image.map Char.ofNat
    | none => [shiftBy upperRuns c]

/-! ## The end of a word -/

/-- The first character that is not case-ignorable is cased. -/
def meetsCased (cs : List Char) : Bool :=
  match cs.dropWhile (inRanges caseIgnorableRanges) with
  | c :: _ => inRanges casedRanges c
  | [] => false

/-- A sigma between these neighbours ends a word: `before` is the text in front of it, read
backwards, and `after` the text behind it. -/
def endsWord (before after : List Char) : Bool :=
  meetsCased before && !meetsCased after

/-! ## Texts -/

/-- The lower case of characters that follow `before`, which is read backwards. -/
def lowerAfter (before : List Char) : List Char → List Char
  | [] => []
  | c :: rest =>
      (if c = 'Σ' then [if endsWord before rest then 'ς' else 'σ'] else lowerChar c)
        ++ lowerAfter (c :: before) rest

/-- The lower case of a list of characters. -/
def lowerChars (cs : List Char) : List Char :=
  lowerAfter [] cs

/-- The upper case of a list of characters. -/
def upperChars (cs : List Char) : List Char :=
  cs.flatMap upperChar

/-- The text in lower case. -/
def lower (s : String) : String :=
  String.ofList (lowerChars s.toList)

/-- The text in upper case. -/
def upper (s : String) : String :=
  String.ofList (upperChars s.toList)

/-! ## Laws -/

/-- A character of a text in lower case stems from one of the text. -/
theorem exists_of_mem_lowerChars {cs : List Char} {d : Char} (h : d ∈ lowerChars cs) :
    ∃ c ∈ cs, d ∈ lowerChar c ∨ (c = 'Σ' ∧ d = 'ς') := by
  have hafter : ∀ before, d ∈ lowerAfter before cs →
      ∃ c ∈ cs, d ∈ lowerChar c ∨ (c = 'Σ' ∧ d = 'ς') := by
    clear h
    induction cs with
    | nil =>
        intro before h
        exact absurd h (by simp [lowerAfter])
    | cons c rest ih =>
        intro before h
        rw [lowerAfter] at h
        rcases List.mem_append.mp h with hfirst | hrest
        · refine ⟨c, List.mem_cons_self, ?_⟩
          by_cases hsigma : c = 'Σ'
          · subst hsigma
            rw [if_pos rfl, List.mem_singleton] at hfirst
            by_cases hend : endsWord before rest = true
            · rw [if_pos hend] at hfirst
              exact Or.inr ⟨rfl, hfirst⟩
            · rw [if_neg hend] at hfirst
              rw [hfirst]
              exact Or.inl (by decide)
          · rw [if_neg hsigma] at hfirst
            exact Or.inl hfirst
        · obtain ⟨c', hc', hstem⟩ := ih (c :: before) hrest
          exact ⟨c', List.mem_cons_of_mem c hc', hstem⟩
  exact hafter [] h

/-- Without a capital sigma every character is put in lower case on its own. -/
theorem lowerChars_eq_flatMap {cs : List Char} (h : 'Σ' ∉ cs) :
    lowerChars cs = cs.flatMap lowerChar := by
  have hafter : ∀ before, lowerAfter before cs = cs.flatMap lowerChar := by
    induction cs with
    | nil =>
        intro before
        rfl
    | cons c rest ih =>
        intro before
        rw [List.mem_cons, not_or] at h
        rw [lowerAfter, if_neg (Ne.symm h.1), ih h.2, List.flatMap_cons]
  exact hafter []

theorem toNat_lt_of_isAlphanum {c : Char} (h : c.isAlphanum = true) : c.toNat < 0x80 := by
  have hbelow : ∀ last : Char, last.toNat < 0x80 → c ≤ last → c.toNat < 0x80 := by
    intro last hlast hc
    exact Nat.lt_of_le_of_lt (UInt32.le_iff_toNat_le.mp hc) hlast
  -- each class of letters and digits ends within ASCII
  rcases Bool.or_eq_true_iff.mp h with hletter | hdigit
  · rcases Bool.or_eq_true_iff.mp hletter with hupper | hlower
    · exact hbelow 'Z' (by decide) (of_decide_eq_true hupper).2
    · exact hbelow 'z' (by decide) (of_decide_eq_true (Bool.and_eq_true_iff.mp hlower).2)
  · exact hbelow '9' (by decide) (of_decide_eq_true (Bool.and_eq_true_iff.mp hdigit).2)

/-- The lower case of a letter or a digit of ASCII is one as well. -/
theorem lowerChar_of_isAlphanum {c : Char} (h : c.isAlphanum = true) :
    lowerChar c = [c.toLower] ∧ c.toLower.isAlphanum = true := by
  have hc := toNat_lt_of_isAlphanum h
  refine ⟨if_pos hc, ?_⟩
  exact of_ascii (P := fun c => c.isAlphanum = true → c.toLower.isAlphanum = true) (by decide) hc h

/-! ## Examples -/

example : lower "ÀΣ ΑΣ" = "àς ας" := by decide +kernel

example : upper "straße ŉ" = "STRASSE ʼN" := by decide +kernel

end Audience.Text
