/-!
# `Audience.Text.Split` — lists of texts in one text

A list of texts is written as one text with a separator between neighbours, and taken apart again at
the separators.

## Contents
- **Taking apart.** `splitChars` and `split`.
- **Joining.** `joinChars` and `join`.
- **Laws.** `split_join`: what has been joined is taken apart again, as the library's splitting and
  joining of lists are. `separator_notMem_of_mem_split`: what is in the pieces.
  `split_append_separator`: taking apart goes on behind a separator.
-/

namespace Audience.Text

/-! ## Taking apart -/

/-- The pieces between the separators: one more than there are separators. -/
def splitChars (separator : Char) : List Char → List (List Char)
  | [] => [[]]
  | c :: rest =>
      if c = separator then [] :: splitChars separator rest
      else
        match splitChars separator rest with
        | [] => [[c]]
        | piece :: pieces => (c :: piece) :: pieces

/-- The pieces of a text between the separators. -/
def split (separator : Char) (s : String) : List String :=
  (splitChars separator s.toList).map String.ofList

/-! ## Joining -/

/-- The pieces with a separator between neighbours. -/
def joinChars (separator : Char) : List (List Char) → List Char
  | [] => []
  | [piece] => piece
  | piece :: pieces => piece ++ separator :: joinChars separator pieces

/-- The texts with a separator between neighbours. -/
def join (separator : Char) (pieces : List String) : String :=
  String.ofList (joinChars separator (pieces.map String.toList))

/-! ## Laws -/

theorem splitChars_ne_nil {separator : Char} {cs : List Char} : splitChars separator cs ≠ [] := by
  cases cs with
  | nil => simp [splitChars]
  | cons c rest =>
      unfold splitChars
      split
      · simp
      · split <;> simp

/-- What is in front of a separator and what is behind it are taken apart on their own. -/
theorem splitChars_append_cons (separator : Char) (as bs : List Char) :
    splitChars separator (as ++ separator :: bs) =
      splitChars separator as ++ splitChars separator bs := by
  induction as with
  | nil => simp [splitChars]
  | cons a as ih =>
      rw [List.cons_append, splitChars, splitChars, ih]
      by_cases ha : a = separator
      · rw [if_pos ha, if_pos ha, List.cons_append]
      · rw [if_neg ha, if_neg ha]
        cases has : splitChars separator as with
        | nil => exact absurd has splitChars_ne_nil
        | cons piece pieces => rfl

/-- Taking apart is the library's splitting of a list at an element. -/
theorem splitChars_eq_splitOn (separator : Char) (cs : List Char) :
    splitChars separator cs = cs.splitOn separator := by
  induction cs with
  | nil => rw [splitChars, List.splitOn_nil]
  | cons c rest ih =>
      rw [splitChars, List.splitOn_cons_eq_if_modifyHead, ← ih]
      by_cases hc : c = separator
      · rw [if_pos hc, if_pos (by simpa using hc)]
      · rw [if_neg hc, if_neg (by simpa using hc)]
        cases hs : splitChars separator rest with
        | nil => exact absurd hs splitChars_ne_nil
        | cons piece pieces => rfl

/-- Joining puts the separator in between. -/
theorem joinChars_eq_intercalate (separator : Char) (pieces : List (List Char)) :
    joinChars separator pieces = [separator].intercalate pieces := by
  induction pieces with
  | nil => rw [joinChars, List.intercalate_nil]
  | cons piece pieces ih =>
      cases pieces with
      | nil => rw [joinChars, List.intercalate_singleton]
      | cons next others =>
          rw [joinChars, ih, List.intercalate_cons_cons, List.append_assoc]
          · rfl
          · simp

/-- The pieces come back where there is one at least, and the separator is in none of them. -/
theorem splitChars_joinChars {separator : Char} {pieces : List (List Char)} (hne : pieces ≠ [])
    (h : ∀ piece ∈ pieces, separator ∉ piece) :
    splitChars separator (joinChars separator pieces) = pieces := by
  rw [splitChars_eq_splitOn, joinChars_eq_intercalate, List.splitOn_intercalate separator h hne]

/-- The separator is in none of the pieces. -/
theorem separator_notMem_of_mem_splitChars {separator : Char} {cs piece : List Char}
    (h : piece ∈ splitChars separator cs) : separator ∉ piece := by
  induction cs generalizing piece with
  | nil =>
      rw [splitChars, List.mem_singleton] at h
      simp [h]
  | cons c rest ih =>
      rw [splitChars] at h
      by_cases hc : c = separator
      · rw [if_pos hc] at h
        rcases List.mem_cons.mp h with rfl | h
        · simp
        · exact ih h
      · rw [if_neg hc] at h
        cases hrest : splitChars separator rest with
        | nil => exact absurd hrest splitChars_ne_nil
        | cons first pieces =>
            rw [hrest] at h ih
            rcases List.mem_cons.mp h with rfl | h
            · intro hmem
              rcases List.mem_cons.mp hmem with heq | hmem
              · exact hc heq.symm
              · exact ih List.mem_cons_self hmem
            · exact ih (List.mem_cons_of_mem first h)

theorem split_append_separator (separator : Char) (s t : String) :
    split separator (s ++ String.singleton separator ++ t) = split separator s ++ split separator t := by
  rw [split, String.toList_append, String.toList_append, String.toList_singleton, List.append_assoc,
    List.singleton_append, splitChars_append_cons, List.map_append, split, split]

theorem separator_notMem_of_mem_split {separator : Char} {s piece : String}
    (h : piece ∈ split separator s) : separator ∉ piece.toList := by
  obtain ⟨cs, hcs, rfl⟩ := List.mem_map.mp h
  rw [String.toList_ofList]
  exact separator_notMem_of_mem_splitChars hcs

/-- Taking a joined list of texts apart gives the texts. -/
theorem split_join {separator : Char} {pieces : List String} (hne : pieces ≠ [])
    (h : ∀ piece ∈ pieces, separator ∉ piece.toList) :
    split separator (join separator pieces) = pieces := by
  have hchars : ∀ cs ∈ pieces.map String.toList, separator ∉ cs := by
    intro cs hcs
    obtain ⟨piece, hpiece, rfl⟩ := List.mem_map.mp hcs
    exact h piece hpiece
  have hsome : pieces.map String.toList ≠ [] := by simpa using hne
  rw [split, join, String.toList_ofList, splitChars_joinChars hsome hchars, List.map_map]
  simp

/-- Where there is no separator, there is one piece. -/
theorem split_eq_singleton {separator : Char} {s : String} (h : separator ∉ s.toList) :
    split separator s = [s] := by
  have hjoin : join separator [s] = s := by simp [join, joinChars]
  have hsplit : split separator (join separator [s]) = [s] :=
    split_join (by simp) (List.forall_mem_singleton.mpr h)
  rw [hjoin] at hsplit
  exact hsplit

end Audience.Text
