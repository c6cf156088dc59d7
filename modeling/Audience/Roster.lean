import Audience.Text.Blank
import Audience.Text.Order

/-!
# `Audience.Roster` — ascending lists without blanks and repetitions

The lists of a definition become rosters before anything is built from them: the entries of a roster
ascend strictly and none of them is blank. A roster is made of the entries of any lists, whatever their
order and however often they occur.

## Contents
- **Entries.** `Entry`, the types that rosters are made of, with `String` and `Int`.
- **Rosters.** `insert`, `sorted`, `ofList`, `union` and `add`.
- **Reading.** `mem_ofList` and `ascending_ofList`: what a roster holds, and that it ascends.
-/

namespace Audience.Roster

open Text

/-! ## Entries -/

/-- A type whose values have a strict total order, and some of which are blank. -/
class Entry (α : Type) where
  before : α → α → Bool
  isBlank : α → Bool
  before_irrefl : ∀ a, before a a = false
  before_trans : ∀ {a b c}, before a b = true → before b c = true → before a c = true
  eq_of_not_before : ∀ {a b}, before a b = false → before b a = false → a = b

/-- Texts in the order of their code points. -/
instance : Entry String where
  before := Text.before
  isBlank := Text.isBlank
  before_irrefl := Text.before_irrefl
  before_trans := Text.before_trans
  eq_of_not_before := Text.eq_of_not_before

/-- Integers are never blank. -/
instance : Entry Int where
  before a b := a < b
  isBlank _ := false
  before_irrefl a := by simp
  before_trans h h' := by
    simp only [decide_eq_true_eq] at h h' ⊢
    omega
  eq_of_not_before h h' := by
    simp only [decide_eq_false_iff_not] at h h'
    omega

/-! ## Rosters -/

variable {α : Type} [Entry α]

/-- The entry in its place; it is not repeated. -/
def insert (a : α) : List α → List α
  | [] => [a]
  | b :: rest =>
      if Entry.before a b then a :: b :: rest
      else if Entry.before b a then b :: insert a rest
      else b :: rest

/-- All entries of a list, ascending and without repetitions. -/
def sorted (as : List α) : List α :=
  as.foldr insert []

/-- The roster of the entries of a list that are not blank. -/
def ofList (as : List α) : List α :=
  sorted (as.filter fun a => !Entry.isBlank a)

/-- The roster of the entries of two lists. -/
def union (as bs : List α) : List α :=
  ofList (as ++ bs)

/-- The roster of the entries of a list and one more. -/
def add (as : List α) (a : α) : List α :=
  union as [a]

/-! ## Reading -/

/-- Every entry comes before the ones behind it. -/
def Ascending (as : List α) : Prop :=
  as.Pairwise fun a b => Entry.before a b = true

theorem mem_insert {a b : α} {as : List α} : b ∈ insert a as ↔ b = a ∨ b ∈ as := by
  induction as with
  | nil => simp [insert]
  | cons c rest ih =>
      unfold insert
      split
      · simp
      · split
        · simp [ih, or_left_comm]
        · rename_i h h'
          have hac : a = c := Entry.eq_of_not_before (by simpa using h) (by simpa using h')
          simp [hac]

theorem ascending_insert {a : α} {as : List α} (h : Ascending as) : Ascending (insert a as) := by
  induction as with
  | nil => simp [insert, Ascending]
  | cons c rest ih =>
      obtain ⟨hc, hrest⟩ := List.pairwise_cons.mp h
      unfold insert
      split
      · rename_i hac
        refine List.pairwise_cons.mpr ⟨?_, h⟩
        intro b hb
        rcases List.mem_cons.mp hb with rfl | hb
        · exact hac
        · exact Entry.before_trans hac (hc b hb)
      · split
        · rename_i hca
          refine List.pairwise_cons.mpr ⟨?_, ih hrest⟩
          intro b hb
          rcases mem_insert.mp hb with rfl | hb
          · exact hca
          · exact hc b hb
        · exact h

theorem mem_sorted {a : α} {as : List α} : a ∈ sorted as ↔ a ∈ as := by
  induction as with
  | nil => simp [sorted]
  | cons b rest ih =>
      have h : sorted (b :: rest) = insert b (sorted rest) := rfl
      rw [h, mem_insert, ih, List.mem_cons]

theorem ascending_sorted (as : List α) : Ascending (sorted as) := by
  induction as with
  | nil => simp [sorted, Ascending]
  | cons b rest ih => exact ascending_insert ih

/-- The entries of the roster are those of the list that are not blank. -/
theorem mem_ofList {a : α} {as : List α} : a ∈ ofList as ↔ a ∈ as ∧ Entry.isBlank a = false := by
  simp [ofList, mem_sorted]

theorem ascending_ofList (as : List α) : Ascending (ofList as) :=
  ascending_sorted _

end Audience.Roster
