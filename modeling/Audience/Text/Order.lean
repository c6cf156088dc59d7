/-!
# `Audience.Text.Order` — texts in the order of their code points

Texts are compared character by character, and a text comes before its continuations. The order is
decided by a `Bool`, so that sorted lists of texts evaluate.

## Contents
- **The order.** `charsBefore` on character lists, `before` on texts.
- **Laws.** It is irreflexive, transitive and total: `before_irrefl`, `before_trans`,
  `eq_of_not_before`.
-/

namespace Audience.Text

/-! ## The order -/

/-- The first list comes strictly before the second. -/
def charsBefore : List Char → List Char → Bool
  | _, [] => false
  | [], _ :: _ => true
  | a :: as, b :: bs => if a.toNat = b.toNat then charsBefore as bs else a.toNat < b.toNat

/-- The first text comes strictly before the second. -/
def before (s t : String) : Bool :=
  charsBefore s.toList t.toList

/-! ## Laws -/

theorem charsBefore_irrefl (as : List Char) : charsBefore as as = false := by
  induction as with
  | nil => rfl
  | cons a as ih => simpa [charsBefore] using ih

theorem charsBefore_trans {as bs cs : List Char} (h : charsBefore as bs = true)
    (h' : charsBefore bs cs = true) : charsBefore as cs = true := by
  induction as generalizing bs cs with
  | nil =>
      cases cs with
      | nil => cases bs <;> simp [charsBefore] at h'
      | cons c cs => rfl
  | cons a as ih =>
      cases bs with
      | nil => simp [charsBefore] at h
      | cons b bs =>
          cases cs with
          | nil => simp [charsBefore] at h'
          | cons c cs =>
              simp only [charsBefore] at h h' ⊢
              split at h
              · rename_i hab
                rw [hab]
                split at h'
                · rename_i hbc
                  rw [if_pos hbc]
                  exact ih h h'
                · rename_i hbc
                  rw [if_neg hbc]
                  exact h'
              · rename_i hab
                split at h'
                · rename_i hbc
                  rw [← hbc, if_neg hab]
                  exact h
                · have h1 : a.toNat < b.toNat := by simpa using h
                  have h2 : b.toNat < c.toNat := by simpa using h'
                  rw [if_neg (by omega)]
                  simpa using Nat.lt_trans h1 h2

theorem eq_of_not_charsBefore {as bs : List Char} (h : charsBefore as bs = false)
    (h' : charsBefore bs as = false) : as = bs := by
  induction as generalizing bs with
  | nil =>
      cases bs with
      | nil => rfl
      | cons b bs => simp [charsBefore] at h
  | cons a as ih =>
      cases bs with
      | nil => simp [charsBefore] at h'
      | cons b bs =>
          simp only [charsBefore] at h h'
          by_cases hab : a.toNat = b.toNat
          · rw [if_pos hab] at h
            rw [if_pos hab.symm] at h'
            rw [Char.toNat_inj.mp hab, ih h h']
          · rw [if_neg hab] at h
            rw [if_neg (fun hba => hab hba.symm)] at h'
            simp at h h'
            omega

/-- No text comes before itself. -/
theorem before_irrefl (s : String) : before s s = false :=
  charsBefore_irrefl s.toList

/-- The order is transitive. -/
theorem before_trans {s t u : String} (h : before s t = true) (h' : before t u = true) :
    before s u = true :=
  charsBefore_trans h h'

/-- Of two different texts one comes before the other. -/
theorem eq_of_not_before {s t : String} (h : before s t = false) (h' : before t s = false) :
    s = t :=
  String.toList_inj.mp (eq_of_not_charsBefore h h')

end Audience.Text
