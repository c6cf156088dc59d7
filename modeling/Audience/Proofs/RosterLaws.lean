import Audience.Definition.Basic
import Audience.Proofs.RosterSet

/-!
# `Audience.Proofs.RosterLaws` — uniting lists is uniting sets

A union is the roster of the entries of two lists, and a roster is determined by its entries. So the laws
of union are those of sets: it does not matter which list comes first, how unions are bracketed, or how
often a list is united. None of this depends on what the entries are. The types of entries only say what
comes first and what is blank: texts go by their code points, partner segments by provider and then by
segment, and of integers none is blank.

## Contents
- **Orders.** `codePoints`, with `before_iff` for texts and `before_partner_iff` for partner segments.
- **Laws.** `union_eq_union_iff`, `union_comm` and `union_assoc`.
- **All types of entries.** `union_canonical`.
-/

namespace Audience

open Text

/-! ## Orders -/

/-- The code points of a text. -/
def Text.codePoints (s : String) : List Nat :=
  s.toList.map Char.toNat

theorem Text.charsBefore_iff {as bs : List Char} :
    charsBefore as bs = true ↔ as.map Char.toNat < bs.map Char.toNat := by
  induction as generalizing bs with
  | nil =>
      cases bs with
      | nil => exact iff_of_false (by simp [charsBefore]) (List.not_lt_nil _)
      | cons b bs => exact iff_of_true rfl (List.nil_lt_cons _ _)
  | cons a as ih =>
      cases bs with
      | nil => exact iff_of_false (by simp [charsBefore]) (List.not_lt_nil _)
      | cons b bs =>
          rw [charsBefore, List.map_cons, List.map_cons, List.cons_lt_cons_iff, ← ih]
          by_cases hab : a.toNat = b.toNat
          · simp [hab]
          · simp [hab]

/-- **Texts come in the lexicographic order of their code points.** -/
theorem Text.before_iff {s t : String} : before s t = true ↔ codePoints s < codePoints t :=
  charsBefore_iff

namespace Roster

theorem before_partner_iff {p q : PartnerSegment} :
    Entry.before p q = true ↔ codePoints p.provider < codePoints q.provider ∨
      p.provider = q.provider ∧ codePoints p.segment < codePoints q.segment := by
  have hbefore : Entry.before p q =
      if p.provider = q.provider then Text.before p.segment q.segment
      else Text.before p.provider q.provider := rfl
  rw [hbefore, ← Text.before_iff, ← Text.before_iff]
  by_cases hprovider : p.provider = q.provider
  · -- of two equal providers neither comes first
    rw [if_pos hprovider, hprovider, Text.before_irrefl]
    simp
  · rw [if_neg hprovider]
    simp [hprovider]

theorem isBlank_partner_iff {p : PartnerSegment} :
    Entry.isBlank p = true ↔ Text.isBlank p.provider = true ∨ Text.isBlank p.segment = true :=
  Bool.or_eq_true_iff

/-! ## Laws -/

variable {α : Type} [Entry α] {as bs cs ds : List α}

/-- **Two unions are equal when the lists have the same entries that are not blank.** -/
theorem union_eq_union_iff : union as bs = union cs ds ↔
    ∀ a, Entry.isBlank a = false → (a ∈ as ∨ a ∈ bs ↔ a ∈ cs ∨ a ∈ ds) := by
  rw [union, union, ← sameEntries_iff]
  unfold SameEntries
  simp only [List.mem_append]

theorem union_comm (as bs : List α) : union as bs = union bs as := by
  rw [union_eq_union_iff]
  intro a _
  exact or_comm

theorem union_assoc (as bs cs : List α) : union (union as bs) cs = union as (union bs cs) :=
  calc union (union as bs) cs
    _ = union (as ++ bs) cs := union_congr (sameEntries_union as bs) (.refl cs)
    _ = union as (bs ++ cs) := by rw [union, List.append_assoc, union]
    _ = union as (union bs cs) := union_congr (.refl as) (sameEntries_union bs cs).symm

/-! ## All types of entries -/

/-- **A union is the canonical form of the entries of two lists.** Whatever the type of the entries, it
ascends strictly and holds the entries of both lists that are not blank, so it is determined by them; it
is commutative, associative and idempotent, and adding an entry is uniting with a list of one. Texts
ascend by their code points, integers by size, and partner segments by provider and then by segment. A
text is blank when all its characters are, an integer never is, and a partner segment is when either
part of it is. -/
theorem union_canonical :
    (∀ (α : Type) [Entry α] (as bs : List α),
      Ascending (union as bs) ∧
      (∀ a, a ∈ union as bs ↔ (a ∈ as ∨ a ∈ bs) ∧ Entry.isBlank a = false) ∧
      (∀ cs ds, union as bs = union cs ds ↔
        ∀ a, Entry.isBlank a = false → (a ∈ as ∨ a ∈ bs ↔ a ∈ cs ∨ a ∈ ds)) ∧
      union as bs = union bs as ∧
      (∀ cs, union (union as bs) cs = union as (union bs cs)) ∧
      union (union as bs) bs = union as bs ∧
      ∀ a, add as a = union as [a]) ∧
    (∀ s t : String, Entry.before s t = true ↔ codePoints s < codePoints t) ∧
    (∀ m n : Int, Entry.before m n = true ↔ m < n) ∧
    (∀ p q : PartnerSegment, Entry.before p q = true ↔
      codePoints p.provider < codePoints q.provider ∨
        p.provider = q.provider ∧ codePoints p.segment < codePoints q.segment) ∧
    (∀ s : String, Entry.isBlank s = true ↔ ∀ c ∈ s.toList, isBlankChar c = true) ∧
    (∀ n : Int, Entry.isBlank n = false) ∧
    ∀ p : PartnerSegment, Entry.isBlank p = true ↔
      Text.isBlank p.provider = true ∨ Text.isBlank p.segment = true := by
  refine ⟨?_, fun s t => Text.before_iff, fun m n => decide_eq_true_iff,
    fun p q => before_partner_iff, fun s => isBlank_iff, fun n => rfl, fun p => isBlank_partner_iff⟩
  intro α _ as bs
  exact ⟨ascending_ofList _, fun a => mem_union, fun cs ds => union_eq_union_iff, union_comm as bs,
    union_assoc as bs, union_union_right as bs, fun a => rfl⟩

example : union [⟨"b", "1"⟩, ⟨"a", "2"⟩] [⟨"a", "2"⟩, ⟨"", "9"⟩, (⟨"z", "\t"⟩ : PartnerSegment)] =
    [⟨"a", "2"⟩, ⟨"b", "1"⟩] := by
  decide +kernel

end Roster

end Audience
