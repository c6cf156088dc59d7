import Audience.Roster
import Mathlib.Data.List.Sort

/-!
# `Audience.Proofs.RosterSet` — a roster is the set of its entries

The order of entries is strict and total, so an ascending list is determined by its members: two lists
with the same entries that are not blank have one roster, and a list with fewer entries has a sublist
of it. Everything that the compiler renders goes through a roster, and what is proved here is all that
its proofs use of the order.

## Contents
- **Ascending lists.** `Ascending.eq_of_mem_iff` and `Ascending.sublist_of_subset`.
- **Entries.** `SameEntries` and `Includes`, which compare two lists by their entries that are not
  blank, with what they mean for the rosters of the lists.
- **Lists that are rosters.** `IsRoster` and `ofList_eq_self_iff`, with `union_union_right`: what is there
  already adds nothing.
- **Rosters of a property.** `IsRosterOf`, the specification of a roster that is built up in steps.
-/

namespace Audience.Roster

variable {α : Type} [Entry α]

/-! ## Ascending lists -/

instance : Std.Irrefl fun a b : α => Entry.before a b = true where
  irrefl a h := by
    rw [Entry.before_irrefl] at h
    exact absurd h (by simp)

instance : Std.Antisymm fun a b : α => Entry.before a b = true where
  antisymm a b hab hba := by
    have haa : Entry.before a a = true := Entry.before_trans hab hba
    rw [Entry.before_irrefl] at haa
    exact absurd haa (by simp)

instance decidableAscending (as : List α) : Decidable (Ascending as) :=
  inferInstanceAs (Decidable (as.Pairwise fun a b => Entry.before a b = true))

theorem Ascending.nodup {as : List α} (h : Ascending as) : as.Nodup :=
  List.Pairwise.nodup h

theorem nodup_ofList (as : List α) : (ofList as).Nodup :=
  (ascending_ofList as).nodup

/-- **An ascending list is determined by its members.** -/
theorem Ascending.eq_of_mem_iff {as bs : List α} (has : Ascending as) (hbs : Ascending bs)
    (h : ∀ a, a ∈ as ↔ a ∈ bs) : as = bs :=
  List.Pairwise.eq_of_mem_iff has hbs h

theorem Ascending.sublist_of_subset {as bs : List α} (has : Ascending as) (hbs : Ascending bs)
    (h : as ⊆ bs) : as.Sublist bs :=
  List.sublist_of_subperm_of_pairwise (List.subperm_of_subset has.nodup h) has hbs

/-! ## Entries -/

/-- The lists have the same entries that are not blank. -/
def SameEntries (as bs : List α) : Prop :=
  ∀ a, Entry.isBlank a = false → (a ∈ as ↔ a ∈ bs)

/-- Every entry of the first list that is not blank is in the second one. -/
def Includes (as bs : List α) : Prop :=
  ∀ a, Entry.isBlank a = false → a ∈ as → a ∈ bs

namespace SameEntries

variable {as as' bs bs' : List α}

theorem refl (as : List α) : SameEntries as as := fun _ _ => Iff.rfl

theorem symm (h : SameEntries as bs) : SameEntries bs as := fun a ha => (h a ha).symm

theorem trans {cs : List α} (h : SameEntries as bs) (h' : SameEntries bs cs) :
    SameEntries as cs := fun a ha => (h a ha).trans (h' a ha)

theorem append (h : SameEntries as as') (h' : SameEntries bs bs') :
    SameEntries (as ++ bs) (as' ++ bs') := by
  intro a ha
  rw [List.mem_append, List.mem_append, h a ha, h' a ha]

end SameEntries

theorem ofList_congr {as bs : List α} (h : SameEntries as bs) : ofList as = ofList bs := by
  refine (ascending_ofList as).eq_of_mem_iff (ascending_ofList bs) ?_
  intro a
  rw [mem_ofList, mem_ofList]
  exact ⟨fun ha => ⟨(h a ha.2).mp ha.1, ha.2⟩, fun ha => ⟨(h a ha.2).mpr ha.1, ha.2⟩⟩

/-- **A roster is the canonical form of its entries.** -/
theorem sameEntries_iff {as bs : List α} : SameEntries as bs ↔ ofList as = ofList bs := by
  constructor
  · exact ofList_congr
  · intro h a hblank
    have hmem : a ∈ ofList as ↔ a ∈ ofList bs := by rw [h]
    rw [mem_ofList, mem_ofList] at hmem
    exact ⟨fun ha => (hmem.mp ⟨ha, hblank⟩).1, fun ha => (hmem.mpr ⟨ha, hblank⟩).1⟩

theorem ofList_sublist {as bs : List α} (h : Includes as bs) :
    (ofList as).Sublist (ofList bs) := by
  refine (ascending_ofList as).sublist_of_subset (ascending_ofList bs) ?_
  intro a ha
  obtain ⟨hmem, hblank⟩ := mem_ofList.mp ha
  exact mem_ofList.mpr ⟨h a hblank hmem, hblank⟩

theorem ofList_eq_nil_iff {as : List α} :
    ofList as = [] ↔ ∀ a ∈ as, Entry.isBlank a = true := by
  rw [List.eq_nil_iff_forall_not_mem]
  constructor
  · intro h a ha
    cases hblank : Entry.isBlank a with
    | true => rfl
    | false => exact absurd (mem_ofList.mpr ⟨ha, hblank⟩) (h a)
  · intro h a ha
    obtain ⟨hmem, hblank⟩ := mem_ofList.mp ha
    rw [h a hmem] at hblank
    exact absurd hblank (by simp)

theorem mem_union {a : α} {as bs : List α} :
    a ∈ union as bs ↔ (a ∈ as ∨ a ∈ bs) ∧ Entry.isBlank a = false := by
  rw [union, mem_ofList, List.mem_append]

theorem mem_add {a b : α} {as : List α} :
    a ∈ add as b ↔ (a ∈ as ∨ a = b) ∧ Entry.isBlank a = false := by
  rw [add, mem_union, List.mem_singleton]

/-- The union reads either list through its entries alone. -/
theorem union_congr {as as' bs bs' : List α} (h : SameEntries as as') (h' : SameEntries bs bs') :
    union as bs = union as' bs' :=
  ofList_congr (h.append h')

/-- A union has the entries of both lists. -/
theorem sameEntries_union (as bs : List α) : SameEntries (union as bs) (as ++ bs) := by
  intro a ha
  rw [mem_union, List.mem_append]
  exact and_iff_left ha

theorem union_sublist {as as' bs bs' : List α} (h : Includes as as') (h' : Includes bs bs') :
    (union as bs).Sublist (union as' bs') := by
  apply ofList_sublist
  intro a hblank ha
  rcases List.mem_append.mp ha with ha | ha
  · exact List.mem_append_left _ (h a hblank ha)
  · exact List.mem_append_right _ (h' a hblank ha)

/-! ## Lists that are rosters -/

/-- The list ascends, and none of its entries is blank. -/
structure IsRoster (as : List α) : Prop where
  ascending : Ascending as
  not_blank : ∀ a ∈ as, Entry.isBlank a = false

theorem isRoster_nil : IsRoster ([] : List α) :=
  ⟨List.Pairwise.nil, by simp⟩

theorem isRoster_ofList (as : List α) : IsRoster (ofList as) where
  ascending := ascending_ofList as
  not_blank _ ha := (mem_ofList.mp ha).2

/-- **Rosters are the lists that are their own rosters.** -/
theorem ofList_eq_self_iff {as : List α} : ofList as = as ↔ IsRoster as := by
  constructor
  · intro h
    rw [← h]
    exact isRoster_ofList as
  · intro h
    refine (ascending_ofList as).eq_of_mem_iff h.ascending ?_
    intro a
    rw [mem_ofList]
    exact and_iff_left_of_imp (h.not_blank a)

theorem union_self (as : List α) : union as as = ofList as := by
  apply ofList_congr
  intro a _
  rw [List.mem_append, or_self_iff]

/-- A list whose entries are there already adds nothing. -/
theorem union_union_right (as bs : List α) : union (union as bs) bs = union as bs := by
  apply ofList_congr
  intro a hblank
  rw [List.mem_append, mem_union, and_iff_left hblank, or_assoc, or_self_iff, List.mem_append]

/-! ## Rosters of a property -/

/-- The list ascends, and holds the entries with the property that are not blank. -/
def IsRosterOf (as : List α) (P : α → Prop) : Prop :=
  Ascending as ∧ ∀ a, a ∈ as ↔ P a ∧ Entry.isBlank a = false

namespace IsRosterOf

variable {as bs : List α} {P Q : α → Prop}

theorem nil : IsRosterOf ([] : List α) fun _ => False :=
  ⟨List.Pairwise.nil, by simp⟩

theorem congr (h : IsRosterOf as P) (hPQ : ∀ a, P a ↔ Q a) : IsRosterOf as Q :=
  ⟨h.1, fun a => by rw [h.2, hPQ]⟩

/-- The property determines the roster. -/
theorem eq_of_iff (h : IsRosterOf as P) (h' : IsRosterOf bs Q) (hPQ : ∀ a, P a ↔ Q a) : as = bs :=
  h.1.eq_of_mem_iff h'.1 fun a => by rw [h.2, h'.2, hPQ]

theorem union (h : IsRosterOf as P) (bs : List α) :
    IsRosterOf (Roster.union as bs) fun a => P a ∨ a ∈ bs := by
  refine ⟨ascending_ofList _, ?_⟩
  intro a
  rw [mem_union, h.2]
  constructor
  · rintro ⟨ha | ha, hblank⟩
    · exact ⟨Or.inl ha.1, hblank⟩
    · exact ⟨Or.inr ha, hblank⟩
  · rintro ⟨ha | ha, hblank⟩
    · exact ⟨Or.inl ⟨ha, hblank⟩, hblank⟩
    · exact ⟨Or.inr ha, hblank⟩

theorem add (h : IsRosterOf as P) (b : α) :
    IsRosterOf (Roster.add as b) fun a => P a ∨ a = b :=
  (h.union [b]).congr fun a => by rw [List.mem_singleton]

end IsRosterOf

end Audience.Roster
