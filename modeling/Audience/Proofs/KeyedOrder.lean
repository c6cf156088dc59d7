import Audience.Keyed
import Audience.Proofs.RosterSet
import Mathlib.Data.List.Induction

/-!
# `Audience.Proofs.KeyedOrder` — a keyed list is a map on an ascending list of keys

Inserting a value does to the keys what inserting into a roster does to its entries. So the keys of a
list that is built up by insertions ascend, and the value that stands under a key is the one that is
found there.

## Contents
- **Keys.** `keys`, with `keys_insert` and `mem_keys_iff`.
- **Ascending keys.** `ascending_keys_insert` and `lookup?_of_mem`.
- **Building up.** `ofList_append_singleton`, which inductions go by, and `ofList_of_ascending`: what
  ascends already stays as it is.
- **First places.** `lookup?_append` and `lookup?_eq_some_iff`.
- **Distinct keys.** `mem_of_mem_ofList` and `lookup?_ofList`: sorting distinct keys loses nothing.
-/

namespace Audience.Keyed

open Text

variable {α : Type} {key : String} {value : α} {entries : List (String × α)}

/-! ## Keys -/

/-- The keys, in the order of the list. -/
def keys (entries : List (String × α)) : List String :=
  entries.map Prod.fst

/-- **Inserting a value inserts its key.** -/
theorem keys_insert (key : String) (value : α) (entries : List (String × α)) :
    keys (insert key value entries) = Roster.insert key (keys entries) := by
  induction entries with
  | nil => rfl
  | cons e rest ih =>
      obtain ⟨k, v⟩ := e
      have hroster : Roster.insert key (k :: keys rest) =
          if before key k then key :: k :: keys rest
          else if before k key then k :: Roster.insert key (keys rest)
          else k :: keys rest := rfl
      show keys (insert key value ((k, v) :: rest)) = Roster.insert key (k :: keys rest)
      rw [hroster, insert]
      by_cases hk : key = k
      · -- neither key comes before the other, so both lists keep the keys that they have
        subst hk
        rw [if_pos rfl, before_irrefl]
        rfl
      · rw [if_neg hk]
        by_cases hbefore : before key k = true
        · rw [if_pos hbefore, if_pos hbefore]
          rfl
        · have hafter : before k key = true := by
            by_contra hnot
            exact hk (eq_of_not_before (by simpa using hbefore) (by simpa using hnot))
          rw [if_neg hbefore, if_neg hbefore, if_pos hafter, ← ih]
          rfl

/-- The keys are the texts under which a value is found. -/
theorem mem_keys_iff : key ∈ keys entries ↔ ∃ value, lookup? key entries = some value := by
  induction entries with
  | nil => simp [keys, lookup?]
  | cons e rest ih =>
      obtain ⟨k, v⟩ := e
      show key ∈ k :: keys rest ↔ _
      rw [List.mem_cons, ih, lookup?]
      by_cases hk : k = key
      · simp [hk]
      · simp [hk, Ne.symm hk]

/-! ## Ascending keys -/

theorem ascending_keys_insert (h : Roster.Ascending (keys entries)) (key : String) (value : α) :
    Roster.Ascending (keys (insert key value entries)) := by
  rw [keys_insert]
  exact Roster.ascending_insert h

/-- No second value stands under a key, so the first one found is the one that is there. -/
theorem lookup?_of_mem (h : Roster.Ascending (keys entries)) (hmem : (key, value) ∈ entries) :
    lookup? key entries = some value := by
  induction entries with
  | nil => exact absurd hmem (by simp)
  | cons e rest ih =>
      obtain ⟨k, v⟩ := e
      have hnodup : (k :: keys rest).Nodup := Roster.Ascending.nodup h
      rw [List.nodup_cons] at hnodup
      rw [lookup?]
      rcases List.mem_cons.mp hmem with heq | hrest
      · cases heq
        rw [if_pos rfl]
      · have hkey : key ∈ keys rest := List.mem_map_of_mem hrest
        have hne : k ≠ key := by
          rintro rfl
          exact hnodup.1 hkey
        rw [if_neg hne]
        exact ih (List.Pairwise.of_cons h) hrest

/-! ## Building up -/

theorem keys_append (as bs : List (String × α)) : keys (as ++ bs) = keys as ++ keys bs :=
  List.map_append

/-- A key behind all others is put at the end. -/
theorem insert_of_forall_before (h : ∀ k ∈ keys entries, before k key = true) :
    insert key value entries = entries ++ [(key, value)] := by
  induction entries with
  | nil => rfl
  | cons e rest ih =>
      obtain ⟨k, v⟩ := e
      have hk : before k key = true := h k (by simp [keys])
      have hne : key ≠ k := by
        rintro rfl
        rw [before_irrefl] at hk
        cases hk
      have hafter : ¬ before key k = true := by
        intro hback
        have hself := before_trans hk hback
        rw [before_irrefl] at hself
        cases hself
      rw [insert, if_neg hne, if_neg hafter, ih fun k' hk' => h k' (List.mem_cons_of_mem _ hk')]
      rfl

/-- The last entry is inserted last, so statements about building up go by induction from the end. -/
theorem ofList_append_singleton (entries : List (String × α)) (e : String × α) :
    ofList (entries ++ [e]) = insert e.1 e.2 (ofList entries) := by
  rw [ofList, List.foldl_append]
  rfl

/-- **Building up a list that ascends changes nothing.** -/
theorem ofList_of_ascending (h : Roster.Ascending (keys entries)) : ofList entries = entries := by
  induction entries using List.reverseRecOn with
  | nil => rfl
  | append_singleton entries e ih =>
      rw [keys_append] at h
      obtain ⟨hentries, -, hbefore⟩ := List.pairwise_append.mp h
      rw [ofList_append_singleton, ih hentries]
      exact insert_of_forall_before fun k hk => hbefore k hk e.1 (by simp [keys])

theorem ascending_keys_ofList (entries : List (String × α)) :
    Roster.Ascending (keys (ofList entries)) := by
  induction entries using List.reverseRecOn with
  | nil => exact List.Pairwise.nil
  | append_singleton entries e ih =>
      rw [ofList_append_singleton]
      exact ascending_keys_insert ih e.1 e.2

theorem ofList_ofList (entries : List (String × α)) : ofList (ofList entries) = ofList entries :=
  ofList_of_ascending (ascending_keys_ofList entries)

/-! ## First places -/

theorem lookup?_append (key : String) (as bs : List (String × α)) :
    lookup? key (as ++ bs) = (lookup? key as).or (lookup? key bs) := by
  induction as with
  | nil => rfl
  | cons e rest ih =>
      obtain ⟨k, v⟩ := e
      rw [List.cons_append, lookup?, lookup?]
      split
      · rfl
      · exact ih

theorem lookup?_of_notMem (h : key ∉ keys entries) : lookup? key entries = none := by
  rw [Option.eq_none_iff_forall_ne_some]
  exact fun value hvalue => h (mem_keys_iff.mpr ⟨value, hvalue⟩)

/-- A value is found where its key stands for the first time. -/
theorem lookup?_eq_some_iff : lookup? key entries = some value ↔
    ∃ before after, entries = before ++ (key, value) :: after ∧ key ∉ keys before := by
  constructor
  · intro h
    induction entries with
    | nil => cases h
    | cons e rest ih =>
        obtain ⟨k, v⟩ := e
        rw [lookup?] at h
        split at h
        · rename_i hkey
          cases h
          exact ⟨[], rest, by rw [hkey]; rfl, List.not_mem_nil⟩
        · rename_i hkey
          obtain ⟨before, after, rfl, hbefore⟩ := ih h
          refine ⟨(k, v) :: before, after, rfl, fun hmem => ?_⟩
          rcases List.mem_cons.mp hmem with heq | hmem
          · exact hkey heq.symm
          · exact hbefore hmem
  · rintro ⟨before, after, rfl, hbefore⟩
    rw [lookup?_append, lookup?_of_notMem hbefore, lookup?, if_pos rfl]
    rfl

theorem mem_of_lookup? (h : lookup? key entries = some value) : (key, value) ∈ entries := by
  obtain ⟨before, after, rfl, -⟩ := lookup?_eq_some_iff.mp h
  exact List.mem_append_right before List.mem_cons_self

/-! ## Distinct keys -/

theorem mem_of_mem_insert {e : String × α} (h : e ∈ insert key value entries) :
    e = (key, value) ∨ e ∈ entries := by
  induction entries with
  | nil => exact Or.inl (List.mem_singleton.mp h)
  | cons d rest ih =>
      obtain ⟨k, v⟩ := d
      rw [insert] at h
      split at h
      · exact (List.mem_cons.mp h).imp_right (List.mem_cons_of_mem _)
      · split at h
        · exact List.mem_cons.mp h
        · rcases List.mem_cons.mp h with rfl | hrest
          · exact Or.inr List.mem_cons_self
          · exact (ih hrest).imp_right (List.mem_cons_of_mem _)

/-- Building up adds nothing. -/
theorem mem_of_mem_ofList {e : String × α} (h : e ∈ ofList entries) : e ∈ entries := by
  induction entries using List.reverseRecOn with
  | nil => exact h
  | append_singleton entries d ih =>
      rw [ofList_append_singleton] at h
      rcases mem_of_mem_insert h with rfl | h
      · exact List.mem_append_right _ (List.mem_singleton_self _)
      · exact List.mem_append_left _ (ih h)

/-- **Where no key is repeated, a value is found in the built list as in the entries.** -/
theorem lookup?_ofList (h : (keys entries).Nodup) (key : String) :
    lookup? key (ofList entries) = lookup? key entries := by
  induction entries using List.reverseRecOn with
  | nil => rfl
  | append_singleton entries e ih =>
      rw [keys_append, List.nodup_append] at h
      obtain ⟨hentries, -, hnew⟩ := h
      rw [ofList_append_singleton, lookup?_append]
      by_cases hkey : key = e.1
      · subst hkey
        have hfirst : e.1 ∉ keys entries := fun hk => hnew e.1 hk e.1 (by simp [keys]) rfl
        rw [lookup?_insert_self, lookup?_of_notMem hfirst]
        simp [lookup?]
      · rw [lookup?_insert_of_ne hkey, ih hentries]
        simp [lookup?, Ne.symm hkey]

end Audience.Keyed
