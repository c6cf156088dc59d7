import Audience.Text.Order

/-!
# `Audience.Keyed` — values under texts, in ascending order of the keys

A keyed list holds at most one value under each key. Inserting keeps the keys ascending and replaces
the value of a key that is there already.

## Contents
- **Operations.** `lookup?`, `insert`, `ofList` and `update`.
- **Laws.** What `lookup?` finds after `insert`.
-/

namespace Audience.Keyed

open Text

/-! ## Operations -/

variable {α : Type}

/-- The first value under a key. -/
def lookup? (key : String) : List (String × α) → Option α
  | [] => none
  | (k, v) :: rest => if k = key then some v else lookup? key rest

/-- The list with this value under the key. -/
def insert (key : String) (value : α) : List (String × α) → List (String × α)
  | [] => [(key, value)]
  | (k, v) :: rest =>
      if key = k then (key, value) :: rest
      else if before key k then (key, value) :: (k, v) :: rest
      else (k, v) :: insert key value rest

/-- The keyed list of these values; of two values under one key the later stays. -/
def ofList (entries : List (String × α)) : List (String × α) :=
  entries.foldl (fun acc e => insert e.1 e.2 acc) []

/-- The list with the value under the key changed, or with a first value where there is none. -/
def update (key : String) (change : Option α → α) (entries : List (String × α)) :
    List (String × α) :=
  insert key (change (lookup? key entries)) entries

/-! ## Laws -/

theorem lookup?_insert_self (key : String) (value : α) (entries : List (String × α)) :
    lookup? key (insert key value entries) = some value := by
  induction entries with
  | nil => simp [insert, lookup?]
  | cons e rest ih =>
      obtain ⟨k, v⟩ := e
      by_cases hk : key = k
      · simp [insert, lookup?, hk]
      · by_cases hb : before key k = true
        · simp [insert, lookup?, hk, hb]
        · simp [insert, lookup?, hk, hb, Ne.symm hk, ih]

theorem lookup?_insert_of_ne {key other : String} (h : other ≠ key) (value : α)
    (entries : List (String × α)) :
    lookup? other (insert key value entries) = lookup? other entries := by
  induction entries with
  | nil => simp [insert, lookup?, Ne.symm h]
  | cons e rest ih =>
      obtain ⟨k, v⟩ := e
      by_cases hk : key = k
      · subst hk
        simp [insert, lookup?, Ne.symm h]
      · by_cases hb : before key k = true
        · simp [insert, lookup?, hk, hb, Ne.symm h]
        · simp [insert, lookup?, hk, hb, ih]

end Audience.Keyed
