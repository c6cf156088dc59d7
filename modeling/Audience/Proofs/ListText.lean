import Audience.Proofs.QueryWire

/-!
# `Audience.Proofs.ListText` — the text of a list of values

A list is printed as the texts of its items between brackets, with commas between neighbours. In the
layout with one item to a line, every line of an item stands two places further in than it does where
the item is printed alone; nothing else about an item depends on where it stands. This holds of every
value, floating-point numbers included, since no text of a number or of a string runs over a line.

## Contents
- **Lines.** `indented`, and the texts without a line break.
- **Levels.** `prettyChars_succ`: one level further in.
- **Lists.** `listText`, with `compact_list` and `pretty_list`; `parse?_listText` for plain values.
- **Queries.** `compact_namedQuery`: a query under a name.
-/

namespace Audience.Number

/-! ## Lines -/

theorem newline_notMem_natChars (n : Nat) : '\n' ∉ natChars n :=
  fun h => absurd (isDigit_of_mem_natChars h) (by decide)

theorem newline_notMem_intChars (n : Int) : '\n' ∉ intChars n := by
  cases n with
  | ofNat n => exact newline_notMem_natChars n
  | negSucc n => simp [intChars, newline_notMem_natChars]

theorem newline_notMem_positionalChars {l : Layout} {ds : List Char} (hds : '\n' ∉ ds)
    (hending : '\n' ∉ l.wholeEnding) (point : Int) : '\n' ∉ positionalChars l ds point := by
  have htake : ∀ n, '\n' ∉ ds.take n := fun n h => hds (List.mem_of_mem_take h)
  have hdrop : ∀ n, '\n' ∉ ds.drop n := fun n h => hds (List.mem_of_mem_drop h)
  unfold positionalChars
  split
  · simp [hds, hending]
  · split <;> simp [hds, htake, hdrop]

theorem newline_notMem_scientificChars {ds : List Char} (hds : '\n' ∉ ds) (point : Int) :
    '\n' ∉ scientificChars ds point := by
  have hexponent : '\n' ∉ exponentChars (point - 1) := by
    unfold exponentChars
    split <;> simp [newline_notMem_intChars]
  have htake : '\n' ∉ ds.take 1 := fun h => hds (List.mem_of_mem_take h)
  have hdrop : '\n' ∉ ds.drop 1 := fun h => hds (List.mem_of_mem_drop h)
  unfold scientificChars
  split <;> simp_all

theorem newline_notMem_wireChars {x : Binary64} {cs : List Char} (h : wireChars? x = some cs) :
    '\n' ∉ cs := by
  have hmagnitude : ∀ m, '\n' ∉ Layout.wire.magnitudeChars m := by
    intro m
    unfold Layout.magnitudeChars
    split
    · decide
    · dsimp only
      split
      · exact newline_notMem_positionalChars (newline_notMem_natChars _) (by decide) _
      · exact newline_notMem_scientificChars (newline_notMem_natChars _) _
  unfold wireChars? at h
  split at h
  · cases h
    unfold signed
    split <;> simp [hmagnitude]
  · cases h

end Audience.Number

namespace Audience.Json

open Number

theorem newline_notMem_escapeChar (c : Char) : '\n' ∉ escapeChar c := by
  have hdigit : ∀ n < 16, '\n' ≠ lowerHexDigit n := by decide
  unfold escapeChar
  repeat' split
  any_goals decide
  · have hhigh := hdigit (c.toNat / 16) (by omega)
    have hlow := hdigit (c.toNat % 16) (by omega)
    simp [hhigh, hlow]
  · simp_all [eq_comm]

theorem newline_notMem_textChars (s : String) : '\n' ∉ textChars s := by
  simp [textChars, newline_notMem_escapeChar]

/-- A value that holds no other stands on one line. -/
theorem newline_notMem_scalarChars (v : Json) : '\n' ∉ scalarChars v := by
  cases v with
  | bool b => cases b <;> decide
  | int n => exact newline_notMem_intChars n
  | float x =>
      show '\n' ∉ (wireChars? x).getD ['n', 'u', 'l', 'l']
      cases hx : wireChars? x with
      | none => decide
      | some cs => exact newline_notMem_wireChars hx
  | text s => exact newline_notMem_textChars s
  | _ => simp [scalarChars]

/-- A character with two spaces behind it where it ends a line. -/
def indentedChar (c : Char) : List Char :=
  if c = '\n' then ['\n', ' ', ' '] else [c]

/-- The text with every line but the first two places further in. -/
def indented (s : String) : String :=
  String.ofList (s.toList.flatMap indentedChar)

theorem flatMap_indentedChar {cs : List Char} (h : '\n' ∉ cs) : cs.flatMap indentedChar = cs := by
  induction cs with
  | nil => rfl
  | cons c cs ih =>
      obtain ⟨hc, hcs⟩ := not_or.mp (List.mem_cons.not.mp h)
      rw [List.flatMap_cons, ih hcs, indentedChar, if_neg (Ne.symm hc), List.singleton_append]

theorem flatMap_indentedChar_lineChars (level : Nat) :
    (lineChars level).flatMap indentedChar = lineChars (level + 1) := by
  have hspaces : '\n' ∉ List.replicate (2 * level) ' ' := by simp
  rw [lineChars, List.flatMap_cons, flatMap_indentedChar hspaces, lineChars, Nat.mul_succ,
    Nat.add_comm, List.replicate_add]
  rfl

/-! ## Levels -/

theorem prettyChars_succ_scalar {v : Json} (hlist : ∀ items, v ≠ .list items)
    (hobject : ∀ members, v ≠ .object members) (level : Nat) :
    prettyChars (level + 1) v = (prettyChars level v).flatMap indentedChar := by
  rw [isLayout_prettyChars.scalar _ v hlist hobject, isLayout_prettyChars.scalar _ v hlist hobject,
    flatMap_indentedChar (newline_notMem_scalarChars v)]

-- on the value together with its items and its members, as the layout goes through them
mutual

/-- **One level further in, every line of a value stands two places further in.** -/
theorem prettyChars_succ (level : Nat) :
    ∀ v, prettyChars (level + 1) v = (prettyChars level v).flatMap indentedChar
  | .list [] => by
      rw [prettyChars, prettyChars]
      rfl
  | .list (v :: vs) => by
      rw [prettyChars, prettyChars, prettyChars_succ (level + 1) v, prettyItems_succ (level + 1) vs,
        List.flatMap_cons]
      simp only [List.flatMap_append, flatMap_indentedChar_lineChars]
      rfl
  | .object [] => by
      rw [prettyChars, prettyChars]
      rfl
  | .object ((k, v) :: ms) => by
      rw [prettyChars, prettyChars, prettyChars_succ (level + 1) v,
        prettyMembers_succ (level + 1) ms, List.flatMap_cons]
      simp only [List.flatMap_append, List.flatMap_cons, flatMap_indentedChar_lineChars,
        flatMap_indentedChar (newline_notMem_textChars k)]
      rfl
  | .null => prettyChars_succ_scalar (by simp) (by simp) level
  | .bool _ => prettyChars_succ_scalar (by simp) (by simp) level
  | .int _ => prettyChars_succ_scalar (by simp) (by simp) level
  | .float _ => prettyChars_succ_scalar (by simp) (by simp) level
  | .text _ => prettyChars_succ_scalar (by simp) (by simp) level

theorem prettyItems_succ (level : Nat) :
    ∀ vs, prettyItems (level + 1) vs = (prettyItems level vs).flatMap indentedChar
  | [] => rfl
  | v :: vs => by
      rw [prettyItems, prettyItems, prettyChars_succ level v, prettyItems_succ level vs]
      simp only [List.flatMap_cons, List.flatMap_append, flatMap_indentedChar_lineChars]
      rfl

theorem prettyMembers_succ (level : Nat) :
    ∀ ms, prettyMembers (level + 1) ms = (prettyMembers level ms).flatMap indentedChar
  | [] => rfl
  | (k, v) :: ms => by
      rw [prettyMembers, prettyMembers, prettyChars_succ level v, prettyMembers_succ level ms]
      simp only [List.flatMap_cons, List.flatMap_append, flatMap_indentedChar_lineChars,
        flatMap_indentedChar (newline_notMem_textChars k)]
      rfl

end

/-! ## Lists -/

/-- The text of a list, with one item to a line or without any blank. -/
def listText : Bool → List Json → String
  | false, values => "[" ++ String.intercalate "," (values.map compact) ++ "]"
  | true, [] => "[]"
  | true, v :: vs =>
      "[\n  " ++ String.intercalate ",\n  " ((v :: vs).map fun v => indented (pretty v)) ++ "\n]"

/-- Items with the same in front of each but the first, and commas between neighbours. -/
theorem append_furtherChars {α : Type} (before : List Char) (chars : α → List Char) (a : α)
    (as : List α) :
    chars a ++ furtherChars (as.map fun b => before ++ chars b) =
      (',' :: before).intercalate ((a :: as).map chars) := by
  induction as generalizing a with
  | nil => simp [furtherChars, List.intercalate_singleton]
  | cons b as ih =>
      rw [List.map_cons, furtherChars, List.append_assoc, ih]
      simp only [List.map_cons, List.intercalate_cons_cons, List.append_assoc, List.cons_append]

/-- **The compact text of a list.** -/
theorem compact_list (values : List Json) : compact (.list values) = listText false values := by
  rw [compact, listText, ← String.toList_inj, String.toList_ofList, String.toList_append,
    String.toList_append, String.toList_intercalate, List.map_map]
  have hitems : String.toList ∘ compact = compactChars := by
    funext v
    rw [Function.comp_apply, compact, String.toList_ofList]
  rw [hitems]
  cases values with
  | nil => rfl
  | cons v vs =>
      have hfurther := append_furtherChars [] compactChars v vs
      simp only [List.nil_append] at hfurther
      rw [compactChars, compactItems_eq, ← List.append_assoc, hfurther]
      rfl

/-- **The text of a list with one item to a line.** -/
theorem pretty_list (values : List Json) : pretty (.list values) = listText true values := by
  cases values with
  | nil => rfl
  | cons v vs =>
      -- an item is printed alone at level zero, and one level further in here
      have hitems : (String.toList ∘ fun v => indented (pretty v)) = prettyChars 1 := by
        funext v
        rw [Function.comp_apply, indented, pretty, String.toList_ofList, String.toList_ofList,
          ← prettyChars_succ]
      rw [pretty, listText, ← String.toList_inj, String.toList_ofList, String.toList_append,
        String.toList_append, String.toList_intercalate, List.map_map, hitems, prettyChars,
        prettyItems_eq, ← List.append_assoc (prettyChars (0 + 1) v), append_furtherChars,
        ← List.append_assoc]
      rfl

/-- A list of plain values is read back, whatever its layout and with room behind it. -/
theorem parse?_listText {values : List Json} (h : IsPlain greatestDepth (.list values))
    (oneToLine : Bool) : parse? (listText oneToLine values ++ "\n") = some (.list values) := by
  have hroom : IsRoom ['\n'] := by simp [IsRoom, isSeparator]
  have hparse : ∀ {text : Json → String}, text ∈ [compact, pretty] →
      parse? (text (.list values) ++ "\n") = some (.list values) := by
    intro text htext
    obtain ⟨chars, hchars, rfl⟩ := exists_isLayout htext
    have happend := (hchars.spells h 0).parse?_append hroom
    rw [String.ofList_append] at happend
    exact happend
  cases oneToLine with
  | false =>
      rw [← compact_list]
      exact hparse (by simp)
  | true =>
      rw [← pretty_list]
      exact hparse (by simp)

/-! ## Queries -/

/-- **A query under a name is written in its wire form.** -/
theorem compact_namedQuery (name : String) (q : Query) :
    compact (.object [("name", .text name), ("query", q.toJson)]) =
      "\x7b\"name\":" ++ compact (.text name) ++ ",\"query\":" ++ q.wireText ++ "\x7d" := by
  have hname : textChars "name" = "\"name\"".toList := by decide
  have hquery : textChars "query" = "\"query\"".toList := by decide
  rw [q.wireText_eq_compact, ← String.toList_inj]
  simp only [compact, String.toList_append, String.toList_ofList, compactChars_object, objectChars,
    enclosed, furtherChars, memberChars, List.map_cons, List.map_nil, hname, hquery]
  simp

end Audience.Json
