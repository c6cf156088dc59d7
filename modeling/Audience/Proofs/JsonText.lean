import Audience.Proofs.JsonScalar
import Audience.Proofs.KeyedOrder
import Audience.Query.Wire
import Mathlib.Data.List.DropRight

/-!
# `Audience.Proofs.JsonText` — what is written of a value is read as the value

The grammar of texts is a relation between a value and the characters that spell it. It leaves free
what a writer may choose: the room in front of values, of keys and of closing marks, and the order of
the members of an object. The reader takes every text of a value for the value, and both layouts of the
printer are texts of it, so what is written of a value without floating-point numbers is read back.

## Contents
- **The grammar.** `Spells`.
- **Steps of the reader.** One equation for each thing that the reader can find in front.
- **Reading.** `Spells.readsAs`, `Spells.parse?_append` and `Spells.parse?_ofList`.
- **The marks of a layout.** The compact and the pretty text in terms of those of their parts.
- **Writing.** `IsLayout`, which both layouts are, `IsPlain`, `IsLayout.spells` and `parse?_written`.
-/

namespace Audience.Json

open Number

/-! ## The grammar -/

/-- Room between two tokens. -/
def IsRoom (cs : List Char) : Prop :=
  ∀ c ∈ cs, isSeparator c = true

/-- Written items with commas between neighbours. -/
def commaSeparated : List (List Char) → List Char
  | [] => []
  | item :: items => item ++ furtherChars items

/-- A member of an object together with the text that it is read from: there may be room in front of
the key. -/
structure SpeltMember where
  room : List Char
  key : String
  value : Json
  chars : List Char

/-- The text of a member. -/
def SpeltMember.text (m : SpeltMember) : List Char :=
  m.room ++ (textChars m.key ++ ':' :: m.chars)

/-- The member without its text. -/
def SpeltMember.member (m : SpeltMember) : String × Json :=
  (m.key, m.value)

/-- The characters are a text of the value: it has no floating-point number, and at most `depth` lists
and objects stand inside each other. There may be room in front of values, of keys and of closing
marks, and the members of an object may come in any order. -/
inductive Spells : Nat → Json → List Char → Prop
  | null {depth : Nat} : Spells depth .null ['n', 'u', 'l', 'l']
  | flag {depth : Nat} (b : Bool) : Spells depth (.bool b) (scalarChars (.bool b))
  | int {depth : Nat} {n : Int} (hn : FitsWord n) : Spells depth (.int n) (intChars n)
  | text {depth : Nat} {s : String} : Spells depth (.text s) (textChars s)
  | list {depth : Nat} {items : List (Json × List Char)} {room : List Char} (hroom : IsRoom room)
      (hitems : ∀ item ∈ items, Spells depth item.1 item.2) :
      Spells (depth + 1) (.list (items.map Prod.fst))
        ('[' :: (commaSeparated (items.map Prod.snd) ++ (room ++ [']'])))
  | object {depth : Nat} {members : List SpeltMember} {room : List Char} (hroom : IsRoom room)
      (hrooms : ∀ m ∈ members, IsRoom m.room)
      (hvalues : ∀ m ∈ members, Spells depth m.value m.chars) :
      Spells (depth + 1) (.ofMembers (members.map SpeltMember.member))
        ('\x7b' :: (commaSeparated (members.map SpeltMember.text) ++ (room ++ ['\x7d'])))
  | indented {depth : Nat} {v : Json} {room cs : List Char} (hroom : IsRoom room)
      (h : Spells depth v cs) : Spells depth v (room ++ cs)

/-! ## Steps of the reader -/

theorem skipBlanks_append {room : List Char} (h : IsRoom room) (cs : List Char) :
    skipBlanks (room ++ cs) = skipBlanks cs :=
  List.dropWhile_append_of_pos h

theorem skipBlanks_cons {c : Char} (h : isSeparator c = false) (cs : List Char) :
    skipBlanks (c :: cs) = c :: cs := by
  rw [skipBlanks, List.dropWhile_cons_of_neg (by simp [h])]

theorem skipBlanks_idem (cs : List Char) : skipBlanks (skipBlanks cs) = skipBlanks cs :=
  List.dropWhile_idempotent _ _

theorem readValue?_skipBlanks (fuel depth : Nat) (cs : List Char) :
    readValue? fuel depth (skipBlanks cs) = readValue? fuel depth cs := by
  cases fuel with
  | zero => rfl
  | succ fuel => rw [readValue?, readValue?, skipBlanks_idem]

theorem readItems?_skipBlanks (fuel depth : Nat) (cs : List Char) :
    readItems? fuel depth (skipBlanks cs) = readItems? fuel depth cs := by
  cases fuel with
  | zero => rfl
  | succ fuel => rw [readItems?, readItems?, readValue?_skipBlanks]

theorem readMembers?_skipBlanks (fuel depth : Nat) (cs : List Char) :
    readMembers? fuel depth (skipBlanks cs) = readMembers? fuel depth cs := by
  cases fuel with
  | zero => rfl
  | succ fuel => rw [readMembers?, readMembers?, skipBlanks_idem]

theorem readValue?_emptyList {fuel depth : Nat} {body rest : List Char}
    (h : skipBlanks body = ']' :: rest) :
    readValue? (fuel + 1) (depth + 1) ('[' :: body) = some (.list [], rest) := by
  rw [readValue?, skipBlanks_cons (by decide)]
  simp only [Char.reduceEq, if_false, if_true, h]

theorem readValue?_list {fuel depth : Nat} {body : List Char}
    (h : ∀ rest, skipBlanks body ≠ ']' :: rest) :
    readValue? (fuel + 1) (depth + 1) ('[' :: body) =
      (readItems? fuel depth body).map fun p => (.list p.1, p.2) := by
  rw [readValue?, skipBlanks_cons (by decide), ← readItems?_skipBlanks]
  simp only [Char.reduceEq, if_false, if_true]

theorem readValue?_emptyObject {fuel depth : Nat} {body rest : List Char}
    (h : skipBlanks body = '\x7d' :: rest) :
    readValue? (fuel + 1) (depth + 1) ('\x7b' :: body) = some (.object [], rest) := by
  rw [readValue?, skipBlanks_cons (by decide)]
  simp only [Char.reduceEq, if_false, if_true, h]

theorem readValue?_object {fuel depth : Nat} {body : List Char}
    (h : ∀ rest, skipBlanks body ≠ '\x7d' :: rest) :
    readValue? (fuel + 1) (depth + 1) ('\x7b' :: body) =
      (readMembers? fuel depth body).map fun p => (.ofMembers p.1, p.2) := by
  rw [readValue?, skipBlanks_cons (by decide), ← readMembers?_skipBlanks]
  simp only [Char.reduceEq, if_false, if_true]

/-- A character that a numeral begins with is no mark of another value. -/
theorem not_mark_of_numeral {c : Char} (h : c = '-' ∨ c.isDigit = true) :
    isSeparator c = false ∧ c ≠ ']' ∧ c ≠ 'n' ∧ c ≠ 't' ∧ c ≠ 'f' ∧ c ≠ '"' ∧ c ≠ '[' ∧
      c ≠ '\x7b' := by
  rcases h with rfl | h
  · decide
  · have hne : ∀ {d : Char}, d.isDigit = false → c ≠ d := by
      rintro d hd rfl
      rw [h] at hd
      cases hd
    refine ⟨?_, hne (by decide), hne (by decide), hne (by decide), hne (by decide),
      hne (by decide), hne (by decide), hne (by decide)⟩
    simp only [isSeparator, Bool.or_eq_false_iff, beq_eq_false_iff_ne]
    exact ⟨⟨⟨hne (by decide), hne (by decide)⟩, hne (by decide)⟩, hne (by decide)⟩

theorem readValue?_numeral {fuel depth : Nat} {c : Char} {rest : List Char}
    (h : c = '-' ∨ c.isDigit = true) :
    readValue? (fuel + 1) depth (c :: rest) = readNumeral? (c :: rest) := by
  obtain ⟨hsep, -, hn, ht, hf, hquote, hbracket, hbrace⟩ := not_mark_of_numeral h
  rw [readValue?, skipBlanks_cons hsep]
  simp only [if_neg hn, if_neg ht, if_neg hf, if_neg hquote, if_neg hbracket, if_neg hbrace]

theorem exists_intChars_eq_cons (n : Int) :
    ∃ c cs, intChars n = c :: cs ∧ (c = '-' ∨ c.isDigit = true) := by
  cases n with
  | ofNat n =>
      obtain ⟨d, ds, hds⟩ := List.exists_cons_of_ne_nil (natChars_ne_nil n)
      refine ⟨d, ds, hds, Or.inr (isDigit_of_mem_natChars (n := n) ?_)⟩
      rw [hds]
      exact List.mem_cons_self
  | negSucc n => exact ⟨'-', natChars (n + 1), rfl, Or.inl rfl⟩

theorem readValue?_text {s : String} {fuel depth : Nat} (hfuel : (textChars s).length ≤ fuel)
    (rest : List Char) :
    readValue? (fuel + 1) depth (textChars s ++ rest) = some (.text s, rest) := by
  show readValue? (fuel + 1) depth ('"' :: ((textChars s).tail ++ rest)) = _
  rw [readValue?, skipBlanks_cons (by decide)]
  simp only [Char.reduceEq, if_false, if_true, readText?_textChars hfuel, Option.map_some,
    String.ofList_toList]

theorem readValue?_int {n : Int} (hn : FitsWord n) {fuel depth : Nat} {rest : List Char}
    (hrest : EndsNumeral rest) :
    readValue? (fuel + 1) depth (intChars n ++ rest) = some (.int n, rest) := by
  have hread := readNumeral?_intChars hn hrest
  obtain ⟨c, cs, hcs, hc⟩ := exists_intChars_eq_cons n
  rw [hcs] at hread ⊢
  exact (readValue?_numeral hc).trans hread

/-! ## Reading -/

theorem endsNumeral_cons {c : Char} {rest : List Char}
    (h : c.isDigit = false ∧ c ≠ '.' ∧ c ≠ 'e' ∧ c ≠ 'E') : EndsNumeral (c :: rest) := by
  intro d hd
  cases hd
  exact h

/-- A character between tokens is no part of a numeral. -/
theorem endsNumeral_of_isSeparator {c : Char} (h : isSeparator c = true) (rest : List Char) :
    EndsNumeral (c :: rest) := by
  simp only [isSeparator, Bool.or_eq_true, beq_iff_eq] at h
  refine endsNumeral_cons ?_
  rcases h with ((rfl | rfl) | rfl) | rfl <;> decide

/-- A closing mark behind some room. -/
theorem endsNumeral_room {room : List Char} (hroom : IsRoom room) {c : Char} {rest : List Char}
    (h : c.isDigit = false ∧ c ≠ '.' ∧ c ≠ 'e' ∧ c ≠ 'E') : EndsNumeral (room ++ c :: rest) := by
  cases room with
  | nil => exact endsNumeral_cons h
  | cons d room => exact endsNumeral_of_isSeparator (hroom d (by simp)) _

theorem endsNumeral_of_isRoom {room : List Char} (hroom : IsRoom room) : EndsNumeral room := by
  cases room with
  | nil => exact fun c hc => absurd hc (by simp)
  | cons d room => exact endsNumeral_of_isSeparator (hroom d (by simp)) room

/-- What is read from `cs` is the value, whatever follows. -/
def ReadsAs (depth : Nat) (v : Json) (cs : List Char) : Prop :=
  ∀ fuel rest, 2 * cs.length ≤ fuel → EndsNumeral rest →
    readValue? fuel depth (cs ++ rest) = some (v, rest)

theorem readsAs_of_succ {depth : Nat} {v : Json} {cs : List Char} (hne : cs ≠ [])
    (h : ∀ fuel rest, 2 * cs.length ≤ fuel + 1 → EndsNumeral rest →
      readValue? (fuel + 1) depth (cs ++ rest) = some (v, rest)) : ReadsAs depth v cs := by
  intro fuel rest hfuel hrest
  have hlength : 0 < cs.length := List.length_pos_iff.mpr hne
  obtain ⟨fuel, rfl⟩ : ∃ n, fuel = n + 1 := ⟨fuel - 1, by omega⟩
  exact h fuel rest hfuel hrest

theorem readItems?_last {fuel depth : Nat} {cs rest rest' : List Char} {v : Json}
    (hread : readValue? fuel depth cs = some (v, rest)) (hmark : skipBlanks rest = ']' :: rest') :
    readItems? (fuel + 1) depth cs = some ([v], rest') := by
  rw [readItems?, hread]
  simp only [Option.bind_eq_bind, Option.bind_some, hmark]
  rfl

theorem readItems?_more {fuel depth : Nat} {cs rest rest' : List Char} {v : Json}
    (hread : readValue? fuel depth cs = some (v, rest)) (hmark : skipBlanks rest = ',' :: rest') :
    readItems? (fuel + 1) depth cs =
      (readItems? fuel depth rest').map fun p => (v :: p.1, p.2) := by
  rw [readItems?, hread]
  simp only [Option.bind_eq_bind, Option.bind_some, hmark]
  cases readItems? fuel depth rest' <;> rfl

theorem readItems?_commaSeparated {depth : Nat} {items : List (Json × List Char)}
    (hitems : ∀ item ∈ items, ReadsAs depth item.1 item.2) (hne : items ≠ [])
    {room : List Char} (hroom : IsRoom room) {fuel : Nat}
    (hfuel : 2 * (commaSeparated (items.map Prod.snd)).length + 1 ≤ fuel) (rest : List Char) :
    readItems? fuel depth (commaSeparated (items.map Prod.snd) ++ (room ++ ']' :: rest)) =
      some (items.map Prod.fst, rest) := by
  -- every item costs one unit of fuel, which its comma or its own text pays for
  induction items generalizing fuel with
  | nil => exact absurd rfl hne
  | cons item items ih =>
      obtain ⟨fuel, rfl⟩ : ∃ n, fuel = n + 1 := ⟨fuel - 1, by omega⟩
      have hread := hitems item (by simp) fuel
      cases items with
      | nil =>
          simp only [List.map_cons, List.map_nil, commaSeparated, furtherChars, List.append_nil]
            at hfuel ⊢
          refine readItems?_last (hread _ (by omega) (endsNumeral_room hroom (by decide))) ?_
          rw [skipBlanks_append hroom, skipBlanks_cons (by decide)]
      | cons next items =>
          have hchars : commaSeparated ((item :: next :: items).map Prod.snd) =
              item.2 ++ ',' :: commaSeparated ((next :: items).map Prod.snd) := rfl
          rw [hchars] at hfuel ⊢
          rw [List.length_append, List.length_cons] at hfuel
          rw [List.append_assoc, List.cons_append,
            readItems?_more (hread _ (by omega) (endsNumeral_cons (by decide)))
              (skipBlanks_cons (by decide) _),
            ih (fun i hi => hitems i (List.mem_cons_of_mem _ hi)) (by simp) (by omega)]
          rfl

/-- The text of a member, cut behind its first quote and at its colon. -/
theorem SpeltMember.text_append (m : SpeltMember) (rest : List Char) :
    m.text ++ rest =
      m.room ++ '"' :: ((textChars m.key).tail ++ ':' :: (m.chars ++ rest)) := by
  simp [text, textChars]

theorem readMembers?_last {fuel depth : Nat} {m : SpeltMember} {rest rest' rest'' : List Char}
    (hroom : IsRoom m.room) (hfuel : (textChars m.key).length ≤ fuel)
    (hread : readValue? fuel depth (m.chars ++ rest) = some (m.value, rest'))
    (hmark : skipBlanks rest' = '\x7d' :: rest'') :
    readMembers? (fuel + 1) depth (m.text ++ rest) = some ([m.member], rest'') := by
  rw [readMembers?, m.text_append, skipBlanks_append hroom, skipBlanks_cons (by decide)]
  simp only [readText?_textChars hfuel, Option.bind_eq_bind, Option.bind_some, hread, hmark,
    skipBlanks_cons (show isSeparator ':' = false by decide), String.ofList_toList]
  rfl

theorem readMembers?_more {fuel depth : Nat} {m : SpeltMember} {rest rest' rest'' : List Char}
    (hroom : IsRoom m.room) (hfuel : (textChars m.key).length ≤ fuel)
    (hread : readValue? fuel depth (m.chars ++ rest) = some (m.value, rest'))
    (hmark : skipBlanks rest' = ',' :: rest'') :
    readMembers? (fuel + 1) depth (m.text ++ rest) =
      (readMembers? fuel depth rest'').map fun p => (m.member :: p.1, p.2) := by
  rw [readMembers?, m.text_append, skipBlanks_append hroom, skipBlanks_cons (by decide)]
  simp only [readText?_textChars hfuel, Option.bind_eq_bind, Option.bind_some, hread, hmark,
    skipBlanks_cons (show isSeparator ':' = false by decide), String.ofList_toList]
  cases readMembers? fuel depth rest'' <;> rfl

theorem readMembers?_commaSeparated {depth : Nat} {members : List SpeltMember}
    (hrooms : ∀ m ∈ members, IsRoom m.room) (hvalues : ∀ m ∈ members, ReadsAs depth m.value m.chars)
    (hne : members ≠ []) {room : List Char} (hroom : IsRoom room) {fuel : Nat}
    (hfuel : 2 * (commaSeparated (members.map SpeltMember.text)).length + 1 ≤ fuel)
    (rest : List Char) :
    readMembers? fuel depth
        (commaSeparated (members.map SpeltMember.text) ++ (room ++ '\x7d' :: rest)) =
      some (members.map SpeltMember.member, rest) := by
  induction members generalizing fuel with
  | nil => exact absurd rfl hne
  | cons m members ih =>
      obtain ⟨fuel, rfl⟩ : ∃ n, fuel = n + 1 := ⟨fuel - 1, by omega⟩
      have hread := hvalues m (by simp) fuel
      have hlength : m.text.length =
          m.room.length + ((textChars m.key).length + (m.chars.length + 1)) := by
        simp only [SpeltMember.text, List.length_append, List.length_cons]
      cases members with
      | nil =>
          simp only [List.map_cons, List.map_nil, commaSeparated, furtherChars, List.append_nil]
            at hfuel ⊢
          refine readMembers?_last (hrooms m (by simp)) (by omega)
            (hread _ (by omega) (endsNumeral_room hroom (by decide))) ?_
          rw [skipBlanks_append hroom, skipBlanks_cons (by decide)]
      | cons next members =>
          have hchars : commaSeparated ((m :: next :: members).map SpeltMember.text) =
              m.text ++ ',' :: commaSeparated ((next :: members).map SpeltMember.text) := rfl
          rw [hchars] at hfuel ⊢
          rw [List.length_append, List.length_cons] at hfuel
          rw [List.append_assoc, List.cons_append,
            readMembers?_more (hrooms m (by simp)) (by omega)
              (hread _ (by omega) (endsNumeral_cons (by decide))) (skipBlanks_cons (by decide) _),
            ih (fun i hi => hrooms i (List.mem_cons_of_mem _ hi))
              (fun i hi => hvalues i (List.mem_cons_of_mem _ hi)) (by simp) (by omega)]
          rfl

/-- Behind some room, a text of a value begins with neither a separator nor a closing mark. -/
theorem Spells.exists_first {depth : Nat} {v : Json} {cs : List Char} (h : Spells depth v cs) :
    ∃ room c rest, IsRoom room ∧ cs = room ++ c :: rest ∧ isSeparator c = false ∧ c ≠ ']' := by
  have hnone : IsRoom [] := fun c hc => absurd hc (by simp)
  induction h with
  | null => exact ⟨[], _, _, hnone, rfl, by decide, by decide⟩
  | flag b => cases b <;> exact ⟨[], _, _, hnone, rfl, by decide, by decide⟩
  | @int _ n hn =>
      obtain ⟨c, cs, hcs, hc⟩ := exists_intChars_eq_cons n
      obtain ⟨hsep, hne, -⟩ := not_mark_of_numeral hc
      exact ⟨[], c, cs, hnone, hcs, hsep, hne⟩
  | text => exact ⟨[], _, _, hnone, rfl, by decide, by decide⟩
  | list => exact ⟨[], _, _, hnone, rfl, by decide, by decide⟩
  | object => exact ⟨[], _, _, hnone, rfl, by decide, by decide⟩
  | @indented _ _ room _ hroom _ ih =>
      obtain ⟨room', c, rest, hroom', rfl, hc⟩ := ih
      refine ⟨room ++ room', c, rest, ?_, by rw [List.append_assoc], hc⟩
      intro d hd
      exact (List.mem_append.mp hd).elim (hroom d) (hroom' d)

/-- **The reader reads every text of a value as the value.** -/
theorem Spells.readsAs {depth : Nat} {v : Json} {cs : List Char} (h : Spells depth v cs) :
    ReadsAs depth v cs := by
  -- on the derivation; twice the length is fuel enough, since each list and object has two marks
  induction h with
  | null => exact readsAs_of_succ (by simp) fun _ _ _ _ => rfl
  | flag b => cases b <;> exact readsAs_of_succ (by simp [scalarChars]) fun _ _ _ _ => rfl
  | @int _ n hn =>
      obtain ⟨c, cs, hcs, -⟩ := exists_intChars_eq_cons n
      exact readsAs_of_succ (by simp [hcs]) fun _ _ _ hrest => readValue?_int hn hrest
  | @text _ s =>
      have hlength : 0 < (textChars s).length := List.length_pos_iff.mpr (List.cons_ne_nil _ _)
      exact readsAs_of_succ (List.cons_ne_nil _ _) fun _ rest hfuel _ =>
        readValue?_text (by omega) rest
  | @list depth items room hroom hitems ih =>
      refine readsAs_of_succ (List.cons_ne_nil _ _) fun fuel rest hfuel _ => ?_
      rw [List.cons_append, List.append_assoc, List.append_assoc]
      cases items with
      | nil =>
          apply readValue?_emptyList
          rw [List.map_nil, commaSeparated, List.nil_append, skipBlanks_append hroom]
          exact skipBlanks_cons (by decide) _
      | cons item items =>
          -- the first item cannot be taken for the end of the list
          have hopen : ∀ tail, skipBlanks (commaSeparated ((item :: items).map Prod.snd) ++
              (room ++ ']' :: rest)) ≠ ']' :: tail := by
            intro tail hclose
            obtain ⟨room', c, rest', hroom', hcs, hsep, hne⟩ := (hitems item (by simp)).exists_first
            rw [List.map_cons, commaSeparated, hcs, List.append_assoc, List.append_assoc,
              skipBlanks_append hroom', List.cons_append, skipBlanks_cons hsep] at hclose
            exact hne (List.cons.inj hclose).1
          simp only [List.length_cons, List.length_append] at hfuel
          rw [List.cons_append, List.nil_append, readValue?_list hopen,
            readItems?_commaSeparated ih (by simp) hroom (by omega)]
          rfl
  | @object depth members room hroom hrooms hvalues ih =>
      refine readsAs_of_succ (List.cons_ne_nil _ _) fun fuel rest hfuel _ => ?_
      rw [List.cons_append, List.append_assoc, List.append_assoc]
      cases members with
      | nil =>
          apply readValue?_emptyObject
          rw [List.map_nil, commaSeparated, List.nil_append, skipBlanks_append hroom]
          exact skipBlanks_cons (by decide) _
      | cons m members =>
          -- a key begins with its quote
          have hopen : ∀ tail, skipBlanks (commaSeparated ((m :: members).map SpeltMember.text) ++
              (room ++ '\x7d' :: rest)) ≠ '\x7d' :: tail := by
            intro tail hclose
            rw [List.map_cons, commaSeparated, List.append_assoc, m.text_append,
              skipBlanks_append (hrooms m (by simp)), skipBlanks_cons (by decide)] at hclose
            exact absurd (List.cons.inj hclose).1 (by decide)
          simp only [List.length_cons, List.length_append] at hfuel
          rw [List.cons_append, List.nil_append, readValue?_object hopen,
            readMembers?_commaSeparated hrooms ih (by simp) hroom (by omega)]
          rfl
  | indented hroom h ih =>
      -- the reader skips the room in front before it looks at anything
      intro fuel rest hfuel hrest
      rw [List.length_append] at hfuel
      rw [List.append_assoc, ← readValue?_skipBlanks, skipBlanks_append hroom, readValue?_skipBlanks]
      exact ih _ _ (by omega) hrest

/-- **A text of a value is parsed as the value**, also with room behind it. -/
theorem Spells.parse?_append {v : Json} {cs room : List Char} (h : Spells greatestDepth v cs)
    (hroom : IsRoom room) : parse? (String.ofList (cs ++ room)) = some v := by
  have hfuel : 2 * cs.length ≤ 2 * (cs ++ room).length + 2 := by
    rw [List.length_append]
    omega
  have hread := h.readsAs _ room hfuel (endsNumeral_of_isRoom hroom)
  have hend : skipBlanks room = [] := by
    have hskip := skipBlanks_append hroom []
    rwa [List.append_nil] at hskip
  rw [parse?, String.toList_ofList, parseChars?, hread]
  simp only [Option.bind_eq_bind, Option.bind_some, hend, List.isEmpty_nil, if_true]

theorem Spells.parse?_ofList {v : Json} {cs : List Char} (h : Spells greatestDepth v cs) :
    parse? (String.ofList cs) = some v := by
  have hparse := h.parse?_append fun c hc => absurd hc List.not_mem_nil
  rwa [List.append_nil] at hparse

/-! ## The marks of a layout -/

theorem enclosed_eq (first last : Char) (items : List (List Char)) :
    enclosed first last items = first :: (commaSeparated items ++ ([] ++ [last])) := by
  cases items with
  | nil => rfl
  | cons item items => simp [enclosed, commaSeparated]

theorem compactItems_eq (items : List Json) :
    compactItems items = furtherChars (items.map compactChars) := by
  induction items with
  | nil => rfl
  | cons v vs ih => rw [compactItems, ih, List.map_cons, furtherChars]

theorem compactMembers_eq (members : List (String × Json)) :
    compactMembers members =
      furtherChars ((members.map fun m => (m.1, compactChars m.2)).map memberChars) := by
  induction members with
  | nil => rfl
  | cons m ms ih =>
      rw [compactMembers, ih]
      simp [furtherChars, memberChars]

/-- The compact text of a list is made of those of its items. -/
theorem compactChars_list (items : List Json) :
    compactChars (.list items) = listChars (items.map compactChars) := by
  cases items with
  | nil => rfl
  | cons v vs =>
      rw [compactChars, compactItems_eq]
      rfl

/-- The compact text of an object is made of those of its members. -/
theorem compactChars_object (members : List (String × Json)) :
    compactChars (.object members) =
      objectChars (members.map fun m => (m.1, compactChars m.2)) := by
  cases members with
  | nil => rfl
  | cons m ms =>
      rw [compactChars, compactMembers_eq]
      simp [objectChars, enclosed, memberChars]

theorem prettyItems_eq (level : Nat) (items : List Json) :
    prettyItems level items =
      furtherChars (items.map fun v => lineChars level ++ prettyChars level v) := by
  induction items with
  | nil => rfl
  | cons v vs ih =>
      rw [prettyItems, ih, List.map_cons, furtherChars, List.append_assoc]

theorem prettyMembers_eq (level : Nat) (members : List (String × Json)) :
    prettyMembers level members =
      furtherChars (members.map fun m =>
        lineChars level ++ (textChars m.1 ++ ':' :: ' ' :: prettyChars level m.2)) := by
  induction members with
  | nil => rfl
  | cons m ms ih =>
      rw [prettyMembers, ih]
      simp [furtherChars]

/-- Members whose keys ascend are the members of the object as they stand. -/
theorem ofMembers_eq_object {members : List (String × Json)} (keys : List String)
    (hkeys : Keyed.keys members = keys) (h : Roster.Ascending keys) :
    ofMembers members = .object members := by
  subst hkeys
  rw [ofMembers, Keyed.ofList_of_ascending h]

/-! ## Writing -/

theorem isRoom_nil : IsRoom [] :=
  fun c hc => absurd hc (by simp)

theorem isRoom_lineChars (level : Nat) : IsRoom (lineChars level) := by
  intro c hc
  rcases List.mem_cons.mp hc with rfl | hc
  · decide
  · rw [List.eq_of_mem_replicate hc]
    decide

theorem spells_list {α : Type} {depth : Nat} {parts : List α} (value : α → Json)
    (chars : α → List Char) {room : List Char} (hroom : IsRoom room)
    (h : ∀ a ∈ parts, Spells depth (value a) (chars a)) :
    Spells (depth + 1) (.list (parts.map value))
      ('[' :: (commaSeparated (parts.map chars) ++ (room ++ [']']))) := by
  have hspelt : ∀ item ∈ parts.map (fun a => (value a, chars a)), Spells depth item.1 item.2 := by
    intro item hitem
    obtain ⟨a, ha, rfl⟩ := List.mem_map.mp hitem
    exact h a ha
  simpa [Function.comp_def] using Spells.list hroom hspelt

theorem spells_object {depth : Nat} {members : List (String × Json)} (chars : Json → List Char)
    {before room : List Char} (hbefore : IsRoom before) (hroom : IsRoom room)
    (h : ∀ m ∈ members, Spells depth m.2 (chars m.2)) :
    Spells (depth + 1) (.ofMembers members)
      ('\x7b' :: (commaSeparated (members.map fun m => before ++ (textChars m.1 ++ ':' :: chars m.2))
        ++ (room ++ ['\x7d']))) := by
  have hspelt : ∀ s ∈ members.map (fun m => SpeltMember.mk before m.1 m.2 (chars m.2)),
      IsRoom s.room ∧ Spells depth s.value s.chars := by
    intro s hs
    obtain ⟨m, hm, rfl⟩ := List.mem_map.mp hs
    exact ⟨hbefore, h m hm⟩
  have hspells := Spells.object hroom (fun s hs => (hspelt s hs).1) fun s hs => (hspelt s hs).2
  simpa [Function.comp_def, SpeltMember.text, SpeltMember.member] using hspells

/-- A layout by which texts of the parts of a value make up a text of the value. The members of an
object may be written in any order, and so what is written of an item may differ from the item. -/
structure IsLayout (chars : Nat → Json → List Char) : Prop where
  scalar : ∀ level v, (∀ items, v ≠ .list items) → (∀ members, v ≠ .object members) →
    chars level v = scalarChars v
  list : ∀ {α : Type} level depth (parts : List α) (value written : α → Json),
    (∀ a ∈ parts, Spells depth (value a) (chars (level + 1) (written a))) →
    Spells (depth + 1) (.list (parts.map value)) (chars level (.list (parts.map written)))
  object : ∀ level depth members, (∀ m ∈ members, Spells depth m.2 (chars (level + 1) m.2)) →
    Spells (depth + 1) (.ofMembers members) (chars level (.object members))

/-- **The layout without any blank.** -/
theorem isLayout_compactChars : IsLayout fun _ => compactChars where
  scalar _ v hlist hobject := by
    cases v with
    | list items => exact absurd rfl (hlist items)
    | object members => exact absurd rfl (hobject members)
    | _ => simp [compactChars]
  list _ depth parts value written h := by
    rw [compactChars_list, listChars, enclosed_eq, List.map_map]
    exact spells_list value (compactChars ∘ written) isRoom_nil h
  object _ depth members h := by
    rw [compactChars_object, objectChars, enclosed_eq, List.map_map]
    exact spells_object compactChars isRoom_nil isRoom_nil h

/-- **The layout with one item to a line.** -/
theorem isLayout_prettyChars : IsLayout prettyChars where
  scalar _ v hlist hobject := by
    cases v with
    | list items => exact absurd rfl (hlist items)
    | object members => exact absurd rfl (hobject members)
    | _ => simp [prettyChars]
  list level depth parts value written h := by
    cases parts with
    | nil =>
        rw [List.map_nil, List.map_nil, prettyChars]
        exact spells_list value (prettyChars (level + 1) ∘ written) isRoom_nil h
    | cons a as =>
        have hspells := spells_list value
          (fun b => lineChars (level + 1) ++ prettyChars (level + 1) (written b))
          (isRoom_lineChars level) fun b hb => .indented (isRoom_lineChars _) (h b hb)
        show Spells _ _ (prettyChars level (.list (written a :: as.map written)))
        rw [prettyChars, prettyItems_eq]
        simpa [commaSeparated, Function.comp_def] using hspells
  object level depth members h := by
    cases members with
    | nil =>
        rw [prettyChars]
        exact spells_object (prettyChars (level + 1)) isRoom_nil isRoom_nil h
    | cons m ms =>
        have hspace : IsRoom [' '] := by simp [IsRoom, isSeparator]
        have hspells := spells_object (fun v => [' '] ++ prettyChars (level + 1) v)
          (isRoom_lineChars (level + 1)) (isRoom_lineChars level)
          fun m hm => .indented hspace (h m hm)
        rw [prettyChars, prettyMembers_eq]
        simpa [commaSeparated] using hspells

/-- A value that a text can carry exactly: no floating-point number, no integer beyond a word, members
in ascending order, and at most `depth` lists and objects inside each other. -/
def IsPlain : Nat → Json → Prop
  | _, .int n => FitsWord n
  | _, .float _ => False
  | 0, .list _ => False
  | 0, .object _ => False
  | depth + 1, .list items => ∀ item ∈ items, IsPlain depth item
  | depth + 1, .object members =>
      Roster.Ascending (Keyed.keys members) ∧ ∀ m ∈ members, IsPlain depth m.2
  | _, _ => True

variable {chars : Nat → Json → List Char} {depth : Nat} {v : Json}

theorem IsLayout.spells_scalar (hchars : IsLayout chars) (h : IsPlain depth v)
    (hlist : ∀ items, v ≠ .list items) (hobject : ∀ members, v ≠ .object members) (level : Nat) :
    Spells depth v (chars level v) := by
  rw [hchars.scalar level v hlist hobject]
  cases v with
  | null => exact .null
  | bool b => exact .flag b
  | int n =>
      refine .int ?_
      cases depth <;> exact h
  | float x => cases depth <;> exact absurd h id
  | text s => exact .text
  | list items => exact absurd rfl (hlist items)
  | object members => exact absurd rfl (hobject members)

/-- **What a layout makes of a plain value is a text of the value.** -/
theorem IsLayout.spells (hchars : IsLayout chars) (h : IsPlain depth v) (level : Nat) :
    Spells depth v (chars level v) := by
  induction depth generalizing level v with
  | zero =>
      cases v with
      | list items => exact absurd h id
      | object members => exact absurd h id
      | _ => exact hchars.spells_scalar h (by simp) (by simp) level
  | succ depth ih =>
      cases v with
      | list items =>
          have hspells := hchars.list level depth items id id fun v hv => ih (h v hv) (level + 1)
          rwa [List.map_id] at hspells
      | object members =>
          obtain ⟨hascending, hmembers⟩ := h
          have hspells := hchars.object level depth members fun m hm =>
            ih (hmembers m hm) (level + 1)
          rwa [ofMembers_eq_object _ rfl hascending] at hspells
      | _ => exact hchars.spells_scalar h (by simp) (by simp) level

/-- Both ways of writing a text follow a layout. -/
theorem exists_isLayout {text : Json → String} (h : text ∈ [compact, pretty]) :
    ∃ chars, IsLayout chars ∧ text = fun v => String.ofList (chars 0 v) := by
  simp only [List.mem_cons, List.not_mem_nil, or_false] at h
  rcases h with rfl | rfl
  · exact ⟨_, isLayout_compactChars, rfl⟩
  · exact ⟨_, isLayout_prettyChars, rfl⟩

/-- **What is written of a plain value is parsed as the value.** -/
theorem parse?_written (h : IsPlain greatestDepth v) {text : Json → String}
    (htext : text ∈ [compact, pretty]) : parse? (text v) = some v := by
  obtain ⟨chars, hchars, rfl⟩ := exists_isLayout htext
  exact (hchars.spells h 0).parse?_ofList

end Audience.Json
