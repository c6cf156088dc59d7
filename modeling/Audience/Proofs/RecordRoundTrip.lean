import Audience.Json.Record
import Audience.Proofs.JsonText

/-!
# `Audience.Proofs.RecordRoundTrip` — a record reads back what its fields have written

A record is written field by field, and a field that holds its default may write nothing. The members
that result are looked up by key when the record is read, so their order does not matter: every field
finds what it has written, or nothing where it has written nothing, and either way it reads its value.

## Contents
- **Filled fields.** `FilledField`, the members that fields write, and which keys these have.
- **Sound members.** What `Schema.members` returns when it does not fail.
- **Formats.** `RecordFormat`: what makes a list of fields the format of a type of records.
- **Reading.** `WrittenAs.get_eq`, `RecordFormat.members_eq_ok`, and `ofJson_written` for both orders of
  the members.
- **Texts.** `RecordFormat.spells_written`.
- **Recoding.** `RecordFormat.recode_recode`.
-/

namespace Audience.Json

/-! ## Filled fields -/

/-- The members among these entries; an entry without a value is none. -/
def present (entries : List (String × Option Json)) : List (String × Json) :=
  entries.filterMap fun e => e.2.map fun v => (e.1, v)

/-- A field of a record with a value for it. -/
structure FilledField where
  α : Type
  field : RecordField α
  value : α

namespace FilledField

/-- The key of the field. -/
def key (f : FilledField) : String :=
  f.field.key

/-- What a schema demands of the field. -/
def rule (f : FilledField) : Rule :=
  f.field.rule

/-- What the field writes for its value, if it writes anything. -/
def written (f : FilledField) : Option Json :=
  f.field.encode f.value

/-- The members that the fields write, in their order. -/
def members (fs : List FilledField) : List (String × Json) :=
  fs.flatMap fun f => f.field.put f.value

variable {fs : List FilledField} {ms : List (String × Json)}

theorem put_eq (f : FilledField) :
    f.field.put f.value = (f.written.map fun v => (f.key, v)).toList := by
  unfold RecordField.put written key
  split
  · rename_i hnone
    rw [hnone]
    rfl
  · rename_i v hsome
    rw [hsome]
    rfl

theorem members_cons (f : FilledField) (rest : List FilledField) :
    members (f :: rest) = (f.written.map fun v => (f.key, v)).toList ++ members rest := by
  rw [← put_eq]
  rfl

/-- The members are the fields that write something. -/
theorem members_eq_present (fs : List FilledField) :
    members fs = present (fs.map fun f => (f.key, f.written)) := by
  rw [members, present, List.filterMap_map, List.filterMap_eq_flatMap_toList]
  exact congrArg (fun write => fs.flatMap write) (funext put_eq)

theorem mem_members {m : String × Json} :
    m ∈ members fs ↔ ∃ f ∈ fs, f.key = m.1 ∧ f.written = some m.2 := by
  simp only [members, put_eq, List.mem_flatMap, Option.mem_toList, Option.map_eq_some_iff,
    Prod.ext_iff]
  grind

/-- The members have the keys of the fields that wrote them. -/
theorem keys_members_sublist (fs : List FilledField) :
    (Keyed.keys (members fs)).Sublist (fs.map key) := by
  induction fs with
  | nil => exact List.Sublist.refl _
  | cons f rest ih =>
      rw [members_cons, Keyed.keys_append]
      cases f.written with
      | none => exact ih.cons _
      | some v => exact ih.cons_cons _

theorem lookup?_members (h : (fs.map key).Nodup) {f : FilledField} (hf : f ∈ fs) :
    Keyed.lookup? f.key (members fs) = f.written := by
  induction fs with
  | nil => exact absurd hf (by simp)
  | cons g rest ih =>
      obtain ⟨hg, hrest⟩ := List.nodup_cons.mp h
      rw [members_cons, Keyed.lookup?_append]
      rcases List.mem_cons.mp hf with rfl | hf
      · -- no later field writes under this key
        have hlater : f.key ∉ Keyed.keys (members rest) :=
          fun hk => hg ((keys_members_sublist rest).subset hk)
        rw [Keyed.lookup?_of_notMem hlater, Option.or_none]
        cases hwritten : f.written with
        | none => rfl
        | some v => simp [Keyed.lookup?]
      · have hne : g.key ≠ f.key := fun heq => hg (heq ▸ List.mem_map_of_mem hf)
        rw [ih hrest hf]
        cases g.written with
        | none => rfl
        | some v => simp [Keyed.lookup?, hne]

/-- The members are those that the fields write, in whatever order. -/
structure WrittenAs (fs : List FilledField) (ms : List (String × Json)) : Prop where
  mem : ∀ m ∈ ms, m ∈ members fs
  lookup? : ∀ f ∈ fs, Keyed.lookup? f.key ms = f.written

/-- The members in the order of the fields. -/
theorem writtenAs_members (h : (fs.map key).Nodup) : WrittenAs fs (members fs) where
  mem _ hm := hm
  lookup? _ hf := lookup?_members h hf

/-- The members in ascending order of their keys. -/
theorem writtenAs_ofList (h : (fs.map key).Nodup) :
    WrittenAs fs (Keyed.ofList (members fs)) where
  mem _ hm := Keyed.mem_of_mem_ofList hm
  lookup? f hf := by
    rw [Keyed.lookup?_ofList ((keys_members_sublist fs).nodup h)]
    exact lookup?_members h hf

/-- **Every field reads its value**, also where it has written nothing. -/
theorem WrittenAs.get_eq (h : WrittenAs fs ms) {f : FilledField} (hf : f ∈ fs) :
    f.field.get ms = f.value := by
  have hlookup : Keyed.lookup? f.field.key ms = f.field.encode f.value := h.lookup? f hf
  rw [RecordField.get, hlookup]
  cases hwritten : f.field.encode f.value with
  | none =>
      -- only the default is left out, and the default is what an absent field reads
      exact (f.field.eq_default _ hwritten).symm
  | some v =>
      simp only [f.field.decode_encode _ _ hwritten]
      rfl

end FilledField

/-! ## Sound members -/

/-- The members of a record that is an object are those of the object. -/
theorem Schema.eq_of_members_object {s : Schema} {members ms : List (String × Json)}
    (h : s.members (.object members) = .ok ms) : ms = members := by
  simp only [Schema.members] at h
  generalize members.forM s.check = checked, s.missing? members = missing at h
  cases checked with
  | error e => cases h
  | ok u =>
      cases missing with
      | some p => cases h
      | none => exact (Except.ok.inj h).symm

/-- The members of a record that is a list are its items under the keys of the fields. -/
theorem Schema.eq_of_members_list {s : Schema} {items : List Json}
    {ms : List (String × Json)} (h : s.members (.list items) = .ok ms) :
    ms = (s.rules.map Rule.key).zip items := by
  simp only [Schema.members] at h
  generalize (s.rules.map Rule.key).zip items = members at h ⊢
  generalize members.forM s.check = checked, s.missing? members = missing at h
  cases checked with
  | error e => cases h
  | ok u =>
      cases missing with
      | some p => cases h
      | none =>
          by_cases hlength : s.rules.length < items.length
          · rw [if_pos hlength] at h
            cases h
          · rw [if_neg hlength] at h
            exact (Except.ok.inj h).symm

/-! ## Formats -/

/-- How records of a type stand in JSON: the schema and the fields agree, no two fields have one key,
what is required is always written, and a record is what is read of its fields. -/
structure RecordFormat (R : Type) where
  schema : Schema
  fields : R → List FilledField
  ofMembers : List (String × Json) → R
  rules_eq : ∀ r, schema.rules = (fields r).map FilledField.rule
  nodup_keys : (schema.rules.map Rule.key).Nodup
  required_written : ∀ r, ((fields r).all fun f => !f.field.required || f.written.isSome) = true
  get_eq : ∀ ms, ∀ f ∈ fields (ofMembers ms), f.field.get ms = f.value
  ofMembers_eq : ∀ r ms, (∀ f ∈ fields r, f.field.get ms = f.value) → ofMembers ms = r

namespace RecordFormat

variable {R : Type} (format : RecordFormat R)

/-- The record in a JSON value. -/
def ofJson (v : Json) : Except Mismatch R :=
  (format.schema.members v).map format.ofMembers

/-- The record as a JSON value. -/
def toJson (r : R) : Json :=
  .ofMembers (FilledField.members (format.fields r))

/-- The record as an object with the members in the order of the fields. -/
def declared (r : R) : Json :=
  .object (FilledField.members (format.fields r))

theorem nodup_fields (r : R) : ((format.fields r).map FilledField.key).Nodup := by
  have hkeys := format.nodup_keys
  rw [format.rules_eq r, List.map_map] at hkeys
  exact hkeys

/-! ## Reading -/

theorem forM_eq_ok {ε α : Type} {check : α → Except ε Unit} {as : List α}
    (h : ∀ a ∈ as, check a = .ok ()) : as.forM check = .ok () := by
  induction as with
  | nil => rfl
  | cons a rest ih =>
      show (check a >>= fun _ => rest.forM check) = _
      rw [h a (by simp)]
      exact ih fun b hb => h b (by simp [hb])

variable {format} {r : R} {ms : List (String × Json)}

theorem eq_of_key {f g : FilledField} (hf : f ∈ format.fields r) (hg : g ∈ format.fields r)
    (hkey : f.key = g.key) : f = g :=
  List.inj_on_of_nodup_map (format.nodup_fields r) hf hg hkey

/-- A rule stands for the field of its key. -/
theorem rule_eq {f : FilledField} (hf : f ∈ format.fields r) {rule : Rule}
    (hrule : rule ∈ format.schema.rules) (hkey : rule.key = f.key) : rule = f.rule := by
  rw [format.rules_eq r] at hrule
  obtain ⟨g, hg, rfl⟩ := List.mem_map.mp hrule
  rw [eq_of_key hg hf hkey]

/-- The member that a field has written passes the check of its key. -/
theorem check_eq_ok {m : String × Json} (hm : m ∈ FilledField.members (format.fields r)) :
    format.schema.check m = .ok () := by
  obtain ⟨f, hf, hkey, hwritten⟩ := FilledField.mem_members.mp hm
  rw [Schema.check]
  split
  · rename_i rule hfind
    have hrule : rule.key = m.1 := by simpa using List.find?_some hfind
    rw [rule_eq hf (List.mem_of_find?_eq_some hfind) (hrule.trans hkey.symm)]
    show (f.field.decode m.2).map _ = _
    rw [f.field.decode_encode _ _ hwritten]
    rfl
  · rfl

theorem missing?_eq_none (h : FilledField.WrittenAs (format.fields r) ms) :
    format.schema.missing? ms = none := by
  rw [Schema.missing?, List.find?_eq_none]
  intro p hp
  have hrule := List.fst_mem_of_mem_zipIdx hp
  rw [format.rules_eq r] at hrule
  obtain ⟨f, hf, hfp⟩ := List.mem_map.mp hrule
  have hlookup : Keyed.lookup? f.rule.key ms = f.written := h.lookup? f hf
  rw [← hfp, hlookup, Bool.and_eq_true, not_and, Option.isNone_iff_eq_none]
  intro hrequired
  have hwritten := List.all_eq_true.mp (format.required_written r) f hf
  rw [show f.field.required = true from hrequired, Bool.not_true, Bool.false_or] at hwritten
  exact Option.isSome_iff_ne_none.mp hwritten

/-- **A record that was written is sound.** -/
theorem members_eq_ok (h : FilledField.WrittenAs (format.fields r) ms) :
    format.schema.members (.object ms) = .ok ms := by
  have hcheck : ms.forM format.schema.check = .ok () :=
    forM_eq_ok fun m hm => check_eq_ok (h.mem m hm)
  simp only [Schema.members, hcheck, missing?_eq_none h]
  rfl

/-- **A record is read back**, whatever the order of the members. -/
theorem ofJson_written {write : R → Json} (hwrite : write ∈ [format.toJson, format.declared])
    (r : R) : format.ofJson (write r) = .ok r := by
  have hread : ∀ {ms}, FilledField.WrittenAs (format.fields r) ms →
      format.ofJson (.object ms) = .ok r := by
    intro ms h
    rw [ofJson, members_eq_ok h]
    exact congrArg Except.ok (format.ofMembers_eq r ms fun f hf => h.get_eq hf)
  simp only [List.mem_cons, List.not_mem_nil, or_false] at hwrite
  rcases hwrite with rfl | rfl
  · exact hread (FilledField.writtenAs_ofList (format.nodup_fields r))
  · exact hread (FilledField.writtenAs_members (format.nodup_fields r))

/-! ## Texts -/

/-- **What is written of a record is a text of it**, in any layout and with the members in either
order. -/
theorem spells_written {chars : Nat → Json → List Char} (hchars : IsLayout chars)
    {write : R → Json} (hwrite : write ∈ [format.toJson, format.declared]) {depth : Nat}
    (hplain : ∀ f ∈ format.fields r, ∀ v ∈ f.written, IsPlain depth v) (level : Nat) :
    Spells (depth + 1) (format.toJson r) (chars level (write r)) := by
  have hmembers : ∀ m ∈ FilledField.members (format.fields r),
      Spells depth m.2 (chars (level + 1) m.2) := by
    intro m hm
    obtain ⟨f, hf, -, hwritten⟩ := FilledField.mem_members.mp hm
    exact hchars.spells (hplain f hf m.2 hwritten) (level + 1)
  simp only [List.mem_cons, List.not_mem_nil, or_false] at hwrite
  rcases hwrite with rfl | rfl
  · -- sorting the members once more changes nothing
    have hspells := hchars.object level depth _ fun m hm => hmembers m (Keyed.mem_of_mem_ofList hm)
    rwa [Json.ofMembers, Keyed.ofList_ofList] at hspells
  · exact hchars.object level depth _ hmembers

/-! ## Recoding -/

/-- The record in a JSON value, written again. -/
def recode (format : RecordFormat R) (v : Json) : Except Mismatch Json :=
  (format.ofJson v).map format.toJson

/-- **Writing what was read settles in one step.** -/
theorem recode_recode (v : Json) : (format.recode v).bind format.recode = format.recode v := by
  unfold recode
  cases format.ofJson v with
  | error e => rfl
  | ok r =>
      show (format.ofJson (format.toJson r)).map format.toJson = .ok (format.toJson r)
      rw [ofJson_written List.mem_cons_self]
      rfl

end RecordFormat

end Audience.Json
