import Audience.Proofs.DocumentRoundTrip
import Mathlib.Data.List.Forall2

/-!
# `Audience.Proofs.CodeSpelling` — codes may be integers or texts

A code that is an integer stands for its decimal digits, so a document in which integers are respelt
as the texts of their digits holds the same definitions. This holds of every code on its own: of
documents with both kinds of code, and also of those that are at fault elsewhere, which have the same
fault after respelling.

## Contents
- **Reading alike.** `RecordFormat.ReadAlike` members, and `ofJson_object_congr`, `ofJson_list_congr`.
- **Respelling.** `SameCode`, `Respelt` members and `Definition.RespeltAs`.
- **Definitions.** `Definition.ofJson_congr`.
-/

namespace Audience

open Json

/-! ## Reading alike -/

/-- Lists with the same keys have values in the same places, and related ones. -/
theorem Keyed.lookup?_forall₂ {α : Type} {R : String → α → α → Prop} {ms ms' : List (String × α)}
    (h : List.Forall₂ (fun m m' => m.1 = m'.1 ∧ R m.1 m.2 m'.2) ms ms') (key : String) :
    Option.Rel (R key) (lookup? key ms) (lookup? key ms') := by
  induction h with
  | nil => exact .none
  | @cons m m' rest rest' hm _ ih =>
      obtain ⟨k, v⟩ := m
      obtain ⟨k', v'⟩ := m'
      obtain ⟨rfl, hv⟩ := hm
      rw [lookup?, lookup?]
      by_cases hk : k = key
      · subst hk
        rw [if_pos rfl, if_pos rfl]
        exact .some hv
      · rw [if_neg hk, if_neg hk]
        exact ih

namespace Json.RecordFormat

variable {R : Type} {format : RecordFormat R} {ms ms' : List (String × Json)}

/-- Under this key, the values read alike. -/
def Agree (format : RecordFormat R) (key : String) (v v' : Json) : Prop :=
  ∀ r, ∀ f ∈ format.fields r, f.key = key → f.field.decode v = f.field.decode v'

/-- The members have the same keys, and read alike one by one. -/
def ReadAlike (format : RecordFormat R) (ms ms' : List (String × Json)) : Prop :=
  List.Forall₂ (fun m m' => m.1 = m'.1 ∧ format.Agree m.1 m.2 m'.2) ms ms'

theorem check_congr {m m' : String × Json} (hkey : m.1 = m'.1)
    (hagree : format.Agree m.1 m.2 m'.2) : format.schema.check m = format.schema.check m' := by
  rw [Schema.check, Schema.check, ← hkey]
  split
  · rename_i rule hfind
    have hrule := List.mem_of_find?_eq_some hfind
    -- the keys of the fields are the same for every record, so any record names them
    rw [format.rules_eq (format.ofMembers [])] at hrule
    obtain ⟨f, hf, rfl⟩ := List.mem_map.mp hrule
    have hfkey : f.rule.key = m.1 := by simpa using List.find?_some hfind
    exact congrArg (Except.map fun _ => ()) (hagree _ f hf hfkey)
  · rfl

theorem forM_check_congr (h : format.ReadAlike ms ms') :
    ms.forM format.schema.check = ms'.forM format.schema.check := by
  induction h with
  | nil => rfl
  | @cons m m' rest rest' hm _ ih =>
      show (format.schema.check m >>= fun _ => rest.forM _) =
        (format.schema.check m' >>= fun _ => rest'.forM _)
      rw [check_congr hm.1 hm.2, ih]

theorem missing?_congr (h : format.ReadAlike ms ms') :
    format.schema.missing? ms = format.schema.missing? ms' := by
  have hnone : ∀ key, (Keyed.lookup? key ms).isNone = (Keyed.lookup? key ms').isNone := by
    intro key
    have hlookup := Keyed.lookup?_forall₂ h key
    generalize Keyed.lookup? key ms = v, Keyed.lookup? key ms' = v' at hlookup
    cases hlookup <;> rfl
  simp only [Schema.missing?, hnone]

theorem get_congr (h : format.ReadAlike ms ms') {r : R} {f : FilledField}
    (hf : f ∈ format.fields r) : f.field.get ms = f.field.get ms' := by
  have hlookup := Keyed.lookup?_forall₂ h f.field.key
  rw [RecordField.get, RecordField.get]
  generalize Keyed.lookup? f.field.key ms = v, Keyed.lookup? f.field.key ms' = v' at hlookup
  cases hlookup with
  | none => rfl
  | some hagree => simp only [hagree r f hf rfl]

theorem ofMembers_congr (h : format.ReadAlike ms ms') :
    format.ofMembers ms = format.ofMembers ms' := by
  symm
  apply format.ofMembers_eq
  intro f hf
  rw [← get_congr h hf]
  exact format.get_eq ms f hf

/-- **Objects that read alike hold the same record**, or have the same fault. -/
theorem ofJson_object_congr (h : format.ReadAlike ms ms') :
    format.ofJson (.object ms) = format.ofJson (.object ms') := by
  simp only [ofJson, Schema.members, forM_check_congr h, missing?_congr h]
  cases ms'.forM format.schema.check with
  | error e => rfl
  | ok u =>
      cases format.schema.missing? ms' with
      | some p => rfl
      | none => exact congrArg Except.ok (ofMembers_congr h)

/-- **Records written as lists that read alike hold the same record**, or have the same fault. -/
theorem ofJson_list_congr {items items' : List Json} (hlength : items.length = items'.length)
    (h : format.ReadAlike ((format.schema.rules.map Rule.key).zip items)
      ((format.schema.rules.map Rule.key).zip items')) :
    format.ofJson (.list items) = format.ofJson (.list items') := by
  simp only [ofJson, Schema.members, forM_check_congr h, missing?_congr h, hlength]
  cases ((format.schema.rules.map Rule.key).zip items').forM format.schema.check with
  | error e => rfl
  | ok u =>
      cases format.schema.missing? ((format.schema.rules.map Rule.key).zip items') with
      | some p => rfl
      | none =>
          show Except.map _ (if _ then _ else _) = Except.map _ (if _ then _ else _)
          split
          · rfl
          · exact congrArg Except.ok (ofMembers_congr h)

end Json.RecordFormat

/-! ## Respelling -/

namespace Json

/-- The second value is the first, or the text of its digits where the first is a 64-bit integer. -/
inductive SameCode : Json → Json → Prop
  | same (v : Json) : SameCode v v
  | respelt {n : Int} (hn : Number.fitsInt64 n = true) :
      SameCode (.int n) (.text (Number.intText n))

theorem SameCode.decode_eq {v w : Json} (h : SameCode v w) :
    Codec.code.decode v = Codec.code.decode w := by
  cases h with
  | same v => rfl
  | respelt hn => exact if_pos hn

theorem SameCode.decodeOption_eq {v w : Json} (h : SameCode v w) :
    RecordField.decodeOption Codec.code.decode v = RecordField.decodeOption Codec.code.decode w := by
  cases h with
  | same v => rfl
  | respelt hn => exact congrArg (Except.map some) (SameCode.respelt hn).decode_eq

theorem mapM_decode_congr {vs ws : List Json} (h : List.Forall₂ SameCode vs ws) :
    vs.mapM Codec.code.decode = ws.mapM Codec.code.decode := by
  induction h with
  | nil => rfl
  | cons hv _ ih => rw [List.mapM_cons, List.mapM_cons, hv.decode_eq, ih]

end Json

namespace Definition

/-- The fields that hold one code. -/
def codeKeys : List String :=
  ["code", "number"]

/-- The fields that hold a list of codes. -/
def codesKeys : List String :=
  ["segments", "accurate_segments", "volume_segments", "obsidian_segments"]

/-- The second member is the first with any number of integer codes respelt. -/
inductive RespeltMember : String × Json → String × Json → Prop
  | same (m : String × Json) : RespeltMember m m
  | code {key : String} {v w : Json} (hkey : key ∈ codeKeys) (h : SameCode v w) :
      RespeltMember (key, v) (key, w)
  | codes {key : String} {vs ws : List Json} (hkey : key ∈ codesKeys)
      (h : List.Forall₂ SameCode vs ws) : RespeltMember (key, .list vs) (key, .list ws)

/-- The keys of the fields in the order in which a definition that is a list holds them. -/
def fieldKeys : List String :=
  schema.rules.map Rule.key

/-- The second value is the first with any number of integer codes respelt, in a definition that is
written as an object or as the list of its fields. -/
inductive Respelt : Json → Json → Prop
  | object {ms ms' : List (String × Json)} (h : List.Forall₂ RespeltMember ms ms') :
      Respelt (.object ms) (.object ms')
  | list {items items' : List Json} (hlength : items.length = items'.length)
      (h : List.Forall₂ RespeltMember (fieldKeys.zip items) (fieldKeys.zip items')) :
      Respelt (.list items) (.list items')

/-! ## Definitions -/

/-- The fields of one code. -/
theorem exists_codeField {key : String} (h : key ∈ codeKeys) (d : Definition) :
    ∃ value, ⟨_, codeField key, value⟩ ∈ d.fields := by
  simp only [codeKeys, List.mem_cons, List.not_mem_nil, or_false] at h
  rcases h with rfl | rfl
  · exact ⟨d.code, by simp [fields, Fields.code]⟩
  · exact ⟨d.number, by simp [fields, Fields.number]⟩

/-- The fields of a list of codes. -/
theorem exists_codesField {key : String} (h : key ∈ codesKeys) (d : Definition) :
    ∃ value, ⟨_, codesField key, value⟩ ∈ d.fields := by
  simp only [codesKeys, List.mem_cons, List.not_mem_nil, or_false] at h
  rcases h with rfl | rfl | rfl | rfl
  · exact ⟨d.segments, by simp [fields, Fields.segments]⟩
  · exact ⟨d.accurateSegments, by simp [fields, Fields.accurateSegments]⟩
  · exact ⟨d.volumeSegments, by simp [fields, Fields.volumeSegments]⟩
  · exact ⟨d.obsidianSegments, by simp [fields, Fields.obsidianSegments]⟩

theorem RespeltMember.agree {m m' : String × Json} (h : RespeltMember m m') :
    m.1 = m'.1 ∧ format.Agree m.1 m.2 m'.2 := by
  cases h with
  | same m => exact ⟨rfl, fun _ _ _ _ => rfl⟩
  | @code key v w hkey h =>
      refine ⟨rfl, fun d f hf hfkey => ?_⟩
      obtain ⟨value, hfield⟩ := exists_codeField hkey d
      rw [RecordFormat.eq_of_key hf hfield hfkey]
      exact h.decodeOption_eq
  | @codes key vs ws hkey h =>
      refine ⟨rfl, fun d f hf hfkey => ?_⟩
      obtain ⟨value, hfield⟩ := exists_codesField hkey d
      rw [RecordFormat.eq_of_key hf hfield hfkey]
      exact congrArg (Except.map some) (mapM_decode_congr h)

/-- **Respelling codes changes nothing**: the definition is the same, or the fault is. -/
theorem ofJson_congr {v w : Json} (h : Respelt v w) : ofJson v = ofJson w := by
  show format.ofJson v = format.ofJson w
  cases h with
  | object h => exact RecordFormat.ofJson_object_congr (h.imp fun _ _ => RespeltMember.agree)
  | list hlength h =>
      exact RecordFormat.ofJson_list_congr hlength (h.imp fun _ _ => RespeltMember.agree)

end Definition

end Audience
