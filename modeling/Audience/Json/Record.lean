import Audience.Json.Codec

/-!
# `Audience.Json.Record` — records as objects

A record is read from an object whose members are its fields, or from a list that holds its fields in
the order in which they are declared. Members that are not fields are ignored, and a field that is
absent takes its default unless it is required.

Reading has two passes: the first checks the members in their order, so that the first one at fault
decides, and then that no required field is missing; the second takes the value of every field.

## Contents
- **Fields.** `RecordField` with its `plain`, `mandatory` and `optional` forms, `RecordField.get` and
  `RecordField.put`.
- **Schemas.** `Rule`, `Schema`, and the first pass `Schema.members`.
-/

namespace Audience.Json

/-! ## Fields -/

/-- A field of a record: its key, how it is read and written, and its value when it is absent. What is
written reads back, and only the default is left out. -/
structure RecordField (α : Type) where
  key : String
  required : Bool
  default : α
  decode : Json → Except Mismatch α
  encode : α → Option Json
  decode_encode : ∀ v j, encode v = some j → decode j = .ok v
  eq_default : ∀ v, encode v = none → v = default

namespace RecordField

variable {α : Type}

/-- A field that is always written and may be absent. -/
def plain (key : String) (c : Codec α) (default : α) : RecordField α where
  key := key
  required := false
  default := default
  decode := c.decode
  encode v := some (c.encode v)
  decode_encode v j h := by
    rw [← Option.some.inj h]
    exact c.decode_encode v
  eq_default v h := by cases h

/-- A field that is always written and must be there; `unused` stands where no value is needed. -/
def mandatory (key : String) (c : Codec α) (unused : α) : RecordField α :=
  { plain key c unused with required := true }

/-- Reads `null` as no value. -/
def decodeOption (decode : Json → Except Mismatch α) : Json → Except Mismatch (Option α)
  | .null => .ok none
  | v => (decode v).map some

theorem decodeOption_of_ne_null {decode : Json → Except Mismatch α} {v : Json} (h : v ≠ .null) :
    decodeOption decode v = (decode v).map some := by
  cases v <;> first | rfl | exact absurd rfl h

/-- A field that is left out where there is no value, and may be `null` as well as absent. -/
def optional (key : String) (c : Codec α) (ne_null : ∀ v, c.encode v ≠ .null) :
    RecordField (Option α) where
  key := key
  required := false
  default := none
  decode := decodeOption c.decode
  encode v := v.map c.encode
  decode_encode v j h := by
    cases v with
    | none => cases h
    | some v =>
        rw [← Option.some.inj h, decodeOption_of_ne_null (ne_null v), c.decode_encode]
        rfl
  eq_default v h := by
    cases v with
    | none => rfl
    | some v => cases h

/-- The value of the field among the members of a record. -/
def get (f : RecordField α) (members : List (String × Json)) : α :=
  match Keyed.lookup? f.key members with
  | none => f.default
  | some v => (f.decode v).toOption.getD f.default

/-- The member for a value of the field, if it is written. -/
def put (f : RecordField α) (v : α) : List (String × Json) :=
  match f.encode v with
  | none => []
  | some j => [(f.key, j)]

end RecordField

/-! ## Schemas -/

/-- What a schema demands of one field. -/
structure Rule where
  key : String
  required : Bool
  check : Json → Except Mismatch Unit

/-- The demand of a field: its value can be read. -/
def RecordField.rule {α : Type} (f : RecordField α) : Rule :=
  ⟨f.key, f.required, fun v => (f.decode v).map fun _ => ()⟩

/-- The fields of a record in the order of their declaration, under the record's title. -/
structure Schema where
  title : String
  rules : List Rule

namespace Schema

/-- A member is sound when it is no field or its value can be read. -/
def check (s : Schema) (m : String × Json) : Except Mismatch Unit :=
  match s.rules.find? (·.key == m.1) with
  | some r => r.check m.2
  | none => .ok ()

/-- The first required field that is absent, with its index. -/
def missing? (s : Schema) (members : List (String × Json)) : Option (Rule × Nat) :=
  s.rules.zipIdx.find? fun r => r.1.required && (Keyed.lookup? r.1.key members).isNone

/-- The members of a sound record. -/
def members (s : Schema) : Json → Except Mismatch (List (String × Json))
  | .object members => do
      members.forM s.check
      match s.missing? members with
      | some (r, _) => .error (.missing r.key)
      | none => .ok members
  | .list items => do
      let members := (s.rules.map (·.key)).zip items
      members.forM s.check
      match s.missing? members with
      | some (_, index) => .error (.shortRecord index s.title s.rules.length)
      | none =>
          if s.rules.length < items.length then .error (.tooLong items.length) else .ok members
  | v => .error (.wrongKind v (.record s.title))

end Schema

end Audience.Json
