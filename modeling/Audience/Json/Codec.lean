import Audience.Json.Mismatch

/-!
# `Audience.Json.Codec` — reading and writing the parts of a document

A codec writes values of a type as JSON and reads them back. It may read more than it writes: a code
is always written as a text and may be read from an integer.

## Contents
- **Codecs.** `Codec`, with its round-trip law.
- **Scalars.** `Codec.text`, `flag`, `count`, `raw` and `code`, and the readings `segment?` and
  `ratio?`.
- **Compounds.** `Codec.list`, `Codec.pair` and `Codec.convert`.
-/

namespace Audience.Json

open Number

/-! ## Codecs -/

/-- Writing and reading values of a type: what was written reads back. -/
structure Codec (α : Type) where
  encode : α → Json
  decode : Json → Except Mismatch α
  decode_encode : ∀ v, decode (encode v) = .ok v

namespace Codec

/-! ## Scalars -/

/-- A text. -/
def text : Codec String where
  encode := .text
  decode
    | .text s => .ok s
    | v => .error (.wrongKind v .text)
  decode_encode _ := rfl

/-- A truth value. -/
def flag : Codec Bool where
  encode := .bool
  decode
    | .bool b => .ok b
    | v => .error (.wrongKind v .flag)
  decode_encode _ := rfl

/-- An unsigned 32-bit integer. -/
def count : Codec UInt32 where
  encode n := .int n.toNat
  decode
    | .int n =>
        if fitsUInt32 n then .ok (UInt32.ofNat n.toNat) else .error (.outOfRange n .count)
    | v => .error (.wrongKind v .count)
  decode_encode n := by
    have h : fitsUInt32 (n.toNat : Int) = true := by
      have := n.toNat_lt
      simp [fitsUInt32]
      omega
    simp [h]

/-- A signed 64-bit integer. No document has a field of this kind: segments are codes there. The reading
is for conditions that are given to the library as JSON, as tests do. -/
def segment? : Json → Except Mismatch Int
  | .int n => if fitsInt64 n then .ok n else .error (.outOfRange n .segment)
  | v => .error (.wrongKind v .segment)

/-- A floating-point number; an integer stands for the nearest one. -/
def ratio? : Json → Except Mismatch Binary64
  | .float x => .ok x
  | .int n => .ok (.ofInt n)
  | v => .error (.wrongKind v .ratio)

/-- Any value. -/
def raw : Codec Json where
  encode := id
  decode := .ok
  decode_encode _ := rfl

/-- A code: a text, or a signed 64-bit integer that stands for its decimal digits. -/
def code : Codec String where
  encode := .text
  decode
    | .text s => .ok s
    | .int n => if fitsInt64 n then .ok (intText n) else .error .noCode
    | _ => .error .noCode
  decode_encode _ := rfl

theorem text_ne_null (s : String) : text.encode s ≠ .null :=
  fun h => Json.noConfusion h

theorem code_ne_null (s : String) : code.encode s ≠ .null :=
  fun h => Json.noConfusion h

/-! ## Compounds -/

theorem mapM_decode_map_encode {α : Type} (c : Codec α) (vs : List α) :
    (vs.map c.encode).mapM c.decode = .ok vs := by
  induction vs with
  | nil => rfl
  | cons v vs ih =>
      rw [List.map_cons, List.mapM_cons, c.decode_encode, ih]
      rfl

/-- A list; the first item at fault decides. -/
def list {α : Type} (c : Codec α) : Codec (List α) where
  encode vs := .list (vs.map c.encode)
  decode
    | .list items => items.mapM c.decode
    | v => .error (.wrongKind v .list)
  decode_encode vs := mapM_decode_map_encode c vs

theorem list_ne_null {α : Type} (c : Codec α) (vs : List α) : (list c).encode vs ≠ .null :=
  fun h => Json.noConfusion h

/-- Two texts in a list of exactly two items. The items are read before their number is checked. -/
def pair : Codec (String × String) where
  encode p := .list [.text p.1, .text p.2]
  decode
    | .list [] => .error (.shortPair 0)
    | .list (a :: rest) => do
        let x ← text.decode a
        match rest with
        | [] => .error (.shortPair 1)
        | b :: others =>
            let y ← text.decode b
            if others.isEmpty then .ok (x, y) else .error (.tooLong (others.length + 2))
    | v => .error (.wrongKind v .pair)
  decode_encode _ := rfl

/-- A value in another form. -/
def convert {α β : Type} (c : Codec α) (read : α → β) (write : β → α)
    (read_write : ∀ b, read (write b) = b) : Codec β where
  encode b := c.encode (write b)
  decode v := (c.decode v).map read
  decode_encode b := by rw [c.decode_encode]; exact congrArg Except.ok (read_write b)

end Codec

end Audience.Json
