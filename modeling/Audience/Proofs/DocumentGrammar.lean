import Audience.Proofs.Contribution
import Audience.Proofs.DocumentRoundTrip
import Mathlib.Data.List.Find

/-!
# `Audience.Proofs.DocumentGrammar` — which documents are definitions, and of what

A definition is read from an object by passing over its members: every member under a known key must
have the form of its field, and the one field that is required must be there. The grammar says this
without a reader. It has a row for each field, with the JSON values that may stand there and the value
that each stands for. An object is a definition exactly where it fits the rows one by one, and each field
of the definition is then what stands in its row, or the default where nothing stands there.

## Contents
- **Forms.** `Form`, which JSON values stand for what, and `Form.IsReadBy` for the readers of forms.
- **Grammars.** `FormField`, one row of a grammar, with `Admits` and `HoldsIn`.
- **Sound objects.** What `Schema.check` and `Schema.missing?` let through, and
  `RecordFormat.ofJson_object_eq_ok_iff`.
- **Rows and fields.** `RecordFormat.Describes`, when a row says what a field of a format does.
- **Unknown keys.** `RecordFormat.ofJson_object_known`.
- **Definitions.** `Definition.grammar` and `Definition.rows_describe`.
- **Documents.** `Definition.IsDocument` and `Definition.parse_eq_ok_iff`, and
  `Definition.grammar_decides`.
-/

namespace Audience

namespace Json

/-! ## Forms -/

/-- Which JSON values stand for which values of a type. -/
abbrev Form (α : Type) : Type :=
  Json → α → Prop

namespace Form

variable {α : Type}

/-- A text stands for itself. -/
def text : Form String :=
  fun v s => v = .text s

/-- A truth value stands for itself. -/
def flag : Form Bool :=
  fun v b => v = .bool b

/-- An integer stands for the unsigned 32-bit number that it is. -/
def count : Form UInt32 :=
  fun v n => v = .int n.toNat

/-- A text stands for itself, and a signed 64-bit integer for its decimal digits. -/
inductive code : Form String
  | text (s : String) : code (.text s) s
  | int {n : Int} (hlow : -9223372036854775808 ≤ n) (hhigh : n ≤ 9223372036854775807) :
      code (.int n) (Number.intText n)

/-- A list of exactly two texts stands for the partner segment that they name. -/
def partner : Form PartnerSegment :=
  fun v p => v = .list [.text p.provider, .text p.segment]

/-- A list stands for the values of its items. -/
inductive list (item : Form α) : Form (List α)
  | items {vs : List Json} {as : List α} (h : List.Forall₂ item vs as) : list item (.list vs) as

/-- Null stands for no value. -/
inductive optional (form : Form α) : Form (Option α)
  | null : optional form .null none
  | value {v : Json} {a : α} (h : form v a) : optional form v (some a)

/-- The reader accepts the values of the form and no others, and reads what they stand for. -/
def IsReadBy (form : Form α) (decode : Json → Except Mismatch α) : Prop :=
  ∀ v a, decode v = .ok a ↔ form v a

theorem text_isReadBy : text.IsReadBy Codec.text.decode := by
  intro v s
  cases v <;> simp [Codec.text, text]

theorem flag_isReadBy : flag.IsReadBy Codec.flag.decode := by
  intro v b
  cases v <;> simp [Codec.flag, flag]

theorem count_isReadBy : count.IsReadBy Codec.count.decode := by
  intro v k
  have hk := k.toNat_lt
  constructor
  · intro h
    cases v with
    | int n =>
        have hread : (if Number.fitsUInt32 n then Except.ok (UInt32.ofNat n.toNat)
            else Except.error (Mismatch.outOfRange n .count)) = Except.ok k := h
        by_cases hn : Number.fitsUInt32 n = true
        · rw [if_pos hn] at hread
          simp only [Number.fitsUInt32, Bool.and_eq_true, decide_eq_true_eq] at hn
          rw [← Except.ok.inj hread]
          show Json.int n = .int (UInt32.ofNat n.toNat).toNat
          rw [UInt32.toNat_ofNat_of_lt' (by simp; omega)]
          congr 1
          omega
        · rw [if_neg hn] at hread
          cases hread
    | null | bool _ | float _ | text _ | list _ | object _ => cases h
  · rintro rfl
    exact Codec.count.decode_encode k

theorem code_isReadBy : code.IsReadBy Codec.code.decode := by
  intro v s
  constructor
  · intro h
    cases v with
    | text t =>
        cases h
        exact .text s
    | int n =>
        have hread : (if Number.fitsInt64 n then Except.ok (Number.intText n)
            else Except.error Mismatch.noCode) = Except.ok s := h
        by_cases hn : Number.fitsInt64 n = true
        · rw [if_pos hn] at hread
          simp only [Number.fitsInt64, Bool.and_eq_true, decide_eq_true_eq] at hn
          cases hread
          exact .int (by omega) (by omega)
        · rw [if_neg hn] at hread
          cases hread
    | null | bool _ | float _ | list _ | object _ => cases h
  · intro h
    cases h with
    | text s => rfl
    | @int n hlow hhigh =>
        have hn : Number.fitsInt64 n = true := by
          simp only [Number.fitsInt64, Bool.and_eq_true, decide_eq_true_eq]
          omega
        exact if_pos hn

/-- A pair is a list of two texts, and of nothing else. -/
theorem pair_decode_eq_ok_iff {v : Json} {p : String × String} :
    Codec.pair.decode v = .ok p ↔ v = .list [.text p.1, .text p.2] := by
  constructor
  · intro h
    cases v with
    | list items =>
        cases items with
        | nil => cases h
        | cons a rest =>
            obtain ⟨x, hx, hrest⟩ := bind_eq_ok_iff.mp h
            have ha : a = .text x := (text_isReadBy a x).mp hx
            cases rest with
            | nil => cases hrest
            | cons b others =>
                obtain ⟨y, hy, hothers⟩ := bind_eq_ok_iff.mp hrest
                have hb : b = .text y := (text_isReadBy b y).mp hy
                cases others with
                | nil =>
                    cases hothers
                    rw [ha, hb]
                | cons c others => cases hothers
    | null | bool _ | int _ | float _ | text _ | object _ => cases h
  · rintro rfl
    exact Codec.pair.decode_encode p

theorem partner_isReadBy : partner.IsReadBy Definition.partnerCodec.decode := by
  intro v p
  constructor
  · intro h
    obtain ⟨q, hq, rfl⟩ := map_eq_ok_iff.mp h
    exact pair_decode_eq_ok_iff.mp hq
  · rintro rfl
    exact Definition.partnerCodec.decode_encode p

theorem list_isReadBy {item : Form α} {c : Codec α} (h : item.IsReadBy c.decode) :
    (list item).IsReadBy (Codec.list c).decode := by
  intro v as
  constructor
  · intro hread
    cases v with
    | list vs =>
        have hrun : vs.mapM c.decode = .ok as := hread
        exact .items ((mapM_eq_ok_iff.mp hrun).imp fun v a => (h v a).mp)
    | null | bool _ | int _ | float _ | text _ | object _ => cases hread
  · rintro ⟨hitems⟩
    exact mapM_eq_ok_iff.mpr (hitems.imp fun v a => (h v a).mpr)

/-- Null is left to the absence of a value where it stands for nothing else. -/
theorem optional_isReadBy {form : Form α} {decode : Json → Except Mismatch α}
    (h : form.IsReadBy decode) (hnull : ∀ a, ¬ form .null a) :
    (optional form).IsReadBy (RecordField.decodeOption decode) := by
  intro v a
  by_cases hv : v = .null
  · subst hv
    constructor
    · intro hread
      cases hread
      exact .null
    · intro hform
      cases hform with
      | null => rfl
      | value hvalue => exact absurd hvalue (hnull _)
  · rw [RecordField.decodeOption_of_ne_null hv, map_eq_ok_iff]
    constructor
    · rintro ⟨b, hb, rfl⟩
      exact .value ((h v b).mp hb)
    · intro hform
      cases hform with
      | null => exact absurd rfl hv
      | @value _ b hvalue => exact ⟨b, (h v b).mpr hvalue, rfl⟩

end Form

/-! ## Grammars -/

/-- A row of a grammar: the key of a field, the form of its value, its value where the field is absent,
and where the value is in a record. What has no default must be there. -/
structure FormField (R : Type) where
  key : String
  α : Type
  form : Form α
  default : Option α
  value : R → α

namespace FormField

variable {R α : Type}

/-- A field that must be there. -/
def required (key : String) (form : Form α) (value : R → α) : FormField R :=
  ⟨key, α, form, none, value⟩

/-- A field with a default, in whose place null does not stand. -/
def plain (key : String) (form : Form α) (default : α) (value : R → α) : FormField R :=
  ⟨key, α, form, some default, value⟩

/-- A field that has no value where it is absent or null. -/
def nullable (key : String) (form : Form α) (value : R → Option α) : FormField R :=
  ⟨key, Option α, .optional form, some none, value⟩

/-- The object fits the row: the field is there if it must be, and what is there has its form. -/
def Admits (f : FormField R) (ms : List (String × Json)) : Prop :=
  (f.default = none → ∃ v, (f.key, v) ∈ ms) ∧ ∀ v, (f.key, v) ∈ ms → ∃ a, f.form v a

/-- The record has in the field what stands in the object there, or the default. -/
def HoldsIn (f : FormField R) (ms : List (String × Json)) (r : R) : Prop :=
  match Keyed.lookup? f.key ms with
  | some v => f.form v (f.value r)
  | none => f.default = some (f.value r)

end FormField

/-! ## Sound objects -/

theorem forM_eq_ok_iff {ε α : Type} {check : α → Except ε Unit} {as : List α} :
    as.forM check = .ok () ↔ ∀ a ∈ as, check a = .ok () := by
  constructor
  · intro h
    induction as with
    | nil => simp
    | cons a rest ih =>
        obtain ⟨_, ha, hrest⟩ := bind_eq_ok_iff.mp h
        exact List.forall_mem_cons.mpr ⟨ha, ih hrest⟩
  · exact RecordFormat.forM_eq_ok

theorem mem_keys_iff_exists_mem {α : Type} {key : String} {ms : List (String × α)} :
    key ∈ Keyed.keys ms ↔ ∃ v, (key, v) ∈ ms := by
  simp [Keyed.keys]

namespace Schema

variable {s : Schema} {ms ms' : List (String × Json)}

/-- An object is sound when each of its members is, and nothing is missing. -/
theorem members_object_eq_ok_iff : s.members (.object ms) = .ok ms' ↔
    ms' = ms ∧ (∀ m ∈ ms, s.check m = .ok ()) ∧ s.missing? ms = none := by
  rw [← forM_eq_ok_iff]
  constructor
  · intro h
    obtain ⟨_, hcheck, hmissing⟩ := bind_eq_ok_iff.mp h
    cases hnone : s.missing? ms with
    | some found =>
        rw [hnone] at hmissing
        cases hmissing
    | none =>
        rw [hnone] at hmissing
        cases hmissing
        exact ⟨rfl, hcheck, rfl⟩
  · rintro ⟨rfl, hcheck, hmissing⟩
    simp only [members, hcheck, hmissing]
    rfl

/-- Nothing is missing when the keys of all required fields are there. -/
theorem missing?_eq_none_iff : s.missing? ms = none ↔
    ∀ rule ∈ s.rules, rule.required = true → ∃ v, (rule.key, v) ∈ ms := by
  rw [missing?, List.find?_eq_none]
  have hthere : ∀ rule : Rule,
      ¬ (rule.required && (Keyed.lookup? rule.key ms).isNone) = true ↔
        (rule.required = true → ∃ v, (rule.key, v) ∈ ms) := by
    intro rule
    rw [← mem_keys_iff_exists_mem, Keyed.mem_keys_iff, ← Option.isSome_iff_exists,
      Bool.and_eq_true, not_and, Option.isNone_iff_eq_none, Option.isSome_iff_ne_none]
  constructor
  · intro h rule hrule
    have hindexed : rule ∈ s.rules.zipIdx.map Prod.fst := by rwa [List.zipIdx_map_fst]
    obtain ⟨p, hp, rfl⟩ := List.mem_map.mp hindexed
    exact (hthere p.1).mp (h p hp)
  · intro h p hp
    exact (hthere p.1).mpr (h p.1 (List.fst_mem_of_mem_zipIdx hp))

end Schema

/-- The object fits the field: it is there if it is required, and what is there can be read. -/
def FilledField.IsAdmitted (f : FilledField) (ms : List (String × Json)) : Prop :=
  (f.field.required = true → ∃ v, (f.key, v) ∈ ms) ∧
    ∀ v, (f.key, v) ∈ ms → ∃ a, f.field.decode v = .ok a

/-- A field that is absent from an object that fits it is not required. -/
theorem FilledField.IsAdmitted.not_required {f : FilledField} {ms : List (String × Json)}
    (h : f.IsAdmitted ms) (habsent : Keyed.lookup? f.key ms = none) : f.field.required = false := by
  rw [← Bool.not_eq_true]
  intro hrequired
  obtain ⟨v, hv⟩ := Keyed.mem_keys_iff.mp (mem_keys_iff_exists_mem.mpr (h.1 hrequired))
  rw [habsent] at hv
  cases hv

namespace RecordFormat

variable {R : Type} {format : RecordFormat R} {ms : List (String × Json)} {r : R}

/-- The check of a member reads it for the field of its key, if there is one. -/
theorem check_eq_ok_iff (r : R) {m : String × Json} : format.schema.check m = .ok () ↔
    ∀ f ∈ format.fields r, f.key = m.1 → ∃ a, f.field.decode m.2 = .ok a := by
  rw [Schema.check]
  constructor
  · intro h f hf hkey
    have hrule : f.rule ∈ format.schema.rules := by
      rw [format.rules_eq r]
      exact List.mem_map_of_mem hf
    cases hfind : format.schema.rules.find? (·.key == m.1) with
    | none =>
        have hnone := List.find?_eq_none.mp hfind f.rule hrule
        exact absurd (beq_iff_eq.mpr hkey) hnone
    | some rule =>
        have hrkey : rule.key = m.1 := by simpa using List.find?_some hfind
        rw [hfind, rule_eq hf (List.mem_of_find?_eq_some hfind) (hrkey.trans hkey.symm)] at h
        obtain ⟨a, ha, -⟩ := map_eq_ok_iff.mp h
        exact ⟨a, ha⟩
  · intro h
    split
    · rename_i rule hfind
      have hrule := List.mem_of_find?_eq_some hfind
      rw [format.rules_eq r] at hrule
      obtain ⟨f, hf, rfl⟩ := List.mem_map.mp hrule
      have hkey : f.rule.key = m.1 := by simpa using List.find?_some hfind
      obtain ⟨a, ha⟩ := h f hf hkey
      exact map_eq_ok_iff.mpr ⟨a, ha, rfl⟩
    · rfl

/-- **An object is sound when it fits all fields.** -/
theorem members_object_eq_ok_iff (r : R) {ms' : List (String × Json)} :
    format.schema.members (.object ms) = .ok ms' ↔
      ms' = ms ∧ ∀ f ∈ format.fields r, f.IsAdmitted ms := by
  rw [Schema.members_object_eq_ok_iff, Schema.missing?_eq_none_iff, format.rules_eq r,
    List.forall_mem_map]
  refine and_congr_right fun _ => ?_
  constructor
  · rintro ⟨hcheck, hrequired⟩ f hf
    refine ⟨hrequired f hf, ?_⟩
    intro v hv
    exact (check_eq_ok_iff r).mp (hcheck (f.key, v) hv) f hf rfl
  · intro h
    refine ⟨?_, fun f hf => (h f hf).1⟩
    intro m hm
    refine (check_eq_ok_iff r).mpr ?_
    intro f hf hkey
    exact (h f hf).2 m.2 (hkey ▸ hm)

/-- **An object is read as the record of what its fields read**, if it fits all of them. -/
theorem ofJson_object_eq_ok_iff : format.ofJson (.object ms) = .ok r ↔
    ∀ f ∈ format.fields r, f.IsAdmitted ms ∧ f.field.get ms = f.value := by
  rw [ofJson, map_eq_ok_iff]
  constructor
  · rintro ⟨ms', hms, rfl⟩
    obtain ⟨rfl, hadmitted⟩ := (members_object_eq_ok_iff _).mp hms
    exact fun f hf => ⟨hadmitted f hf, format.get_eq _ f hf⟩
  · intro h
    exact ⟨ms, (members_object_eq_ok_iff r).mpr ⟨rfl, fun f hf => (h f hf).1⟩,
      format.ofMembers_eq r ms fun f hf => (h f hf).2⟩

/-- An object that fits all fields is read as some record. -/
theorem exists_ofJson_object_eq_ok_iff (r : R) : (∃ r', format.ofJson (.object ms) = .ok r') ↔
    ∀ f ∈ format.fields r, f.IsAdmitted ms := by
  simp only [ofJson, map_eq_ok_iff, members_object_eq_ok_iff r]
  constructor
  · rintro ⟨_, _, ⟨-, hadmitted⟩, -⟩
    exact hadmitted
  · intro hadmitted
    exact ⟨_, _, ⟨rfl, hadmitted⟩, rfl⟩

/-! ## Rows and fields -/

/-- The row says of a field what the format does with it. -/
inductive Describes (r : R) : FormField R → FilledField → Prop
  | row {α : Type} {key : String} {form : Form α} {default : Option α} {value : R → α}
      {field : RecordField α} (hkey : field.key = key) (hread : form.IsReadBy field.decode)
      (hdefault : default = if field.required then none else some field.default) :
      Describes r ⟨key, α, form, default, value⟩ ⟨α, field, value r⟩

theorem Describes.admits_iff {row : FormField R} {f : FilledField} (h : Describes r row f) :
    row.Admits ms ↔ f.IsAdmitted ms := by
  cases h with
  | @row α key form default value field hkey hread hdefault =>
      subst hkey
      have hrequired : default = none ↔ field.required = true := by
        rw [hdefault]
        cases field.required <;> simp
      refine and_congr (imp_congr_left hrequired) ?_
      refine forall₂_congr fun v _ => exists_congr fun a => ?_
      exact (hread v a).symm

theorem Describes.holdsIn_iff {row : FormField R} {f : FilledField} (h : Describes r row f)
    (hadmitted : f.IsAdmitted ms) : row.HoldsIn ms r ↔ f.field.get ms = f.value := by
  cases h with
  | @row α key form default value field hkey hread hdefault =>
      subst hkey
      unfold FormField.HoldsIn RecordField.get
      cases hlookup : Keyed.lookup? field.key ms with
      | none =>
          have hoptional : field.required = false := hadmitted.not_required hlookup
          rw [hoptional] at hdefault
          show default = some (value r) ↔ field.default = value r
          rw [hdefault]
          exact Option.some_inj
      | some v =>
          obtain ⟨a, ha⟩ := hadmitted.2 v (Keyed.mem_of_lookup? hlookup)
          have hvalue : field.decode v = .ok a := ha
          show form v (value r) ↔ (field.decode v).toOption.getD field.default = value r
          rw [← hread, hvalue, Except.ok.injEq]
          rfl

/-- What is said of rows and of the fields that they describe holds of all rows if it holds of all
fields. -/
theorem forall_mem_iff_of_describes {rows : List (FormField R)} {fs : List FilledField}
    (h : List.Forall₂ (Describes r) rows fs) {P : FormField R → Prop} {Q : FilledField → Prop}
    (hPQ : ∀ row f, Describes r row f → (P row ↔ Q f)) :
    (∀ row ∈ rows, P row) ↔ ∀ f ∈ fs, Q f := by
  induction h with
  | nil => simp
  | cons hrow _ ih => rw [List.forall_mem_cons, List.forall_mem_cons, hPQ _ _ hrow, ih]

variable {rows : List (FormField R)}

/-- **The rows of a grammar decide which objects are read**, and as what. -/
theorem ofJson_object_eq_ok_iff_rows (h : List.Forall₂ (Describes r) rows (format.fields r)) :
    format.ofJson (.object ms) = .ok r ↔ ∀ row ∈ rows, row.Admits ms ∧ row.HoldsIn ms r := by
  rw [ofJson_object_eq_ok_iff]
  symm
  apply forall_mem_iff_of_describes h
  intro row f hrow
  rw [hrow.admits_iff]
  exact and_congr_right hrow.holdsIn_iff

theorem exists_ofJson_object_eq_ok_iff_rows
    (h : List.Forall₂ (Describes r) rows (format.fields r)) :
    (∃ r', format.ofJson (.object ms) = .ok r') ↔ ∀ row ∈ rows, row.Admits ms := by
  rw [exists_ofJson_object_eq_ok_iff r]
  symm
  apply forall_mem_iff_of_describes h
  intro row f hrow
  exact hrow.admits_iff

/-- A row of a field that must be there. -/
theorem Describes.required {α : Type} {key : String} {form : Form α} {c : Codec α} {unused : α}
    {value : R → α} (hread : form.IsReadBy c.decode) :
    Describes r (.required key form value) ⟨_, .mandatory key c unused, value r⟩ :=
  .row rfl hread rfl

/-- A row of a field with a default. -/
theorem Describes.plain {α : Type} {key : String} {form : Form α} {c : Codec α} {default : α}
    {value : R → α} (hread : form.IsReadBy c.decode) :
    Describes r (.plain key form default value) ⟨_, .plain key c default, value r⟩ :=
  .row rfl hread rfl

/-- A row of a field that may be absent or null. -/
theorem Describes.nullable {α : Type} {key : String} {form : Form α} {c : Codec α}
    {ne_null : ∀ a, c.encode a ≠ .null} {value : R → Option α} (hread : form.IsReadBy c.decode)
    (hnull : ∀ a, ¬ form .null a) :
    Describes r (.nullable key form value) ⟨_, .optional key c ne_null, value r⟩ :=
  .row rfl (Form.optional_isReadBy hread hnull) rfl

/-! ## Unknown keys -/

/-- A schema has a field of this key. -/
def knows (format : RecordFormat R) (key : String) : Bool :=
  (format.schema.rules.map Rule.key).contains key

theorem knows_of_mem {f : FilledField} (hf : f ∈ format.fields r) : format.knows f.key = true := by
  rw [knows, format.rules_eq r, List.map_map, List.contains_iff_mem]
  exact List.mem_map_of_mem hf

/-- The members under known keys. -/
def known (format : RecordFormat R) (ms : List (String × Json)) : List (String × Json) :=
  ms.filter fun m => format.knows m.1

theorem known_cons_of_knows {m : String × Json} (h : format.knows m.1 = true) :
    format.known (m :: ms) = m :: format.known ms :=
  List.filter_cons_of_pos h

theorem known_cons_of_not_knows {m : String × Json} (h : ¬ format.knows m.1 = true) :
    format.known (m :: ms) = format.known ms :=
  List.filter_cons_of_neg h

/-- No rule is found for an unknown key. -/
theorem check_of_not_knows {m : String × Json} (h : ¬ format.knows m.1 = true) :
    format.schema.check m = .ok () := by
  refine (check_eq_ok_iff (format.ofMembers [])).mpr ?_
  intro f hf hkey
  exact absurd (hkey ▸ knows_of_mem hf) h

theorem forM_check_known : (format.known ms).forM format.schema.check =
    ms.forM format.schema.check := by
  induction ms with
  | nil => rfl
  | cons m rest ih =>
      show _ = (format.schema.check m >>= fun _ => rest.forM format.schema.check)
      by_cases hm : format.knows m.1 = true
      · rw [known_cons_of_knows hm, ← ih]
        rfl
      · rw [known_cons_of_not_knows hm, check_of_not_knows hm, ih]
        rfl

theorem lookup?_known {key : String} (h : format.knows key = true) :
    Keyed.lookup? key (format.known ms) = Keyed.lookup? key ms := by
  induction ms with
  | nil => rfl
  | cons m rest ih =>
      obtain ⟨k, v⟩ := m
      by_cases hk : format.knows k = true
      · rw [known_cons_of_knows hk, Keyed.lookup?, Keyed.lookup?, ih]
      · have hne : k ≠ key := by
          rintro rfl
          exact hk h
        rw [known_cons_of_not_knows hk, Keyed.lookup?, if_neg hne]
        exact ih

theorem missing?_known : format.schema.missing? (format.known ms) = format.schema.missing? ms := by
  apply List.find?_congr
  intro p hp
  have hknown : format.knows p.1.key = true := by
    rw [knows, List.contains_iff_mem]
    exact List.mem_map_of_mem (List.fst_mem_of_mem_zipIdx hp)
  rw [lookup?_known hknown]

/-- **Unknown keys make no difference**, neither to the record nor to the fault. -/
theorem ofJson_object_known : format.ofJson (.object (format.known ms)) =
    format.ofJson (.object ms) := by
  have hrecord : format.ofMembers (format.known ms) = format.ofMembers ms := by
    apply format.ofMembers_eq
    intro f hf
    have hlookup : Keyed.lookup? f.field.key (format.known ms) = Keyed.lookup? f.field.key ms :=
      lookup?_known (knows_of_mem hf)
    rw [RecordField.get, hlookup]
    exact format.get_eq ms f hf
  simp only [ofJson, Schema.members, forM_check_known, missing?_known]
  cases ms.forM format.schema.check with
  | error e => rfl
  | ok _ =>
      cases format.schema.missing? ms with
      | some found => rfl
      | none => exact congrArg Except.ok hrecord

end RecordFormat

end Json

namespace Definition

open Json

/-! ## Definitions -/

/-- **The grammar of definitions.** -/
def grammar : List (FormField Definition) :=
  [.required "name" .text name, .nullable "id" .text id, .nullable "code" .code code,
   .nullable "market" .text market, .nullable "description" .text description,
   .nullable "keywords" (.list .text) keywords, .nullable "taxonomy" (.list .text) taxonomy,
   .nullable "urls" (.list .text) urls, .nullable "obsidian_id" .text obsidianId,
   .nullable "segments" (.list .code) segments,
   .nullable "second_party_segments" (.list .partner) secondPartySegments,
   .nullable "third_party_segments" (.list .partner) thirdPartySegments,
   .nullable "domains" (.list .text) domains, .plain "frequency_value" .count 1 frequency,
   .plain "during_value" .count 0 days, .plain "page_view" .flag true pageView,
   .plain "link_click" .flag false linkClick, .plain "slot_click" .flag false slotClick,
   .plain "engaged_time" .flag false engagedTime,
   .plain "engaged_completion" .flag false engagedCompletion,
   .nullable "cohort_global" .text cohortGlobal, .nullable "accurate_id" .text accurateId,
   .nullable "volume_id" .text volumeId,
   .nullable "accurate_segments" (.list .code) accurateSegments,
   .nullable "volume_segments" (.list .code) volumeSegments,
   .nullable "obsidian_segments" (.list .code) obsidianSegments, .nullable "number" .code number,
   .nullable "workspace_id" .text workspaceId, .nullable "tags" (.list .text) tags]

section Rows

variable (d : Definition) {key : String}

theorem describes_textField {value : Definition → Option String} :
    RecordFormat.Describes d (.nullable key .text value) ⟨_, textField key, value d⟩ :=
  .nullable Form.text_isReadBy (by rintro _ ⟨⟩)

theorem describes_codeField {value : Definition → Option String} :
    RecordFormat.Describes d (.nullable key .code value) ⟨_, codeField key, value d⟩ :=
  .nullable Form.code_isReadBy (by rintro _ ⟨⟩)

theorem describes_textsField {value : Definition → Option (List String)} :
    RecordFormat.Describes d (.nullable key (.list .text) value) ⟨_, textsField key, value d⟩ :=
  .nullable (Form.list_isReadBy Form.text_isReadBy) (by rintro _ ⟨⟩)

theorem describes_codesField {value : Definition → Option (List String)} :
    RecordFormat.Describes d (.nullable key (.list .code) value) ⟨_, codesField key, value d⟩ :=
  .nullable (Form.list_isReadBy Form.code_isReadBy) (by rintro _ ⟨⟩)

theorem describes_partnersField {value : Definition → Option (List PartnerSegment)} :
    RecordFormat.Describes d (.nullable key (.list .partner) value)
      ⟨_, partnersField key, value d⟩ :=
  .nullable (Form.list_isReadBy Form.partner_isReadBy) (by rintro _ ⟨⟩)

/-- **The rows of the grammar describe the fields of a definition**, one by one. -/
theorem rows_describe : List.Forall₂ (RecordFormat.Describes d) grammar (format.fields d) := by
  show List.Forall₂ (RecordFormat.Describes d) grammar d.fields
  have text := @describes_textField d
  have texts := @describes_textsField d
  have code := @describes_codeField d
  have codes := @describes_codesField d
  have partners := @describes_partnersField d
  exact .cons (.required Form.text_isReadBy) <| .cons text <| .cons code <| .cons text <|
    .cons text <| .cons texts <| .cons texts <| .cons texts <| .cons text <| .cons codes <|
    .cons partners <| .cons partners <| .cons texts <| .cons (.plain Form.count_isReadBy) <|
    .cons (.plain Form.count_isReadBy) <| .cons (.plain Form.flag_isReadBy) <|
    .cons (.plain Form.flag_isReadBy) <| .cons (.plain Form.flag_isReadBy) <|
    .cons (.plain Form.flag_isReadBy) <| .cons (.plain Form.flag_isReadBy) <| .cons text <|
    .cons text <| .cons text <| .cons codes <| .cons codes <| .cons codes <| .cons code <|
    .cons text <| .cons texts .nil

end Rows

/-! ## Documents -/

/-- What a value is a document of: the definitions of its items if it is a list, and one definition
otherwise. -/
inductive IsDocument : Json → List Definition → Prop
  | list {items : List Json} {ds : List Definition}
      (h : List.Forall₂ (fun v d => ofJson v = .ok d) items ds) : IsDocument (.list items) ds
  | single {v : Json} {d : Definition} (hlist : ∀ items, v ≠ .list items) (h : ofJson v = .ok d) :
      IsDocument v [d]

theorem listOfJson_eq_ok_iff {v : Json} {ds : List Definition} :
    listOfJson v = .ok ds ↔ IsDocument v ds := by
  by_cases hlist : ∃ items, v = .list items
  · obtain ⟨items, rfl⟩ := hlist
    show items.mapM ofJson = .ok ds ↔ _
    rw [mapM_eq_ok_iff]
    constructor
    · exact .list
    · intro h
      cases h with
      | list h => exact h
      | single hlist _ => exact absurd rfl (hlist items)
  · rw [not_exists] at hlist
    have hsingle : listOfJson v = (ofJson v).map fun d => [d] := by
      cases v with
      | list items => exact absurd rfl (hlist items)
      | null | bool _ | int _ | float _ | text _ | object _ => rfl
    rw [hsingle, map_eq_ok_iff]
    constructor
    · rintro ⟨d, hd, rfl⟩
      exact .single hlist hd
    · intro h
      cases h with
      | list h => exact absurd rfl (hlist _)
      | single _ h => exact ⟨_, h, rfl⟩

/-- The definitions in a text are those of the value that it spells. -/
theorem parse_eq_ok_iff {s : String} {ds : List Definition} :
    parse s = .ok ds ↔ ∃ v, Json.parse? s = some v ∧ IsDocument v ds := by
  rw [parse]
  cases Json.parse? s with
  | none => simp
  | some v =>
      have hshape : (listOfJson v).mapError DocumentError.shape = .ok ds ↔
          listOfJson v = .ok ds := by
        cases listOfJson v <;> simp [Except.mapError]
      show (listOfJson v).mapError DocumentError.shape = .ok ds ↔ _
      rw [hshape, listOfJson_eq_ok_iff]
      simp

/-- **The grammar decides which documents are definitions.** An object is read exactly where it fits
every row of the grammar, and each field of the definition is then what stands in its row, or the
default. Members under other keys make no difference. A list is read exactly where all of its items are,
in their order, and any other value as one definition. -/
theorem grammar_decides :
    (∀ ms, (∃ d, ofJson (.object ms) = .ok d) ↔ ∀ row ∈ grammar, row.Admits ms) ∧
    (∀ ms d, ofJson (.object ms) = .ok d ↔
      ∀ row ∈ grammar, row.Admits ms ∧ row.HoldsIn ms d) ∧
    (∀ ms, ofJson (.object (ms.filter fun m => (grammar.map FormField.key).contains m.1)) =
      ofJson (.object ms)) ∧
    (∀ items, (∃ ds, listOfJson (.list items) = .ok ds) ↔ ∀ v ∈ items, ∃ d, ofJson v = .ok d) ∧
    (∀ v ds, listOfJson v = .ok ds ↔ IsDocument v ds) ∧
    ∀ s ds, parse s = .ok ds ↔ ∃ v, Json.parse? s = some v ∧ IsDocument v ds := by
  refine ⟨?_, ?_, ?_, ?_, fun v ds => listOfJson_eq_ok_iff, fun s ds => parse_eq_ok_iff⟩
  · intro ms
    exact RecordFormat.exists_ofJson_object_eq_ok_iff_rows (rows_describe (ofName ""))
  · intro ms d
    exact RecordFormat.ofJson_object_eq_ok_iff_rows (rows_describe d)
  · intro ms
    exact format.ofJson_object_known
  · intro items
    exact exists_mapM_eq_ok_iff

end Definition

end Audience
