import Audience.Payload
import Audience.Proofs.RecordRoundTrip

/-!
# `Audience.Proofs.DocumentRoundTrip` — definitions and payloads survive their own encoding

The fields of a definition have different keys, and its name, which alone is required, is always
written. So definitions have a format, and are read back from what was written of them, with the
members sorted or in the order of the fields. All that is written are texts, truth values, 32-bit
counts and lists of them, which every layout carries exactly; this takes the round trip from values to
texts. The query of a payload may be any value, and the text of a payload is read back where the query
is plain.

## Contents
- **Plain parts.** `isPlain_text` and its like.
- **Definitions.** `Definition.format`, and `outline` for what stands in a document.
- **Texts of definitions.** `parse_written`.
- **Payloads.** `Payload.format`, `outline` and `parse?_written`.
- **Round trips.** `documents_round_trip`.
-/

namespace Audience

open Json

/-! ## Plain parts -/

namespace Json

variable {depth : Nat}

theorem isPlain_text (s : String) : IsPlain depth (.text s) := by
  cases depth <;> trivial

theorem isPlain_flag (b : Bool) : IsPlain depth (.bool b) := by
  cases depth <;> trivial

theorem isPlain_count (n : UInt32) : IsPlain depth (.int n.toNat) := by
  have hn := n.toNat_lt
  have hword : FitsWord n.toNat := by
    right
    simp only [Number.fitsUInt64, Bool.and_eq_true, decide_eq_true_eq]
    omega
  cases depth <;> exact hword

theorem isPlain_ofTexts (texts : List String) : IsPlain (depth + 1) (.ofTexts texts) := by
  intro v hv
  obtain ⟨s, -, rfl⟩ := List.mem_map.mp hv
  exact isPlain_text s

end Json

/-! ## Definitions -/

namespace Definition

/-- The fields of a definition with their values, in the order of declaration. -/
def fields (d : Definition) : List FilledField :=
  [⟨_, Fields.name, d.name⟩, ⟨_, Fields.id, d.id⟩, ⟨_, Fields.code, d.code⟩,
   ⟨_, Fields.market, d.market⟩, ⟨_, Fields.description, d.description⟩,
   ⟨_, Fields.keywords, d.keywords⟩, ⟨_, Fields.taxonomy, d.taxonomy⟩, ⟨_, Fields.urls, d.urls⟩,
   ⟨_, Fields.obsidianId, d.obsidianId⟩, ⟨_, Fields.segments, d.segments⟩,
   ⟨_, Fields.secondPartySegments, d.secondPartySegments⟩,
   ⟨_, Fields.thirdPartySegments, d.thirdPartySegments⟩, ⟨_, Fields.domains, d.domains⟩,
   ⟨_, Fields.frequency, d.frequency⟩, ⟨_, Fields.days, d.days⟩, ⟨_, Fields.pageView, d.pageView⟩,
   ⟨_, Fields.linkClick, d.linkClick⟩, ⟨_, Fields.slotClick, d.slotClick⟩,
   ⟨_, Fields.engagedTime, d.engagedTime⟩, ⟨_, Fields.engagedCompletion, d.engagedCompletion⟩,
   ⟨_, Fields.cohortGlobal, d.cohortGlobal⟩, ⟨_, Fields.accurateId, d.accurateId⟩,
   ⟨_, Fields.volumeId, d.volumeId⟩, ⟨_, Fields.accurateSegments, d.accurateSegments⟩,
   ⟨_, Fields.volumeSegments, d.volumeSegments⟩, ⟨_, Fields.obsidianSegments, d.obsidianSegments⟩,
   ⟨_, Fields.number, d.number⟩, ⟨_, Fields.workspaceId, d.workspaceId⟩, ⟨_, Fields.tags, d.tags⟩]

/-- **The format of definitions.** -/
def format : RecordFormat Definition where
  schema := schema
  fields := fields
  ofMembers := ofMembers
  rules_eq _ := rfl
  nodup_keys := by decide +kernel
  required_written _ := rfl
  get_eq ms := by simp [fields, ofMembers]
  ofMembers_eq d ms h := by
    have hget : ∀ {α : Type} (f : RecordField α) (v : α), ⟨α, f, v⟩ ∈ d.fields → f.get ms = v :=
      fun f v hf => h ⟨_, f, v⟩ hf
    unfold fields at hget
    obtain ⟨name, id, code⟩ := d
    unfold ofMembers
    congr 1
    all_goals
      apply hget
      simp only [List.mem_cons, true_or, or_true]

theorem members_eq (d : Definition) : d.members = FilledField.members d.fields := by
  rw [FilledField.members, List.flatMap_eq_foldl]
  rfl

theorem toJson_eq : toJson = format.toJson :=
  funext fun d => congrArg Json.ofMembers d.members_eq

/-- The definition as an object with the members in the order of the fields. -/
def declared (d : Definition) : Json :=
  .object d.members

theorem declared_eq : declared = format.declared :=
  funext fun d => congrArg Json.object d.members_eq

/-- Partner segments are lists of their two parts. -/
def partnersJson (partners : List PartnerSegment) : Json :=
  .list (partners.map fun p => .list [.text p.provider, .text p.segment])

/-- What stands in a document under the key of each field: codes are texts, a list may be empty, and a
field without a value has no member at all. -/
def outline (d : Definition) : List (String × Option Json) :=
  [("name", some (.text d.name)), ("id", d.id.map .text), ("code", d.code.map .text),
   ("market", d.market.map .text), ("description", d.description.map .text),
   ("keywords", d.keywords.map .ofTexts), ("taxonomy", d.taxonomy.map .ofTexts),
   ("urls", d.urls.map .ofTexts), ("obsidian_id", d.obsidianId.map .text),
   ("segments", d.segments.map .ofTexts),
   ("second_party_segments", d.secondPartySegments.map partnersJson),
   ("third_party_segments", d.thirdPartySegments.map partnersJson),
   ("domains", d.domains.map .ofTexts), ("frequency_value", some (.int d.frequency.toNat)),
   ("during_value", some (.int d.days.toNat)), ("page_view", some (.bool d.pageView)),
   ("link_click", some (.bool d.linkClick)), ("slot_click", some (.bool d.slotClick)),
   ("engaged_time", some (.bool d.engagedTime)),
   ("engaged_completion", some (.bool d.engagedCompletion)),
   ("cohort_global", d.cohortGlobal.map .text), ("accurate_id", d.accurateId.map .text),
   ("volume_id", d.volumeId.map .text), ("accurate_segments", d.accurateSegments.map .ofTexts),
   ("volume_segments", d.volumeSegments.map .ofTexts),
   ("obsidian_segments", d.obsidianSegments.map .ofTexts), ("number", d.number.map .text),
   ("workspace_id", d.workspaceId.map .text), ("tags", d.tags.map .ofTexts)]

theorem outline_eq (d : Definition) :
    d.outline = d.fields.map fun f => (f.key, f.written) := rfl

/-- The members of a definition are the fields that stand in the document. -/
theorem toJson_eq_outline (d : Definition) : d.toJson = .ofMembers (present d.outline) := by
  rw [toJson, members_eq, FilledField.members_eq_present]
  rfl

/-! ## Texts of definitions -/

theorem isPlain_partnersJson {depth : Nat} (partners : List PartnerSegment) :
    IsPlain (depth + 2) (partnersJson partners) := by
  intro v hv
  obtain ⟨p, -, rfl⟩ := List.mem_map.mp hv
  exact isPlain_ofTexts [p.provider, p.segment]

theorem isPlain_outline (d : Definition) (depth : Nat) :
    ∀ m ∈ d.outline, ∀ v ∈ m.2, IsPlain (depth + 2) v := by
  simp only [outline, List.forall_mem_cons, List.not_mem_nil, false_imp_iff, implies_true,
    Option.mem_map, Option.mem_some_iff, forall_eq', forall_exists_index, and_imp,
    forall_apply_eq_imp_iff₂, isPlain_text, isPlain_flag, isPlain_count, isPlain_ofTexts,
    isPlain_partnersJson, and_self]

theorem spells_written {chars : Nat → Json → List Char} (hchars : IsLayout chars)
    {write : Definition → Json} (hwrite : write ∈ [toJson, declared]) {depth : Nat}
    (d : Definition) (level : Nat) : Spells (depth + 3) d.toJson (chars level (write d)) := by
  rw [toJson_eq, declared_eq] at hwrite
  rw [toJson_eq]
  refine RecordFormat.spells_written hchars hwrite ?_ level
  have hplain := d.isPlain_outline depth
  rw [outline_eq, List.forall_mem_map] at hplain
  exact hplain

theorem ofJson_written {write : Definition → Json} (hwrite : write ∈ [toJson, declared])
    (d : Definition) : ofJson (write d) = .ok d := by
  rw [toJson_eq, declared_eq] at hwrite
  exact RecordFormat.ofJson_written hwrite d

theorem parse_ofList {v : Json} {cs : List Char} (h : Spells greatestDepth v cs) :
    parse (String.ofList cs) = (listOfJson v).mapError .shape := by
  rw [parse, h.parse?_ofList]

theorem listOfJson_toJson (d : Definition) : listOfJson d.toJson = .ok [d] := by
  show (ofJson d.toJson).map (fun d => [d]) = _
  rw [ofJson_written List.mem_cons_self]
  rfl

theorem mapM_ofJson_map_toJson (ds : List Definition) :
    (ds.map toJson).mapM ofJson = .ok ds := by
  induction ds with
  | nil => rfl
  | cons d ds ih =>
      rw [List.map_cons, List.mapM_cons, ofJson_written List.mem_cons_self, ih]
      rfl

/-- **The text of definitions is parsed as the definitions**, in any layout and with the members of
each in either order. -/
theorem parse_written {chars : Nat → Json → List Char} (hchars : IsLayout chars)
    {write : Definition → Json} (hwrite : write ∈ [toJson, declared]) :
    (∀ ds : List Definition, parse (String.ofList (chars 0 (.list (ds.map write)))) = .ok ds) ∧
      ∀ d, parse (String.ofList (chars 0 (write d))) = .ok [d] := by
  constructor
  · intro ds
    -- a definition is three levels deep, and the list around it adds one more
    have hspells : Spells greatestDepth (.list (ds.map toJson)) (chars 0 (.list (ds.map write))) :=
      hchars.list 0 126 ds toJson write fun d _ => spells_written hchars hwrite d 1
    rw [parse_ofList hspells, listOfJson, mapM_ofJson_map_toJson]
    rfl
  · intro d
    have hspells : Spells greatestDepth d.toJson (chars 0 (write d)) :=
      spells_written hchars hwrite d 0
    rw [parse_ofList hspells, listOfJson_toJson]
    rfl

end Definition

/-! ## Payloads -/

namespace Payload

/-- The fields of a payload with their values, in the order of declaration. -/
def fields (p : Payload) : List FilledField :=
  [⟨_, Fields.id, p.id⟩, ⟨_, Fields.name, p.name⟩, ⟨_, Fields.query, p.query⟩,
   ⟨_, Fields.description, p.description⟩, ⟨_, Fields.tags, p.tags⟩]

/-- **The format of payloads.** -/
def format : RecordFormat Payload where
  schema := schema
  fields := fields
  ofMembers := ofMembers
  rules_eq _ := rfl
  nodup_keys := by decide +kernel
  required_written _ := rfl
  get_eq ms := by simp [fields, ofMembers]
  ofMembers_eq p ms h := by
    simp only [fields, List.forall_mem_cons] at h
    obtain ⟨hid, hname, hquery, hdescription, htags, -⟩ := h
    unfold ofMembers
    rw [hid, hname, hquery, hdescription, htags]

/-- The payload as an object with the members in the order of the fields. -/
def declared (p : Payload) : Json :=
  .object (FilledField.members p.fields)

theorem toJson_eq : toJson = format.toJson := by
  funext p
  refine congrArg Json.ofMembers ?_
  show _ = FilledField.members p.fields
  rw [FilledField.members, List.flatMap_eq_foldl]
  rfl

/-- What stands in a document under the key of each field; the tags are there even if there are
none. -/
def outline (p : Payload) : List (String × Option Json) :=
  [("id", p.id.map .text), ("name", some (.text p.name)), ("query", some p.query),
   ("description", p.description.map .text), ("tags", some (.ofTexts p.tags))]

theorem toJson_eq_outline (p : Payload) : p.toJson = .ofMembers (present p.outline) := by
  rw [toJson_eq]
  exact congrArg Json.ofMembers (FilledField.members_eq_present p.fields)

theorem outline_eq (p : Payload) : p.outline = p.fields.map fun f => (f.key, f.written) := rfl

theorem isPlain_outline {depth : Nat} {p : Payload} (h : IsPlain (depth + 1) p.query) :
    ∀ m ∈ p.outline, ∀ v ∈ m.2, IsPlain (depth + 1) v := by
  simp only [outline, List.forall_mem_cons, List.not_mem_nil, false_imp_iff, implies_true,
    Option.mem_map, Option.mem_some_iff, forall_eq', forall_exists_index, and_imp,
    forall_apply_eq_imp_iff₂, isPlain_text, isPlain_ofTexts, h, and_self]

theorem ofJson_written {write : Payload → Json} (hwrite : write ∈ [toJson, declared])
    (p : Payload) : ofJson (write p) = .ok p := by
  rw [toJson_eq] at hwrite
  exact RecordFormat.ofJson_written hwrite p

/-- **The text of a payload is read back** where its query is plain. -/
theorem parse?_written {chars : Nat → Json → List Char} (hchars : IsLayout chars)
    {write : Payload → Json} (hwrite : write ∈ [toJson, declared]) {p : Payload}
    (h : IsPlain 126 p.query) :
    Json.parse? (String.ofList (chars 0 (write p))) = some p.toJson := by
  rw [toJson_eq] at hwrite ⊢
  refine (RecordFormat.spells_written hchars hwrite ?_ 0).parse?_ofList
  have hplain := isPlain_outline h
  rw [outline_eq, List.forall_mem_map] at hplain
  exact hplain

end Payload

/-! ## Round trips -/

namespace Definition

/-- The definition in a JSON value, written again. -/
def recode (v : Json) : Except Mismatch Json :=
  (ofJson v).map toJson

theorem recode_eq : recode = format.recode := by
  unfold recode RecordFormat.recode
  rw [toJson_eq]
  rfl

/-- **Definitions and payloads survive their own encoding.** Their members are the fields that have a
value. Read back as a value, or as text in any of the forms in which they are written, they are what
they were, one by one and in lists; and recoding a definition settles in one step. The query of a
payload is a value of its own, which its text carries where the query is plain. -/
theorem documents_round_trip :
    (∀ d : Definition, d.toJson = .ofMembers (present d.outline)) ∧
    (∀ write ∈ [toJson, declared],
      (∀ d, ofJson (write d) = .ok d) ∧
      ∀ text ∈ [compact, pretty],
        (∀ ds, parse (text (.list (ds.map write))) = .ok ds) ∧
        ∀ d, parse (text (write d)) = .ok [d]) ∧
    (∀ p : Payload, p.toJson = .ofMembers (present p.outline)) ∧
    (∀ write ∈ [Payload.toJson, Payload.declared], ∀ p,
      Payload.ofJson (write p) = .ok p ∧
      (IsPlain 126 p.query → ∀ text ∈ [compact, pretty],
        (Json.parse? (text (write p))).map Payload.ofJson = some (.ok p))) ∧
    ∀ v, (recode v).bind recode = recode v := by
  refine ⟨toJson_eq_outline, ?_, Payload.toJson_eq_outline, ?_, ?_⟩
  · intro write hwrite
    refine ⟨ofJson_written hwrite, ?_⟩
    intro text htext
    obtain ⟨chars, hchars, rfl⟩ := exists_isLayout htext
    exact parse_written hchars hwrite
  · intro write hwrite p
    refine ⟨Payload.ofJson_written hwrite p, ?_⟩
    intro hquery text htext
    obtain ⟨chars, hchars, rfl⟩ := exists_isLayout htext
    rw [Payload.parse?_written hchars hwrite hquery]
    exact congrArg some (Payload.ofJson_written List.mem_cons_self p)
  · rw [recode_eq]
    exact RecordFormat.recode_recode

/-- A definition with an empty list, a code that is no number, and a name that needs escapes. -/
def museum : Definition :=
  { name := "Musée \"Orsay\"\n", code := some "", keywords := some [], segments := some ["-3", "x"],
    secondPartySegments := some [⟨"acme", "s-1"⟩], days := 4294967295, pageView := false }

/-- A payload whose query has no branches. -/
def emptyQuery : Payload :=
  ⟨none, "Cyclists", .object [("or", .list [])], none, []⟩

theorem museum_round_trips :
    (declared ∈ [toJson, declared] ∧ pretty ∈ [compact, pretty] ∧
      parse (pretty (.list ([museum, ofName "Golf"].map declared))) = .ok [museum, ofName "Golf"]) ∧
    IsPlain 126 emptyQuery.query ∧ Payload.declared ∈ [Payload.toJson, Payload.declared] ∧
      (Json.parse? (pretty emptyQuery.declared)).map Payload.ofJson = some (.ok emptyQuery) := by
  obtain ⟨-, hdefinitions, -, hpayloads, -⟩ := documents_round_trip
  have hdeclared : declared ∈ [toJson, declared] := by simp
  have hpretty : pretty ∈ [compact, pretty] := by simp
  have hpayload : Payload.declared ∈ [Payload.toJson, Payload.declared] := by simp
  have hplain : IsPlain 126 emptyQuery.query := by
    refine ⟨by decide, ?_⟩
    simp [IsPlain]
  exact ⟨⟨hdeclared, hpretty, ((hdefinitions declared hdeclared).2 pretty hpretty).1 _⟩,
    hplain, hpayload, (hpayloads Payload.declared hpayload emptyQuery).2 hplain pretty hpretty⟩

end Definition

end Audience
