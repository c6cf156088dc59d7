import Audience.Proofs.JsonText

/-!
# `Audience.Proofs.QueryWire` — a query has one wire form, and the form determines the query

Every object that a query is made of declares its members in ascending order. So nothing moves when
the members are sorted for the JSON value, and the text written directly is the compact text of that
value. The other way round no information is lost: the forms without a tag of their own are told apart
by the number of their members, and all others by a key.

## Contents
- **Objects.** The equations of `toJson`, with every object's members as they are declared.
- **Text.** `compactChars` in terms of the marks of the wire form, and `Query.wireText_eq_compact`.
- **Values.** `toJson_inj` for each part of a query, and `toJson_loses_nothing`.
-/

namespace Audience

open Json

/-! ## Objects -/

theorem Json.ofMembers_singleton (key : String) (value : Json) :
    ofMembers [(key, value)] = .object [(key, value)] := rfl

theorem Comparison.toJson_eq (c : Comparison) :
    c.toJson = .object [(c.operator.name, c.operand)] := rfl

theorem Leaf.toJson_compare (property : String) (comparison : Comparison) :
    (Leaf.compare property comparison).toJson =
      .object [("condition", comparison.toJson), ("property", .text property)] :=
  ofMembers_eq_object ["condition", "property"] rfl (by decide)

theorem Leaf.toJson_anyElement (property key : String) (comparison : Comparison) (inner : Leaf) :
    (Leaf.anyElement property key comparison inner).toJson =
      .object
        [("condition",
          .object
            [("condition", comparison.toJson), ("function", .text "any"), ("property", .text key),
             ("where", inner.toJson)]),
         ("property", .text property)] := by
  rw [toJson, ofMembers_eq_object ["condition", "property"] rfl (by decide),
    ofMembers_eq_object ["condition", "function", "property", "where"] rfl (by decide)]

theorem Where.toJson_any (leaves : List Leaf) :
    (Where.any leaves).toJson = .object [("or", .list (leaves.map Leaf.toJson))] := rfl

theorem Where.toJson_all (leaves : List Leaf) :
    (Where.all leaves).toJson = .object [("and", .list (leaves.map Leaf.toJson))] := rfl

theorem Window.toJson_eq (w : Window) :
    w.toJson =
      .object [("the_last", .object [("unit", .text "days"), ("value", .int w.days.toNat)])] := by
  rw [toJson, ofMembers_singleton, ofMembers_eq_object ["unit", "value"] rfl (by decide)]

/-- The window comes first, whether there is one or not. -/
theorem Condition.toJson_event (window : Option Window) (name : String) (frequency : Comparison)
    (content : Where) :
    (Condition.event window name frequency content).toJson =
      .object (member "during" Window.toJson window ++
        [("event", .text name), ("frequency", frequency.toJson), ("where", content.toJson)]) := by
  cases window with
  | none => exact ofMembers_eq_object ["event", "frequency", "where"] rfl (by decide)
  | some w => exact ofMembers_eq_object ["during", "event", "frequency", "where"] rfl (by decide)

theorem Condition.toJson_engagedTime (seconds : Comparison) (content : Where) :
    (Condition.engagedTime seconds content).toJson =
      .object
        [("engaged_time",
          .object [("seconds", seconds.toJson), ("where", content.toJson)])] := by
  rw [toJson, ofMembers_singleton, ofMembers_eq_object ["seconds", "where"] rfl (by decide)]

theorem Condition.toJson_engagedCompletion (completion : Comparison) (content : Where) :
    (Condition.engagedCompletion completion content).toJson =
      .object
        [("engaged_completion",
          .object [("completion", completion.toJson), ("where", content.toJson)])] := by
  rw [toJson, ofMembers_singleton, ofMembers_eq_object ["completion", "where"] rfl (by decide)]

theorem Condition.toJson_hasEntered (window : Option Window) (segment : Int) :
    (Condition.hasEntered window segment).toJson =
      .object
        [("has_entered",
          .object (member "during" Window.toJson window ++ [("segment", .int segment)]))] := by
  cases window with
  | none => rfl
  | some w =>
      rw [toJson, ofMembers_singleton, ofMembers_eq_object ["during", "segment"] rfl (by decide)]

/-- The object of a partner segment. -/
theorem Json.ofMembers_partner (provider segment : String) :
    ofMembers [("provider", .text provider), ("segment", .text segment)] =
      .object [("provider", .text provider), ("segment", .text segment)] :=
  ofMembers_eq_object ["provider", "segment"] rfl (by decide)

theorem Condition.toJson_inSecondPartySegment (provider segment : String) :
    (Condition.inSecondPartySegment provider segment).toJson =
      .object
        [("in_second_party_segment",
          .object [("provider", .text provider), ("segment", .text segment)])] := by
  rw [toJson, ofMembers_singleton, ofMembers_partner]

theorem Condition.toJson_inThirdPartySegment (provider segment : String) :
    (Condition.inThirdPartySegment provider segment).toJson =
      .object
        [("in_third_party_segment",
          .object [("provider", .text provider), ("segment", .text segment)])] := by
  rw [toJson, ofMembers_singleton, ofMembers_partner]

theorem Query.toJson_any (branches : List Condition) :
    (Query.any branches).toJson = .object [("or", .list (branches.map Condition.toJson))] := rfl

theorem Query.toJson_narrowed (inner : Query) (filter : Condition) :
    (Query.narrowed inner filter).toJson =
      .object [("and", .list [inner.toJson, filter.toJson])] := rfl

/-! ## Text -/

theorem Json.compactChars_text (s : String) : compactChars (.text s) = textChars s := by
  rw [compactChars] <;> simp [scalarChars]

theorem Json.compactChars_int (n : Int) : compactChars (.int n) = Number.intChars n := by
  rw [compactChars] <;> simp [scalarChars]

theorem Comparison.wireChars_eq (c : Comparison) : c.wireChars = compactChars c.toJson := by
  rw [toJson_eq, compactChars_object]
  rfl

theorem Leaf.wireChars_eq (leaf : Leaf) : leaf.wireChars = compactChars leaf.toJson := by
  induction leaf with
  | compare property comparison =>
      rw [toJson_compare, compactChars_object, wireChars, comparison.wireChars_eq,
        ← compactChars_text]
      rfl
  | anyElement property key comparison inner ih =>
      rw [toJson_anyElement, compactChars_object, wireChars, comparison.wireChars_eq, ih]
      simp only [List.map_cons, List.map_nil, compactChars_object, compactChars_text]

/-- A written list of parts whose text is the compact text of their values. -/
theorem listChars_map_eq {α : Type} {wire : α → List Char} {toJson : α → Json} {parts : List α}
    (h : ∀ part ∈ parts, wire part = compactChars (toJson part)) :
    listChars (parts.map wire) = compactChars (.list (parts.map toJson)) := by
  rw [compactChars_list, List.map_map]
  exact congrArg listChars (List.map_congr_left h)

theorem Where.wireChars_eq (content : Where) : content.wireChars = compactChars content.toJson := by
  cases content with
  | any leaves =>
      rw [toJson_any, compactChars_object, wireChars,
        listChars_map_eq fun leaf _ => leaf.wireChars_eq]
      rfl
  | all leaves =>
      rw [toJson_all, compactChars_object, wireChars,
        listChars_map_eq fun leaf _ => leaf.wireChars_eq]
      rfl
  | single leaf => exact leaf.wireChars_eq

theorem Window.wireChars_eq (w : Window) : w.wireChars = compactChars w.toJson := by
  rw [toJson_eq, wireChars]
  simp only [compactChars_object, compactChars_text, compactChars_int, List.map_cons, List.map_nil]
  rfl

theorem windowMember_eq (window : Option Window) :
    windowMember window =
      (member "during" Window.toJson window).map fun m => (m.1, compactChars m.2) := by
  cases window with
  | none => rfl
  | some w =>
      rw [windowMember, w.wireChars_eq]
      rfl

theorem Condition.wireChars_eq (c : Condition) : c.wireChars = compactChars c.toJson := by
  cases c with
  | event window name frequency content =>
      rw [toJson_event, compactChars_object, wireChars, windowMember_eq, frequency.wireChars_eq,
        content.wireChars_eq, List.map_append]
      simp only [List.map_cons, List.map_nil, compactChars_text]
  | engagedTime seconds content =>
      rw [toJson_engagedTime, wireChars, seconds.wireChars_eq, content.wireChars_eq]
      simp only [compactChars_object, List.map_cons, List.map_nil]
  | engagedCompletion completion content =>
      rw [toJson_engagedCompletion, wireChars, completion.wireChars_eq, content.wireChars_eq]
      simp only [compactChars_object, List.map_cons, List.map_nil]
  | hasEntered window segment =>
      rw [toJson_hasEntered, wireChars, windowMember_eq]
      simp only [compactChars_object, compactChars_int, List.map_append, List.map_cons,
        List.map_nil]
  | inSecondPartySegment provider segment =>
      rw [toJson_inSecondPartySegment, wireChars]
      simp only [compactChars_object, compactChars_text, List.map_cons, List.map_nil]
  | inThirdPartySegment provider segment =>
      rw [toJson_inThirdPartySegment, wireChars]
      simp only [compactChars_object, compactChars_text, List.map_cons, List.map_nil]

theorem Query.wireChars_eq (q : Query) : q.wireChars = compactChars q.toJson := by
  induction q with
  | any branches =>
      rw [toJson_any, compactChars_object, wireChars,
        listChars_map_eq fun branch _ => branch.wireChars_eq]
      rfl
  | narrowed inner filter ih =>
      rw [toJson_narrowed, wireChars, ih, filter.wireChars_eq]
      simp only [compactChars_object, compactChars_list, List.map_cons, List.map_nil]

/-- **The text written directly is the compact text of the JSON value.** -/
theorem Query.wireText_eq_compact (q : Query) : q.wireText = compact q.toJson := by
  rw [wireText, compact, q.wireChars_eq]

/-! ## Values -/

/-- The name of an operator denotes it. -/
theorem Operator.ofName?_name (o : Operator) : ofName? o.name = some o := by
  cases o <;> decide

theorem Operator.name_inj {o o' : Operator} (h : o.name = o'.name) : o = o' := by
  have hsome : some o = some o' := by rw [← ofName?_name o, h, ofName?_name]
  exact Option.some.inj hsome

theorem Comparison.toJson_inj {c c' : Comparison} (h : c.toJson = c'.toJson) : c = c' := by
  obtain ⟨operator, operand⟩ := c
  obtain ⟨operator', operand'⟩ := c'
  simp only [toJson_eq, Json.object.injEq, List.cons.injEq, Prod.mk.injEq, and_true] at h
  obtain ⟨hname, rfl⟩ := h
  rw [Operator.name_inj hname]

/-- A comparison has one member and a test of elements has four, whatever the operator is called. -/
theorem Leaf.toJson_inj {leaf leaf' : Leaf} (h : leaf.toJson = leaf'.toJson) : leaf = leaf' := by
  induction leaf generalizing leaf' with
  | compare property comparison =>
      cases leaf' with
      | compare property' comparison' =>
          simp only [toJson_compare, Json.object.injEq, List.cons.injEq, Prod.mk.injEq,
            Json.text.injEq, true_and, and_true] at h
          obtain ⟨hcomparison, rfl⟩ := h
          rw [Comparison.toJson_inj hcomparison]
      | anyElement property' key' comparison' inner' =>
          simp [toJson_compare, toJson_anyElement, Comparison.toJson_eq] at h
  | anyElement property key comparison inner ih =>
      cases leaf' with
      | compare property' comparison' =>
          simp [toJson_compare, toJson_anyElement, Comparison.toJson_eq] at h
      | anyElement property' key' comparison' inner' =>
          simp only [toJson_anyElement, Json.object.injEq, List.cons.injEq, Prod.mk.injEq,
            Json.text.injEq, true_and, and_true] at h
          obtain ⟨⟨hcomparison, rfl, hinner⟩, rfl⟩ := h
          rw [Comparison.toJson_inj hcomparison, ih hinner]

theorem Leaf.map_toJson_inj {leaves leaves' : List Leaf}
    (h : leaves.map toJson = leaves'.map toJson) : leaves = leaves' :=
  List.map_injective_iff.mpr (fun _ _ => toJson_inj) h

/-- A leaf has two members, and combined leaves have one, under a key for each combination. -/
theorem Where.toJson_inj {content content' : Where} (h : content.toJson = content'.toJson) :
    content = content' := by
  -- a leaf with one member would be needed to pass for a combination
  have hsingle : ∀ leaf key items,
      (Where.single leaf).toJson ≠ .object [(key, .list items)] := by
    intro leaf key items hleaf
    rw [toJson] at hleaf
    cases leaf with
    | compare property comparison => simp [Leaf.toJson_compare] at hleaf
    | anyElement property key comparison inner => simp [Leaf.toJson_anyElement] at hleaf
  cases content with
  | any leaves =>
      cases content' with
      | any leaves' =>
          simp only [toJson_any, Json.object.injEq, List.cons.injEq, Prod.mk.injEq,
            Json.list.injEq, true_and, and_true] at h
          rw [Leaf.map_toJson_inj h]
      | all leaves' => simp [toJson_any, toJson_all] at h
      | single leaf' => exact absurd h.symm (hsingle leaf' _ _)
  | all leaves =>
      cases content' with
      | any leaves' => simp [toJson_any, toJson_all] at h
      | all leaves' =>
          simp only [toJson_all, Json.object.injEq, List.cons.injEq, Prod.mk.injEq,
            Json.list.injEq, true_and, and_true] at h
          rw [Leaf.map_toJson_inj h]
      | single leaf' => exact absurd h.symm (hsingle leaf' _ _)
  | single leaf =>
      cases content' with
      | any leaves' => exact absurd h (hsingle leaf _ _)
      | all leaves' => exact absurd h (hsingle leaf _ _)
      | single leaf' => exact congrArg Where.single (Leaf.toJson_inj h)

theorem Window.toJson_inj {w w' : Window} (h : w.toJson = w'.toJson) : w = w' := by
  obtain ⟨days⟩ := w
  obtain ⟨days'⟩ := w'
  simp only [toJson_eq, Json.object.injEq, List.cons.injEq, Prod.mk.injEq, Json.int.injEq,
    true_and, and_true] at h
  rw [UInt32.toNat_inj.mp (Int.ofNat_inj.mp h)]

/-- Whether there is a window is seen from the first key of the object. -/
theorem Window.member_append_inj {window window' : Option Window} {key : String} {value value' : Json}
    {rest rest' : List (String × Json)} (hkey : key ≠ "during")
    (h : member "during" toJson window ++ (key, value) :: rest =
      member "during" toJson window' ++ (key, value') :: rest') :
    window = window' ∧ value = value' ∧ rest = rest' := by
  cases window with
  | none =>
      cases window' with
      | none =>
          simp only [member, List.nil_append, List.cons.injEq, Prod.mk.injEq, true_and] at h
          exact ⟨rfl, h⟩
      | some w' => exact absurd (congrArg Prod.fst (List.cons.inj h).1) hkey
  | some w =>
      cases window' with
      | none => exact absurd (congrArg Prod.fst (List.cons.inj h).1).symm hkey
      | some w' =>
          simp only [member, List.cons_append, List.nil_append, List.cons.injEq, Prod.mk.injEq,
            true_and] at h
          exact ⟨congrArg some (toJson_inj h.1), h.2⟩

/-- The last key of the object of a condition, which a window in front does not change. -/
def Condition.lastKey : Condition → String
  | .event .. => "where"
  | .engagedTime .. => "engaged_time"
  | .engagedCompletion .. => "engaged_completion"
  | .hasEntered .. => "has_entered"
  | .inSecondPartySegment .. => "in_second_party_segment"
  | .inThirdPartySegment .. => "in_third_party_segment"

theorem Condition.exists_members (c : Condition) :
    ∃ members, c.toJson = .object members ∧ (Keyed.keys members).getLast? = some c.lastKey := by
  cases c with
  | event window name frequency content =>
      refine ⟨_, toJson_event window name frequency content, ?_⟩
      cases window <;> rfl
  | engagedTime seconds content => exact ⟨_, toJson_engagedTime seconds content, rfl⟩
  | engagedCompletion completion content =>
      exact ⟨_, toJson_engagedCompletion completion content, rfl⟩
  | hasEntered window segment => exact ⟨_, toJson_hasEntered window segment, rfl⟩
  | inSecondPartySegment provider segment =>
      exact ⟨_, toJson_inSecondPartySegment provider segment, rfl⟩
  | inThirdPartySegment provider segment =>
      exact ⟨_, toJson_inThirdPartySegment provider segment, rfl⟩

theorem Condition.lastKey_congr {c c' : Condition} (h : c.toJson = c'.toJson) :
    c.lastKey = c'.lastKey := by
  obtain ⟨members, hmembers, hlast⟩ := c.exists_members
  obtain ⟨members', hmembers', hlast'⟩ := c'.exists_members
  rw [hmembers, hmembers'] at h
  rw [Json.object.inj h, hlast'] at hlast
  exact (Option.some.inj hlast).symm

/-- The last key tells the kind of a condition, and conditions of one kind differ in a member. -/
theorem Condition.toJson_inj {c c' : Condition} (h : c.toJson = c'.toJson) : c = c' := by
  -- conditions of different kinds have different last keys, so only equal kinds are left
  have hlast := lastKey_congr h
  cases c with
  | event window name frequency content =>
      cases c' with
      | event window' name' frequency' content' =>
          rw [toJson_event, toJson_event, Json.object.injEq] at h
          obtain ⟨rfl, hname, hrest⟩ := Window.member_append_inj (by decide) h
          simp only [List.cons.injEq, Prod.mk.injEq, true_and, and_true] at hrest
          rw [Json.text.inj hname, Comparison.toJson_inj hrest.1, Where.toJson_inj hrest.2]
      | _ => simp [lastKey] at hlast
  | engagedTime seconds content =>
      cases c' with
      | engagedTime seconds' content' =>
          simp only [toJson_engagedTime, Json.object.injEq, List.cons.injEq, Prod.mk.injEq,
            true_and, and_true] at h
          rw [Comparison.toJson_inj h.1, Where.toJson_inj h.2]
      | _ => simp [lastKey] at hlast
  | engagedCompletion completion content =>
      cases c' with
      | engagedCompletion completion' content' =>
          simp only [toJson_engagedCompletion, Json.object.injEq, List.cons.injEq, Prod.mk.injEq,
            true_and, and_true] at h
          rw [Comparison.toJson_inj h.1, Where.toJson_inj h.2]
      | _ => simp [lastKey] at hlast
  | hasEntered window segment =>
      cases c' with
      | hasEntered window' segment' =>
          simp only [toJson_hasEntered, Json.object.injEq, List.cons.injEq, Prod.mk.injEq,
            true_and, and_true] at h
          obtain ⟨rfl, hsegment, -⟩ := Window.member_append_inj (by decide) h
          rw [Json.int.inj hsegment]
      | _ => simp [lastKey] at hlast
  | inSecondPartySegment provider segment =>
      cases c' with
      | inSecondPartySegment provider' segment' =>
          simp only [toJson_inSecondPartySegment, Json.object.injEq, List.cons.injEq,
            Prod.mk.injEq, Json.text.injEq, true_and, and_true] at h
          rw [h.1, h.2]
      | _ => simp [lastKey] at hlast
  | inThirdPartySegment provider segment =>
      cases c' with
      | inThirdPartySegment provider' segment' =>
          simp only [toJson_inThirdPartySegment, Json.object.injEq, List.cons.injEq,
            Prod.mk.injEq, Json.text.injEq, true_and, and_true] at h
          rw [h.1, h.2]
      | _ => simp [lastKey] at hlast

theorem Query.toJson_inj {q q' : Query} (h : q.toJson = q'.toJson) : q = q' := by
  induction q generalizing q' with
  | any branches =>
      cases q' with
      | any branches' =>
          simp only [toJson_any, Json.object.injEq, List.cons.injEq, Prod.mk.injEq,
            Json.list.injEq, true_and, and_true] at h
          rw [List.map_injective_iff.mpr (fun _ _ => Condition.toJson_inj) h]
      | narrowed inner' filter' => simp [toJson_any, toJson_narrowed] at h
  | narrowed inner filter ih =>
      cases q' with
      | any branches' => simp [toJson_any, toJson_narrowed] at h
      | narrowed inner' filter' =>
          simp only [toJson_narrowed, Json.object.injEq, List.cons.injEq, Prod.mk.injEq,
            Json.list.injEq, true_and, and_true] at h
          rw [ih h.1, Condition.toJson_inj h.2]

/-- **The JSON value determines the query**, and so it does for every part of a query: no two
comparisons, leaves, combinations, conditions or queries have one value. -/
theorem Query.toJson_loses_nothing :
    (∀ q q' : Query, q.toJson = q'.toJson ↔ q = q') ∧
      (∀ c c' : Condition, c.toJson = c'.toJson ↔ c = c') ∧
      (∀ content content' : Where, content.toJson = content'.toJson ↔ content = content') ∧
      (∀ leaf leaf' : Leaf, leaf.toJson = leaf'.toJson ↔ leaf = leaf') ∧
      ∀ c c' : Comparison, c.toJson = c'.toJson ↔ c = c' :=
  ⟨fun _ _ => ⟨toJson_inj, congrArg _⟩, fun _ _ => ⟨Condition.toJson_inj, congrArg _⟩,
    fun _ _ => ⟨Where.toJson_inj, congrArg _⟩, fun _ _ => ⟨Leaf.toJson_inj, congrArg _⟩,
    fun _ _ => ⟨Comparison.toJson_inj, congrArg _⟩⟩

end Audience
