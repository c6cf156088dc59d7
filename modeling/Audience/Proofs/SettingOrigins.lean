import Audience.Proofs.Contribution
import Audience.Proofs.DecimalText
import Audience.Proofs.KeyedOrder
import Audience.Settings.Environment

/-!
# `Audience.Proofs.SettingOrigins` — which variables a configuration value stems from

The configuration is put together from its variables one after another, and each of them puts a value at
a path. So what is in a field in the end has been put there by some variable, whose name leads to the
field or at least to no other key of its section. The value is the text of the variable, or a piece of
that text between two commas.

Values are numbers, truth values and texts, and only a text can be blank. A comma is not blank, so a
blank value is always one of the pieces.

## Contents
- **Values of a configuration.** `Node.Holds` and `Node.FieldHolds`, with `holds_of_put?` and
  `fieldHolds_of_put?`: a change adds nothing but the value that is put in, and that where it leads.
- **Variables.** `LeadsTo` and `IsOrigin`, and `exists_origin_of_assembled`.
- **Blank values.** `IsOrigin.mem_split`.
- **Loading.** `field_of_none`, `field_of_some` and `field_eq_ok`, `settingsIn_eq_ok_iff` and
  `load_eq_ok_iff`, and `holds_of_asTexts?` for lists of texts.
-/

namespace Audience

open Text

namespace Environment

/-! ## Values of a configuration -/

/-- The value is somewhere in the configuration. -/
inductive Node.Holds : Node → Scalar → Prop
  | scalar (value : Scalar) : Holds (.scalar value) value
  | item {nodes : List Node} {n : Node} {value : Scalar} (hmem : n ∈ nodes)
      (h : Holds n value) : Holds (.items nodes) value
  | member {nodes : List (String × Node)} {key : String} {n : Node} {value : Scalar}
      (hmem : (key, n) ∈ nodes) (h : Holds n value) : Holds (.members nodes) value

variable {old new n : Node} {value : Scalar}

theorem not_holds_nothing : ¬ Node.Holds .nothing value := by
  intro h
  cases h

theorem holds_of_mem_memberNodes {key : String} (hmem : (key, n) ∈ old.memberNodes)
    (h : n.Holds value) : old.Holds value := by
  cases old with
  | members nodes => exact .member hmem h
  | nothing | scalar _ | items _ => exact absurd hmem (by simp [Node.memberNodes])

theorem holds_of_mem_itemNodes (hmem : n ∈ old.itemNodes) (h : n.Holds value) :
    old.Holds value := by
  cases old with
  | items nodes => exact .item hmem h
  | nothing | scalar _ | members _ => exact absurd hmem (by simp [Node.itemNodes])

/-- What is found in a place holds nothing if nothing is there. -/
theorem holds_of_getD {found : Option Node} (h : (found.getD .nothing).Holds value) :
    ∃ n, found = some n ∧ n.Holds value := by
  cases found with
  | none => exact absurd h not_holds_nothing
  | some n => exact ⟨n, rfl, h⟩

/-- In a list that is changed at one place, the new node is there and the others are where they were;
nothing is at the places in between. -/
theorem getElem?_setItem {place position : Nat} {nodes : List Node}
    (h : (Node.setItem place new nodes)[position]? = some n) :
    (place = position ∧ n = new) ∨ nodes[position]? = some n ∨ n = .nothing := by
  unfold Node.setItem at h
  by_cases hplace : place = position
  · subst hplace
    obtain ⟨hlength, hn⟩ := List.getElem?_eq_some_iff.mp h
    rw [List.getElem_set_self] at hn
    exact Or.inl ⟨rfl, hn.symm⟩
  · rw [List.getElem?_set_ne hplace] at h
    rcases lt_or_ge position nodes.length with hlt | hge
    · rw [List.getElem?_append_left hlt] at h
      exact Or.inr (Or.inl h)
    · rw [List.getElem?_append_right hge] at h
      exact Or.inr (Or.inr (List.eq_of_mem_replicate (List.mem_of_getElem? h)))

theorem put?_key_eq_some_iff {name : String} {path : Path} {added : Node} :
    Node.put? (.key name :: path) added old = some new ↔
      ∃ inner, Node.put? path added (sectionOf old name) = some inner ∧
        new = .members (Keyed.insert name inner old.memberNodes) := by
  simp only [Node.put?, Option.bind_eq_bind, Option.bind_eq_some_iff]
  exact exists_congr fun _ => and_congr_right fun _ => Option.some_inj.trans eq_comm

theorem put?_position_eq_some_iff {index : Int} {path : Path} {added : Node} :
    Node.put? (.position index :: path) added old = some new ↔
      ∃ place, place? old.itemNodes.length index = some place ∧
        ∃ inner, Node.put? path added (old.itemNodes[place]?.getD .nothing) = some inner ∧
          new = .items (Node.setItem place inner old.itemNodes) := by
  simp only [Node.put?, Option.bind_eq_bind, Option.bind_eq_some_iff]
  exact exists_congr fun _ => and_congr_right fun _ =>
    exists_congr fun _ => and_congr_right fun _ => Option.some_inj.trans eq_comm

/-- **A change adds nothing but the value that is put in.** -/
theorem holds_of_put? {path : Path} {added : Node} (h : Node.put? path added old = some new)
    (hvalue : new.Holds value) : added.Holds value ∨ old.Holds value := by
  -- by induction on the path: what is changed further down is one thing of a section or of a list
  induction path generalizing old new with
  | nil =>
      cases h
      exact Or.inl hvalue
  | cons step path ih =>
      cases step with
      | key name =>
          obtain ⟨inner, hinner, rfl⟩ := put?_key_eq_some_iff.mp h
          cases hvalue with
          | member hmem hheld =>
              rcases Keyed.mem_of_mem_insert hmem with heq | hmem
              · cases heq
                refine (ih hinner hheld).imp_right fun hheld => ?_
                obtain ⟨n, hfound, hheld⟩ := holds_of_getD hheld
                exact holds_of_mem_memberNodes (Keyed.mem_of_lookup? hfound) hheld
              · exact Or.inr (holds_of_mem_memberNodes hmem hheld)
      | position index =>
          obtain ⟨place, -, inner, hinner, rfl⟩ := put?_position_eq_some_iff.mp h
          cases hvalue with
          | item hmem hheld =>
              obtain ⟨_, hfound⟩ := List.mem_iff_getElem?.mp hmem
              rcases getElem?_setItem hfound with ⟨-, rfl⟩ | hfound | rfl
              · refine (ih hinner hheld).imp_right fun hheld => ?_
                obtain ⟨n, hfound, hheld⟩ := holds_of_getD hheld
                exact holds_of_mem_itemNodes (List.mem_of_getElem? hfound) hheld
              · exact Or.inr (holds_of_mem_itemNodes (List.mem_of_getElem? hfound) hheld)
              · exact absurd hheld not_holds_nothing

theorem holds_of_member {parent : Node} {key : String} {position : Nat}
    (h : member parent key position = .ok (some n)) (hvalue : n.Holds value) :
    parent.Holds value := by
  cases parent with
  | nothing => cases h
  | members nodes => exact .member (Keyed.mem_of_lookup? (Except.ok.inj h)) hvalue
  | items nodes => exact .item (List.mem_of_getElem? (Except.ok.inj h)) hvalue
  | scalar _ => cases h

/-- The value is in a field of the section. -/
def Node.FieldHolds (parent : Node) (key : String) (position : Nat) (value : Scalar) : Prop :=
  ∃ n, member parent key position = .ok (some n) ∧ n.Holds value

/-- The steps do not lead to another key. They may lead to a position, or not into the section. -/
def Path.MayReach (key : String) (path : Path) : Prop :=
  ∀ name, path.head? = some (.key name) → name = key

variable {key : String} {position : Nat}

theorem fieldHolds_of_lookup? (hfound : Keyed.lookup? key old.memberNodes = some n)
    (h : n.Holds value) : old.FieldHolds key position value := by
  cases old with
  | members nodes => exact ⟨n, congrArg Except.ok hfound, h⟩
  | nothing | scalar _ | items _ => cases hfound

theorem fieldHolds_of_getElem? (hfound : old.itemNodes[position]? = some n)
    (h : n.Holds value) : old.FieldHolds key position value := by
  cases old with
  | items nodes => exact ⟨n, congrArg Except.ok hfound, h⟩
  | nothing | scalar _ | members _ => cases hfound

/-- **A change adds nothing to a field but the value that is put in**, and that only if it may lead to
the field. -/
theorem fieldHolds_of_put? {path : Path} {added : Node} (h : Node.put? path added old = some new)
    (hvalue : new.FieldHolds key position value) :
    (path.MayReach key ∧ added.Holds value) ∨ old.FieldHolds key position value := by
  obtain ⟨n, hn, hheld⟩ := hvalue
  cases path with
  | nil =>
      cases h
      exact Or.inl ⟨fun _ hhead => absurd hhead (by simp), holds_of_member hn hheld⟩
  | cons step path =>
      cases step with
      | key name =>
          obtain ⟨inner, hinner, rfl⟩ := put?_key_eq_some_iff.mp h
          have hlookup : Keyed.lookup? key (Keyed.insert name inner old.memberNodes) = some n :=
            Except.ok.inj hn
          by_cases hname : key = name
          · subst hname
            rw [Keyed.lookup?_insert_self] at hlookup
            cases hlookup
            rcases holds_of_put? hinner hheld with hadded | hold
            · exact Or.inl ⟨by simp [Path.MayReach], hadded⟩
            · obtain ⟨n, hfound, hheld⟩ := holds_of_getD hold
              exact Or.inr (fieldHolds_of_lookup? hfound hheld)
          · rw [Keyed.lookup?_insert_of_ne hname] at hlookup
            exact Or.inr (fieldHolds_of_lookup? hlookup hheld)
      | position index =>
          obtain ⟨place, -, inner, hinner, rfl⟩ := put?_position_eq_some_iff.mp h
          rcases getElem?_setItem (Except.ok.inj hn) with ⟨rfl, rfl⟩ | hfound | rfl
          · rcases holds_of_put? hinner hheld with hadded | hold
            · exact Or.inl ⟨by simp [Path.MayReach], hadded⟩
            · obtain ⟨n, hfound, hheld⟩ := holds_of_getD hold
              exact Or.inr (fieldHolds_of_getElem? hfound hheld)
          · exact Or.inr (fieldHolds_of_getElem? hfound hheld)
          · exact absurd hheld not_holds_nothing

/-- A change in one section leaves the others as they are. -/
theorem fieldHolds_of_put?_key {part name : String} {path : Path} {added : Node}
    (h : Node.put? (.key name :: path) added old = some new)
    (hvalue : (sectionOf new part).FieldHolds key position value) :
    (name = part ∧ Path.MayReach key path ∧ added.Holds value) ∨
      (sectionOf old part).FieldHolds key position value := by
  obtain ⟨inner, hinner, rfl⟩ := put?_key_eq_some_iff.mp h
  rw [sectionOf, Node.memberNodes] at hvalue
  by_cases hpart : part = name
  · subst hpart
    rw [Keyed.lookup?_insert_self] at hvalue
    exact (fieldHolds_of_put? hinner hvalue).imp_left fun hadded => ⟨rfl, hadded⟩
  · rw [Keyed.lookup?_insert_of_ne hpart] at hvalue
    exact Or.inr hvalue

/-! ## Variables -/

/-- A variable of this name is put into the section, and there not under another key. -/
def LeadsTo (part key name : String) : Prop :=
  ∃ cs path, pathText? name = some cs ∧ Path.ofText? cs = some (.key part :: path) ∧
    Path.MayReach key path

/-- The variable leads to the field, and the value is its text or a piece of that text. -/
def IsOrigin (part key : String) (v : String × String) (value : Scalar) : Prop :=
  LeadsTo part key v.1 ∧
    (value = .ofText v.2 ∨ ∃ piece ∈ split ',' v.2, value = .text piece)

theorem text_of_ofText {s t : String} (h : Scalar.ofText s = .text t) : t = s := by
  unfold Scalar.ofText at h
  split at h
  · cases h
  · split at h
    · cases h
    · split at h
      · cases h
      · cases h
      · exact (Scalar.text.inj h).symm

/-- A text holds itself as a value or, where lists are wanted, its pieces. -/
theorem holds_ofText {isList : Bool} {s : String} (h : (Node.ofText isList s).Holds value) :
    value = .ofText s ∨ ∃ piece ∈ split ',' s, value = .text piece := by
  unfold Node.ofText at h
  split at h
  · rename_i t htext
    obtain rfl := text_of_ofText htext
    cases h with
    | item hmem hheld =>
        obtain ⟨piece, hpiece, rfl⟩ := List.mem_map.mp hmem
        cases hheld
        exact Or.inr ⟨piece, hpiece, rfl⟩
  · cases h
    exact Or.inl rfl

/-- A path starts with a key. -/
theorem exists_key_of_ofText? {cs : List Char} {path : Path} (h : Path.ofText? cs = some path) :
    ∃ name rest, path = .key name :: rest := by
  unfold Path.ofText? at h
  split at h
  · cases h
  · simp only [Option.bind_eq_bind, Option.bind_eq_some_iff] at h
    obtain ⟨step, hstep, rest, -, hpath⟩ := h
    cases hpath
    unfold keyOf? at hstep
    split at hstep
    · cases hstep
      exact ⟨_, rest, rfl⟩
    · cases hstep

variable {part : String}

/-- **A variable adds nothing to a field that it is not the origin of.** -/
theorem fieldHolds_of_withVariable {v : String × String} (h : withVariable old v = .ok new)
    (hvalue : (sectionOf new part).FieldHolds key position value) :
    IsOrigin part key v value ∨ (sectionOf old part).FieldHolds key position value := by
  unfold withVariable at h
  split at h
  · cases h
    exact Or.inr hvalue
  · rename_i cs hname
    split at h
    · cases h
      exact Or.inr hvalue
    · rename_i path hpath
      split at h
      · cases h
      · rename_i hput
        cases h
        obtain ⟨name, rest, rfl⟩ := exists_key_of_ofText? hpath
        rcases fieldHolds_of_put?_key hput hvalue with ⟨rfl, hreach, hheld⟩ | hold
        · exact Or.inl ⟨⟨cs, rest, hname, hpath, hreach⟩, holds_ofText hheld⟩
        · exact Or.inr hold

/-- **Every value in a field has a variable as its origin**, or was there before. -/
theorem fieldHolds_of_foldlM {env : List (String × String)}
    (h : env.foldlM withVariable old = .ok new)
    (hvalue : (sectionOf new part).FieldHolds key position value) :
    (∃ v ∈ env, IsOrigin part key v value) ∨
      (sectionOf old part).FieldHolds key position value := by
  induction env generalizing old with
  | nil =>
      cases h
      exact Or.inr hvalue
  | cons v rest ih =>
      rw [List.foldlM_cons] at h
      obtain ⟨next, hnext, hrest⟩ := bind_eq_ok_iff.mp h
      rcases ih hrest with ⟨v', hmem, horigin⟩ | hheld
      · exact Or.inl ⟨v', List.mem_cons_of_mem v hmem, horigin⟩
      · refine (fieldHolds_of_withVariable hnext hheld).imp_left fun horigin => ?_
        exact ⟨v, List.mem_cons_self, horigin⟩

theorem exists_origin_of_assembled {env : List (String × String)} {root : Node}
    (h : assembled env = .ok root)
    (hvalue : (sectionOf root part).FieldHolds key position value) :
    ∃ v ∈ env, IsOrigin part key v value := by
  rcases fieldHolds_of_foldlM h hvalue with horigin | ⟨n, hn, -⟩
  · exact horigin
  · -- nothing is there before the first variable
    cases hn

/-! ## Blank values -/

/-- A comma is not blank, so a blank text is the one piece of itself. -/
theorem mem_split_of_isBlank {s : String} (h : isBlank s = true) : s ∈ split ',' s := by
  have hcomma : ',' ∉ s.toList := fun hmem => absurd (isBlank_iff.mp h ',' hmem) (by decide)
  rw [split_eq_singleton hcomma]
  exact List.mem_singleton_self s

section Written

open Number

variable {cs : List Char}

theorem exists_not_blank_natChars (n : Nat) : ∃ c ∈ natChars n, isBlankChar c = false := by
  obtain ⟨c, hc⟩ := List.exists_mem_of_ne_nil _ (natChars_ne_nil n)
  exact ⟨c, hc, not_isBlankChar_of_isDigit (isDigit_of_mem_natChars hc)⟩

theorem exists_not_blank_signed (h : ∃ c ∈ cs, isBlankChar c = false) (negative : Bool) :
    ∃ c ∈ signed negative cs, isBlankChar c = false := by
  obtain ⟨c, hc, hblank⟩ := h
  refine ⟨c, ?_, hblank⟩
  cases negative with
  | true => exact List.mem_cons_of_mem _ hc
  | false => exact hc

theorem exists_not_blank_positionalChars (h : ∃ c ∈ cs, isBlankChar c = false) (l : Layout)
    (point : Int) : ∃ c ∈ positionalChars l cs point, isBlankChar c = false := by
  obtain ⟨c, hc, hblank⟩ := h
  unfold positionalChars
  split
  · refine ⟨c, ?_, hblank⟩
    exact List.mem_append_left _ (List.mem_append_left _ hc)
  · split
    · exact ⟨'.', by simp, by decide⟩
    · exact ⟨'0', by simp, by decide⟩

theorem exists_not_blank_plain (m : Magnitude) :
    ∃ c ∈ Layout.plain.magnitudeChars m, isBlankChar c = false := by
  unfold Layout.magnitudeChars
  split
  · exact ⟨'0', List.mem_cons_self, by decide⟩
  · exact exists_not_blank_positionalChars (exists_not_blank_natChars _) _ _

theorem not_isBlank_plainText (x : Binary64) : isBlank (plainText x) = false := by
  rw [isBlank_eq_false_iff]
  unfold plainText
  split
  · rw [String.toList_ofList]
    exact exists_not_blank_signed (exists_not_blank_plain _) _
  · rw [String.toList_ofList]
    exact exists_not_blank_signed ⟨'i', by simp, by decide⟩ _
  · exact ⟨'N', by decide, by decide⟩

end Written

/-- Only a text is blank when it is written. -/
theorem text_of_isBlank_asText (h : isBlank value.asText = true) : value = .text value.asText := by
  cases value with
  | flag b =>
      cases b with
      | true => exact absurd h (by decide)
      | false => exact absurd h (by decide)
  | int n =>
      rw [Scalar.asText, Number.not_isBlank_intText] at h
      exact absurd h (by simp)
  | float x =>
      rw [Scalar.asText, not_isBlank_plainText] at h
      exact absurd h (by simp)
  | text s => rfl

/-- **A blank value is a piece of the text that it was read from.** -/
theorem IsOrigin.mem_split {v : String × String} (horigin : IsOrigin part key v value)
    (h : isBlank value.asText = true) : value.asText ∈ split ',' v.2 := by
  have htext := text_of_isBlank_asText h
  rcases horigin.2 with heq | ⟨piece, hpiece, rfl⟩
  · rw [heq] at htext h ⊢
    have hwhole := text_of_ofText htext
    rw [hwhole] at h ⊢
    exact mem_split_of_isBlank h
  · exact hpiece

/-! ## Loading -/

theorem exists_mem_of_mapM {α β : Type} {f : α → Option β} {as : List α} {bs : List β}
    (h : as.mapM f = some bs) {b : β} (hb : b ∈ bs) : ∃ a ∈ as, f a = some b := by
  induction as generalizing bs with
  | nil =>
      cases h
      exact absurd hb (by simp)
  | cons a rest ih =>
      simp only [List.mapM_cons, Option.bind_eq_bind, Option.bind_eq_some_iff] at h
      obtain ⟨first, hfirst, others, hothers, hbs⟩ := h
      cases hbs
      rcases List.mem_cons.mp hb with rfl | hb
      · exact ⟨a, List.mem_cons_self, hfirst⟩
      · obtain ⟨a', ha', hread⟩ := ih hothers hb
        exact ⟨a', List.mem_cons_of_mem a ha', hread⟩

/-- The texts of a list are the values in it, written. -/
theorem holds_of_asTexts? {texts : List String} (h : n.asTexts? = some texts) {text : String}
    (hmem : text ∈ texts) : ∃ value, n.Holds value ∧ value.asText = text := by
  cases n with
  | items nodes =>
      obtain ⟨item, hitem, hread⟩ := exists_mem_of_mapM h hmem
      cases item with
      | scalar value => exact ⟨value, .item hitem (.scalar value), Option.some.inj hread⟩
      | nothing | items _ | members _ => cases hread
  | nothing | scalar _ | members _ => cases h

section Fields

variable {α : Type} {parent : Node} {convert : Node → Option α} {default a : α}

/-- A field that nothing is put at has its default. -/
theorem field_of_none (h : member parent key position = .ok none) :
    field parent key position convert default = .ok default := by
  unfold field
  rw [h]
  rfl

/-- What is put at a field is brought to the type of the field. -/
theorem field_of_some (h : member parent key position = .ok (some n)) :
    field parent key position convert default =
      match convert n with
      | some v => .ok v
      | none => .error .unreadable := by
  unfold field
  rw [h]
  rfl

/-- A field has its default, or what is at its place brought to its type. -/
theorem field_eq_ok (h : field parent key position convert default = .ok a) :
    a = default ∨ ∃ n, member parent key position = .ok (some n) ∧ convert n = some a := by
  obtain ⟨found, hfound, -⟩ := bind_eq_ok_iff.mp h
  cases found with
  | none =>
      rw [field_of_none hfound] at h
      exact Or.inl (Except.ok.inj h).symm
  | some n =>
      rw [field_of_some hfound] at h
      refine Or.inr ⟨n, hfound, ?_⟩
      split at h
      · rename_i hconvert
        rw [hconvert, Except.ok.inj h]
      · cases h

end Fields

/-- Settings are read where each of their fields is. -/
theorem settingsIn_eq_ok_iff {compiler : Node} {s : Settings} :
    settingsIn compiler = .ok s ↔
      field compiler "link_click_destinations" 0 Node.asTexts?
          ({} : Settings).linkClickDestinations = .ok s.linkClickDestinations ∧
        field compiler "engaged_time_seconds" 1 Node.asCount?
          ({} : Settings).engagedTimeSeconds = .ok s.engagedTimeSeconds ∧
        field compiler "engaged_completion_ratio" 2 Node.asRatio?
          ({} : Settings).engagedCompletionRatio = .ok s.engagedCompletionRatio ∧
        field compiler "slot_targeting_key" 3 Node.asText?
          ({} : Settings).slotTargetingKey = .ok s.slotTargetingKey ∧
        field compiler "default_tags" 4 Node.asTexts?
          ({} : Settings).defaultTags = .ok s.defaultTags ∧
        field compiler "default_market" 5 Node.asText?
          ({} : Settings).defaultMarket = .ok s.defaultMarket := by
  constructor
  · intro h
    obtain ⟨_, hdestinations, h⟩ := bind_eq_ok_iff.mp h
    obtain ⟨_, hseconds, h⟩ := bind_eq_ok_iff.mp h
    obtain ⟨_, hratio, h⟩ := bind_eq_ok_iff.mp h
    obtain ⟨_, hkey, h⟩ := bind_eq_ok_iff.mp h
    obtain ⟨_, htags, h⟩ := bind_eq_ok_iff.mp h
    obtain ⟨_, hmarket, h⟩ := bind_eq_ok_iff.mp h
    cases h
    exact ⟨hdestinations, hseconds, hratio, hkey, htags, hmarket⟩
  · rintro ⟨hdestinations, hseconds, hratio, hkey, htags, hmarket⟩
    unfold settingsIn
    simp only [hdestinations, hseconds, hratio, hkey, htags, hmarket, bind, Except.bind]
    rfl

variable {env : List (String × String)} {c : Configuration}

theorem load_eq_ok_iff :
    load env = .ok c ↔ ∃ root, assembled env = .ok root ∧
      settingsIn (sectionOf root "compiler") = .ok c.compiler ∧
      dataPathIn (sectionOf root "data") = .ok c.dataPath ∧ c.compiler.validate = .ok () := by
  constructor
  · intro h
    obtain ⟨root, hroot, h⟩ := bind_eq_ok_iff.mp h
    obtain ⟨compiler, hcompiler, h⟩ := bind_eq_ok_iff.mp h
    obtain ⟨dataPath, hdataPath, h⟩ := bind_eq_ok_iff.mp h
    obtain ⟨_, hvalid, h⟩ := bind_eq_ok_iff.mp h
    cases h
    exact ⟨root, hroot, hcompiler, hdataPath, hvalid⟩
  · rintro ⟨root, hroot, hcompiler, hdataPath, hvalid⟩
    unfold load
    simp only [hroot, hcompiler, hdataPath, hvalid, bind, Except.bind]
    rfl

end Environment

end Audience
