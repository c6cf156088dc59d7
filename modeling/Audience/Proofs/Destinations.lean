import Audience.Proofs.DistinctLists
import Audience.Proofs.SettingValues
import Audience.Proofs.SignalBranches
import Audience.Proofs.Substance

/-!
# `Audience.Proofs.Destinations` — which destinations a click is matched against

A click must point at one of the configured destinations. They are rendered as they are loaded, and a
configuration is refused only where all of them are blank. A blank destination is therefore kept beside
one that is not, and every URL contains it. No default is blank, so it stems from a variable that leads
to the destinations, where it is a piece of the value between two commas.

## Contents
- **Loading.** `blank_destination_of_load`.
- **The variable of the destinations.** `load_destinations_iff`: what is loaded from it alone.
- **Queries.** `Query.destinationTests` and `destinations_of_load`.
-/

namespace Audience

open Text

namespace Environment

/-! ## Loading -/

variable {env : List (String × String)} {c : Configuration}

/-- **A blank destination stems from a variable that leads to the destinations**, and is a piece of its
value. -/
theorem blank_destination_of_load (h : load env = .ok c) {host : String}
    (hmem : host ∈ c.compiler.linkClickDestinations) (hblank : isBlank host = true) :
    ∃ v ∈ env, LeadsTo "compiler" "link_click_destinations" v.1 ∧ host ∈ split ',' v.2 := by
  obtain ⟨root, hroot, hcompiler, -, -⟩ := load_eq_ok_iff.mp h
  rcases field_eq_ok (settingsIn_eq_ok_iff.mp hcompiler).1 with hdefault | ⟨n, hn, htexts⟩
  · have hdefaults : ∀ host ∈ ({} : Settings).linkClickDestinations, isBlank host = false := by
      decide
    rw [hdefault] at hmem
    rw [hdefaults host hmem] at hblank
    exact absurd hblank (by simp)
  · obtain ⟨value, hheld, rfl⟩ := holds_of_asTexts? htexts hmem
    obtain ⟨v, hv, horigin⟩ := exists_origin_of_assembled hroot ⟨n, hn, hheld⟩
    exact ⟨v, hv, horigin.1, horigin.mem_split hblank⟩

/-! ## The variable of the destinations -/

/-- The variable of the destinations. -/
def destinationsVariable : String :=
  "COHORT_COMPILER__COMPILER__LINK_CLICK_DESTINATIONS"

theorem target?_destinations : target? destinationsVariable =
    some ([.key "compiler", .key "link_click_destinations"], true) :=
  rfl

/-- A text that is no number and no truth value is a list of its pieces. -/
theorem asTexts?_ofText_eq_some_iff {s : String} {texts : List String} :
    (Node.ofText true s).asTexts? = some texts ↔
      Scalar.ofText s = .text s ∧ texts = split ',' s := by
  rw [ofText_eq_text_iff, asTexts?_ofText]
  by_cases hs : IsText s
  · rw [if_pos hs, Option.some.injEq, and_iff_right hs]
    exact eq_comm
  · rw [if_neg hs]
    exact iff_of_false (by simp) fun h => hs h.1

/-- The other fields of a section that has nothing but destinations have their defaults. -/
theorem settingsIn_destinations {n : Node} {s : Settings} :
    settingsIn (.members [("link_click_destinations", n)]) = .ok s ↔
      ∃ texts, n.asTexts? = some texts ∧ s = { linkClickDestinations := texts } := by
  have hfields : settingsIn (.members [("link_click_destinations", n)]) =
      match n.asTexts? with
      | some texts => .ok { linkClickDestinations := texts }
      | none => .error .unreadable := by
    simp (disch := decide) only [settingsIn, field_of_ne, field_lone]
    cases n.asTexts? <;> rfl
  rw [hfields]
  cases n.asTexts? with
  | none => simp
  | some texts =>
      constructor
      · rintro ⟨⟩
        exact ⟨texts, rfl, rfl⟩
      · rintro ⟨_, ⟨⟩, rfl⟩
        rfl

theorem validate_destinations {destinations : List String} :
    ({ linkClickDestinations := destinations } : Settings).validate = .ok () ↔
      ∃ host ∈ destinations, isBlank host = false := by
  have hkey : isBlank ({} : Settings).slotTargetingKey = false := by decide
  constructor
  · intro h
    exact (Settings.validate_eq_ok h).1
  · intro hhost
    have hhosts : destinations.all isBlank = false := by simpa using hhost
    simp [validate_of_ratio, hhosts, hkey]

/-- **The variable of the destinations alone.** It is loaded where its value is a text, and not all of
its pieces are blank; then all pieces are destinations, blank ones among them. -/
theorem load_destinations_iff {s : String} :
    load [(destinationsVariable, s)] = .ok c ↔
      Scalar.ofText s = .text s ∧ (∃ piece ∈ split ',' s, isBlank piece = false) ∧
        c = { compiler := { linkClickDestinations := split ',' s } } := by
  rw [load_eq_ok_iff]
  constructor
  · rintro ⟨root, hroot, hcompiler, hdata, hvalid⟩
    rw [assembled_lone target?_destinations] at hroot
    cases hroot
    obtain ⟨texts, htexts, hsettings⟩ := settingsIn_destinations.mp hcompiler
    obtain ⟨htext, rfl⟩ := asTexts?_ofText_eq_some_iff.mp htexts
    rw [hsettings] at hvalid
    refine ⟨htext, validate_destinations.mp hvalid, ?_⟩
    cases c
    cases hdata
    cases hsettings
    rfl
  · rintro ⟨htext, hhost, rfl⟩
    have htexts := asTexts?_ofText_eq_some_iff.mpr ⟨htext, rfl⟩
    exact ⟨_, assembled_lone target?_destinations s,
      settingsIn_destinations.mpr ⟨_, htexts, rfl⟩, rfl, validate_destinations.mpr hhost⟩

end Environment

/-! ## Queries -/

variable {settings : Settings} {d : Definition}

/-- The lists that the destinations of clicks are compared with. -/
def Query.destinationTests (q : Query) : List (List Json) :=
  let lists := (q.branchesOf .linkClick).flatMap Condition.lists
  (lists.filter fun list => list.property = "properties.dest_url").map ListTest.items

/-- The configured destinations are rendered as they are. -/
theorem destinationTests_of_query (hclick : d.linkClick = true) {q : Query}
    (h : d.query settings = .ok q) :
    q.destinationTests = [settings.linkClickDestinations.map .text] := by
  have hcontribution := contribution_eq_branchesOf h .linkClick
  have happlies : Signal.applies d .linkClick = true := hclick
  rw [Definition.contribution_of_applies happlies] at hcontribution
  obtain ⟨c, hc, hbranches⟩ := map_eq_ok_iff.mp hcontribution
  unfold Signal.buildLinkClick at hc
  split at hc
  · cases hc
  · cases hc
    rw [Query.destinationTests, ← hbranches]
    rfl

/-- **The destinations that a click is matched against** under a configuration that is loaded. They
are the configured ones as they are, and some of them is not blank; a blank one stems from a variable
that leads to the destinations, and is a piece of its value between two commas. -/
theorem destinations_of_load {env : List (String × String)} {c : Configuration} {q : Query}
    (hload : Environment.load env = .ok c) (hclick : d.linkClick = true)
    (hquery : d.query c.compiler = .ok q) :
    q.destinationTests = [c.compiler.linkClickDestinations.map .text] ∧
    (∃ host ∈ c.compiler.linkClickDestinations, isBlank host = false) ∧
    ∀ host ∈ c.compiler.linkClickDestinations, isBlank host = true →
      ∃ v ∈ env, Environment.LeadsTo "compiler" "link_click_destinations" v.1 ∧
        host ∈ split ',' v.2 := by
  obtain ⟨-, -, -, -, hvalid⟩ := Environment.load_eq_ok_iff.mp hload
  refine ⟨destinationTests_of_query hclick hquery, (Settings.validate_eq_ok hvalid).1, ?_⟩
  exact fun _ => Environment.blank_destination_of_load hload

/-- A definition of clicks on pages about cars. -/
def outbound : Definition :=
  { name := "Outbound", urls := some ["/cars/"], pageView := false, linkClick := true }

theorem outbound_destinations :
    ∃ c q, Environment.load [(Environment.destinationsVariable, "facebook.com, ,x.com")] = .ok c ∧
      outbound.query c.compiler = .ok q ∧
      q.destinationTests = [[.text "facebook.com", .text " ", .text "x.com"]] ∧
      (∃ host ∈ c.compiler.linkClickDestinations, isBlank host = false) ∧
      " " ∈ split ',' "facebook.com, ,x.com" := by
  let loaded : Configuration :=
    { compiler := { linkClickDestinations := ["facebook.com", " ", "x.com"] } }
  have hload : Environment.load [(Environment.destinationsVariable, "facebook.com, ,x.com")] =
      .ok loaded :=
    Environment.load_destinations_iff.mpr ⟨rfl, by decide +kernel, by decide +kernel⟩
  have hok : (outbound.query loaded.compiler).isOk = true := by decide +kernel
  obtain ⟨q, hq⟩ := exists_of_isOk hok
  obtain ⟨htests, hhost, hblank⟩ := destinations_of_load hload rfl hq
  obtain ⟨v, hv, -, hpiece⟩ := hblank " " (by simp [loaded]) (by decide +kernel)
  obtain rfl := List.mem_singleton.mp hv
  exact ⟨loaded, q, hload, hq, htests, hhost, hpiece⟩

/-- **A blank destination may be loaded and compiled**, and every URL contains it. -/
theorem blank_destination_compiled :
    ∃ c q, Environment.load [(Environment.destinationsVariable, "facebook.com,")] = .ok c ∧
      outbound.linkClick = true ∧ outbound.query c.compiler = .ok q ∧
      ∃ items ∈ q.destinationTests, .text "" ∈ items ∧ isBlank "" = true := by
  let loaded : Configuration := { compiler := { linkClickDestinations := ["facebook.com", ""] } }
  have hload : Environment.load [(Environment.destinationsVariable, "facebook.com,")] = .ok loaded :=
    Environment.load_destinations_iff.mpr ⟨rfl, by decide +kernel, by decide +kernel⟩
  have hok : (outbound.query loaded.compiler).isOk = true := by decide +kernel
  obtain ⟨q, hq⟩ := exists_of_isOk hok
  refine ⟨loaded, q, hload, rfl, hq, [.text "facebook.com", .text ""], ?_, by simp, by decide⟩
  rw [destinationTests_of_query rfl hq]
  exact List.mem_singleton_self _

end Audience
