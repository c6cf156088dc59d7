import Audience.Proofs.Contribution
import Audience.Proofs.ListText
import Audience.Proofs.RunInputs

/-!
# `Audience.Proofs.AllOrNothing` — a run prints all results or reports the first error

A run goes through three stages: the configuration, the definitions, and their results. A stage that
fails ends the run, and so does the first definition that is refused; nothing has been printed then. A
run that comes to its end prints one list with one result for each definition, and each result is the one
that the library gives. So scripts can rely on the exit code alone, and no part of a list is ever taken
for the whole.

What the library gives and what is shown of it is said here without the functions of the run: by the
relations `Prints` and `Refuses` for one definition, by `Fault` for the error of a request, and by `Ends`
for its exit code and the texts that it writes.

## Contents
- **One definition.** `Prints` and `Refuses`, with `entry_eq_ok_iff` and `refuses_of_entry`.
- **All definitions.** `subjects`, and `results_eq`: the results are those of the subjects in turn.
- **Stages.** What `execute` comes to after each stage.
- **Runs.** `Fault`, `Ends` and `run_ends`; `exitCode_eq_zero_iff`, `stdout_of_results`, `run_congr` and
  `run_relaid`; `run_all_or_nothing` for all of these.
-/

namespace Audience.Program

open CommandLine

variable {settings : Settings} {d : Definition} {command : Command}

/-! ## One definition -/

/-- What a command prints for a definition that the library accepts: the query under the name of the
definition, or the payload. -/
inductive Prints (settings : Settings) : Command → Definition → Json → Prop
  | compile {d : Definition} {q : Query} (h : d.query settings = .ok q) :
      Prints settings .compile d (.object [("name", .text d.name), ("query", q.toJson)])
  | seeds {d : Definition} {q : Query} (h : d.query settings = .ok q) :
      Prints settings .seeds d (.object [("name", .text d.name), ("query", q.toJson)])
  | payload {d : Definition} {tags : List String} {p : Payload}
      (h : Payload.ofDefinition settings tags d = .ok p) :
      Prints settings (.payload tags) d p.toJson
  | clickers {d : Definition} {tags : List String} {p : Payload}
      (h : Payload.clickers settings tags d = .ok p) :
      Prints settings (.clickers tags) d p.toJson

/-- What is reported of a definition that the library refuses: the cause, behind the name of the
definition where a query was to be printed. -/
inductive Refuses (settings : Settings) : Command → Definition → String → Prop
  | compile {d : Definition} {cause : MissingContent} (h : d.query settings = .error cause) :
      Refuses settings .compile d ("compiling '" ++ d.name ++ "': " ++ cause.message)
  | seeds {d : Definition} {cause : MissingContent} (h : d.query settings = .error cause) :
      Refuses settings .seeds d ("compiling '" ++ d.name ++ "': " ++ cause.message)
  | payload {d : Definition} {tags : List String} {cause : MissingContent}
      (h : Payload.ofDefinition settings tags d = .error cause) :
      Refuses settings (.payload tags) d cause.message
  | clickers {d : Definition} {tags : List String} {cause : MissingContent}
      (h : Payload.clickers settings tags d = .error cause) :
      Refuses settings (.clickers tags) d cause.message

/-- The result of a command for one definition. -/
def entry (settings : Settings) (command : Command) (d : Definition) : Except RunError Json :=
  match command with
  | .compile => queryEntry settings d
  | .seeds => queryEntry settings d
  | .payload tags => payloadEntry (Payload.ofDefinition settings tags d)
  | .clickers tags => payloadEntry (Payload.clickers settings tags d)

theorem queryEntry_of_ok {q : Query} (h : d.query settings = .ok q) :
    queryEntry settings d = .ok (.object [("name", .text d.name), ("query", q.toJson)]) := by
  rw [queryEntry, h]
  exact congrArg Except.ok (Json.ofMembers_eq_object ["name", "query"] rfl (by decide))

theorem queryEntry_of_error {cause : MissingContent} (h : d.query settings = .error cause) :
    queryEntry settings d = .error (.compiling d.name cause) := by
  rw [queryEntry, h]

/-- A definition has a result for a command, or the command reports why it has none. -/
theorem entry_cases (settings : Settings) (command : Command) (d : Definition) :
    (∃ value, entry settings command d = .ok value ∧ Prints settings command d value) ∨
      ∃ e, entry settings command d = .error e ∧ Refuses settings command d e.message := by
  cases command with
  | compile =>
      cases hq : d.query settings with
      | ok q => exact .inl ⟨_, queryEntry_of_ok hq, .compile hq⟩
      | error cause => exact .inr ⟨_, queryEntry_of_error hq, .compile hq⟩
  | seeds =>
      cases hq : d.query settings with
      | ok q => exact .inl ⟨_, queryEntry_of_ok hq, .seeds hq⟩
      | error cause => exact .inr ⟨_, queryEntry_of_error hq, .seeds hq⟩
  | payload tags =>
      cases hp : Payload.ofDefinition settings tags d with
      | ok p => exact .inl ⟨p.toJson, congrArg payloadEntry hp, .payload hp⟩
      | error cause => exact .inr ⟨.payload cause, congrArg payloadEntry hp, .payload hp⟩
  | clickers tags =>
      cases hp : Payload.clickers settings tags d with
      | ok p => exact .inl ⟨p.toJson, congrArg payloadEntry hp, .clickers hp⟩
      | error cause => exact .inr ⟨.payload cause, congrArg payloadEntry hp, .clickers hp⟩

theorem entry_eq_ok_iff {value : Json} :
    entry settings command d = .ok value ↔ Prints settings command d value := by
  constructor
  · intro h
    rcases entry_cases settings command d with ⟨value', hentry, hprints⟩ | ⟨e, hentry, -⟩
    · rw [h] at hentry
      cases hentry
      exact hprints
    · rw [h] at hentry
      cases hentry
  · intro h
    cases h with
    | compile h => exact queryEntry_of_ok h
    | seeds h => exact queryEntry_of_ok h
    | payload h => exact congrArg payloadEntry h
    | clickers h => exact congrArg payloadEntry h

theorem refuses_of_entry {e : RunError} (h : entry settings command d = .error e) :
    Refuses settings command d e.message := by
  rcases entry_cases settings command d with ⟨value, hentry, -⟩ | ⟨e', hentry, hrefuses⟩
  · rw [h] at hentry
    cases hentry
  · rw [h] at hentry
    cases hentry
    exact hrefuses

/-- A query is printed in its wire form, under the name of its definition. -/
theorem Prints.compact_eq {value : Json} (h : Prints settings command d value)
    (hcommand : command ∈ [.compile, .seeds]) :
    ∃ q, d.query settings = .ok q ∧
      value.compact =
        "\x7b\"name\":" ++ (Json.text d.name).compact ++ ",\"query\":" ++ q.wireText ++ "\x7d" := by
  cases h with
  | compile h => exact ⟨_, h, Json.compact_namedQuery _ _⟩
  | seeds h => exact ⟨_, h, Json.compact_namedQuery _ _⟩
  | payload h => simp at hcommand
  | clickers h => simp at hcommand

/-- What a definition is refused for has nothing to do with the configuration. -/
theorem entry_ne_settings (cause : SettingsError) :
    entry settings command d ≠ .error (.settings cause) := by
  have hquery : queryEntry settings d ≠ .error (.settings cause) := by
    unfold queryEntry
    split <;> simp
  have hpayload : ∀ p, payloadEntry p ≠ .error (.settings cause) := by
    intro p
    cases p <;> simp [payloadEntry, Except.map, Except.mapError]
  cases command with
  | compile => exact hquery
  | seeds => exact hquery
  | payload tags => exact hpayload _
  | clickers tags => exact hpayload _

/-! ## All definitions -/

/-- The definitions that a command prints a result for: the given ones, or the seeds of their groups. -/
def subjects (settings : Settings) (ds : List Definition) : Command → List Definition
  | .compile => ds
  | .payload _ => ds
  | .clickers _ => ds
  | .seeds => Definition.seeds ds settings.defaultMarket

/-- The results of a command are those of its subjects, one by one. -/
theorem results_eq (settings : Settings) (ds : List Definition) (command : Command) :
    results settings ds command =
      (subjects settings ds command).mapM (entry settings command) := by
  cases command <;> rfl

theorem results_eq_ok_iff {ds : List Definition} {values : List Json} :
    results settings ds command = .ok values ↔
      List.Forall₂ (Prints settings command) (subjects settings ds command) values := by
  simp only [results_eq, mapM_eq_ok_iff, entry_eq_ok_iff]

/-- There are results as soon as every subject has one. -/
theorem exists_results_iff {ds : List Definition} :
    (∃ values, results settings ds command = .ok values) ↔
      ∀ d ∈ subjects settings ds command, ∃ value, Prints settings command d value := by
  simp only [← entry_eq_ok_iff]
  rw [results_eq]
  exact exists_mapM_eq_ok_iff

/-- Where results are missing, the first subject that is refused decides what is reported. -/
theorem refused_of_results {ds : List Definition} {e : RunError}
    (h : results settings ds command = .error e) :
    (∀ cause, e ≠ .settings cause) ∧
    ∃ before d after, subjects settings ds command = before ++ d :: after ∧
      (∀ b ∈ before, ∃ value, Prints settings command b value) ∧
      Refuses settings command d e.message := by
  rw [results_eq] at h
  obtain ⟨before, d, after, hsubjects, hbefore, hd⟩ := exists_first_of_mapM_eq_error h
  refine ⟨?_, before, d, after, hsubjects, ?_, refuses_of_entry hd⟩
  · rintro cause rfl
    exact entry_ne_settings cause hd
  · intro b hb
    obtain ⟨value, hvalue⟩ := hbefore b hb
    exact ⟨value, entry_eq_ok_iff.mp hvalue⟩

/-! ## Stages -/

variable {env : List (String × String)} {fs : FileSystem} {args : List String}
  {request : Invocation} {c : Configuration} {ds ks : List Definition}

theorem execute_of_settings {cause : SettingsError} (h : Environment.load env = .error cause) :
    execute env fs request = .error (.settings cause) := by
  rw [execute, h]
  rfl

/-- With its configuration loaded, a request goes on to the definitions and then to their results. -/
theorem execute_of_configuration (h : Environment.load env = .ok c) :
    execute env fs request =
      ((Library.load fs request.file (effective env request.options c).dataPath).mapError
        .loading).bind fun ds =>
          results (effective env request.options c).compiler (kept request.options ds)
            request.command := by
  rw [execute, h]
  rfl

theorem execute_of_loading {cause : Library.LoadError} (hc : Environment.load env = .ok c)
    (h : Library.load fs request.file (effective env request.options c).dataPath = .error cause) :
    execute env fs request = .error (.loading cause) := by
  rw [execute_of_configuration hc, h]
  rfl

/-- A request that gets as far as its results goes on to them. -/
theorem execute_of_reaches (h : Reaches env fs request settings ks) :
    execute env fs request = results settings ks request.command := by
  obtain ⟨c, ds, hload, hfiles, rfl, rfl⟩ := reaches_iff.mp h
  rw [execute_of_configuration hload, hfiles]
  rfl

/-! ## Runs -/

/-- The text of the error that a request meets with: that of the first stage that fails, and within the
last one that of the first definition that is refused. -/
inductive Fault (env : List (String × String)) (fs : FileSystem) (request : Invocation) :
    String → Prop
  /-- The configuration is at fault. -/
  | settings {cause : SettingsError} (hload : Environment.load env = .error cause)
      (hcause : cause ≠ .noSuchPosition) : Fault env fs request cause.message
  /-- The definitions cannot be loaded. -/
  | loading {c : Configuration} {dataPath : Option String} {cause : Library.LoadError}
      (hload : Environment.load env = .ok c) (hpath : IsDataPath env request.options c dataPath)
      (hfiles : Library.load fs request.file dataPath = .error cause) :
      Fault env fs request cause.message
  /-- Some definition is refused, and none in front of it is. -/
  | refused {settings : Settings} {ks before after : List Definition} {d : Definition}
      {message : String} (hreaches : Reaches env fs request settings ks)
      (hsubjects : subjects settings ks request.command = before ++ d :: after)
      (hbefore : ∀ b ∈ before, ∃ value, Prints settings request.command b value)
      (hd : Refuses settings request.command d message) : Fault env fs request message

/-- How the run of a request ends: the exit code, and what is written. -/
inductive Ends (env : List (String × String)) (fs : FileSystem) (request : Invocation)
    (outcome : Outcome) : Prop
  /-- Some variable leads to a position that no list has, and the run breaks off. -/
  | brokenOff (hload : Environment.load env = .error .noSuchPosition)
      (hexit : outcome.exitCode = 101) (hstdout : outcome.stdout = "")
  /-- There is an error, and it is reported. -/
  | failed {message : String} (hfault : Fault env fs request message)
      (hexit : outcome.exitCode = 1) (hstdout : outcome.stdout = "")
      (hstderr : outcome.stderr = "Error: " ++ message ++ "\n")
  /-- Every definition has a result, and the results are printed as one list in their order. -/
  | printed {settings : Settings} {ks : List Definition} {values : List Json}
      (hreaches : Reaches env fs request settings ks)
      (hvalues : List.Forall₂ (Prints settings request.command)
        (subjects settings ks request.command) values)
      (hexit : outcome.exitCode = 0)
      (hstdout : outcome.stdout = Json.listText request.options.pretty values ++ "\n")

theorem render_eq (oneToLine : Bool) (values : List Json) :
    render oneToLine values = Json.listText oneToLine values ++ "\n" := by
  cases oneToLine with
  | false => rw [← Json.compact_list]; rfl
  | true => rw [← Json.pretty_list]; rfl

theorem run_of_values {values : List Json} (h : parse args = .ok request)
    (hvalues : execute env fs request = .ok values) :
    run env fs args = .success (Json.listText request.options.pretty values ++ "\n") := by
  simp only [run, h, hvalues, render_eq]

theorem run_of_noSuchPosition (h : parse args = .ok request)
    (herror : execute env fs request = .error (.settings .noSuchPosition)) :
    run env fs args = .brokenOff := by
  simp only [run, h, herror]

theorem run_of_error {e : RunError} (h : parse args = .ok request)
    (herror : execute env fs request = .error e) (hne : e ≠ .settings .noSuchPosition) :
    run env fs args = .failure e := by
  cases e with
  | settings cause =>
      cases cause with
      | noSuchPosition => exact absurd rfl hne
      | _ => simp only [run, h, herror]
  | _ => simp only [run, h, herror]

/-- **The run of a request ends as its stages decide.** -/
theorem run_ends (env : List (String × String)) (fs : FileSystem) (h : parse args = .ok request) :
    Ends env fs request (run env fs args) := by
  cases hload : Environment.load env with
  | error cause =>
      by_cases hcause : cause = .noSuchPosition
      · subst hcause
        rw [run_of_noSuchPosition h (execute_of_settings hload)]
        exact .brokenOff hload rfl rfl
      · have hne : RunError.settings cause ≠ .settings .noSuchPosition := by simpa using hcause
        rw [run_of_error h (execute_of_settings hload) hne]
        exact .failed (.settings hload hcause) rfl rfl rfl
  | ok c =>
      cases hfiles : Library.load fs request.file (effective env request.options c).dataPath with
      | error cause =>
          have hpath := isDataPath_effective env request.options c
          rw [run_of_error h (execute_of_loading hload hfiles) (by simp)]
          exact .failed (.loading hload hpath hfiles) rfl rfl rfl
      | ok ds =>
          have hreaches := reaches_iff.mpr ⟨c, ds, hload, hfiles, rfl, rfl⟩
          have hexecute := execute_of_reaches hreaches
          cases hresults : results (effective env request.options c).compiler
              (kept request.options ds) request.command with
          | ok values =>
              rw [run_of_values h (hexecute.trans hresults)]
              exact .printed hreaches (results_eq_ok_iff.mp hresults) rfl rfl
          | error e =>
              obtain ⟨hne, before, d, after, hsubjects, hbefore, hd⟩ := refused_of_results hresults
              rw [run_of_error h (hexecute.trans hresults) (hne _)]
              exact .failed (.refused hreaches hsubjects hbefore hd) rfl rfl rfl

/-- With a result for each subject, the run succeeds. -/
theorem exists_run_eq_success (h : parse args = .ok request)
    (hreaches : Reaches env fs request settings ks)
    (hall : ∀ d ∈ subjects settings ks request.command, ∃ value,
      Prints settings request.command d value) : ∃ output, run env fs args = .success output := by
  obtain ⟨values, hvalues⟩ := exists_results_iff.mpr hall
  exact ⟨_, run_of_values h ((execute_of_reaches hreaches).trans hvalues)⟩

/-- The exit code is zero when each stage succeeds. -/
theorem exitCode_eq_zero_iff (h : parse args = .ok request) :
    (run env fs args).exitCode = 0 ↔ ∃ settings ks, Reaches env fs request settings ks ∧
      ∀ d ∈ subjects settings ks request.command, ∃ value,
        Prints settings request.command d value := by
  constructor
  · intro hzero
    cases run_ends env fs h with
    | brokenOff _ hexit => exact absurd (hexit.symm.trans hzero) (by decide)
    | failed _ hexit => exact absurd (hexit.symm.trans hzero) (by decide)
    | printed hreaches hvalues =>
        exact ⟨_, _, hreaches, exists_results_iff.mp ⟨_, results_eq_ok_iff.mpr hvalues⟩⟩
  · rintro ⟨settings, ks, hreaches, hall⟩
    obtain ⟨output, houtput⟩ := exists_run_eq_success h hreaches hall
    rw [houtput]
    rfl

theorem stdout_of_exitCode_ne_zero (h : parse args = .ok request)
    (hexit : (run env fs args).exitCode ≠ 0) : (run env fs args).stdout = "" := by
  cases run_ends env fs h with
  | brokenOff _ _ hstdout => exact hstdout
  | failed _ _ hstdout => exact hstdout
  | printed _ _ hzero => exact absurd hzero hexit

/-- What is printed is the text of the results. -/
theorem stdout_of_results {values : List Json} (h : parse args = .ok request)
    (hreaches : Reaches env fs request settings ks)
    (hvalues : List.Forall₂ (Prints settings request.command)
      (subjects settings ks request.command) values) :
    (run env fs args).stdout = Json.listText request.options.pretty values ++ "\n" := by
  have hresults := results_eq_ok_iff.mpr hvalues
  rw [run_of_values h ((execute_of_reaches hreaches).trans hresults)]
  rfl

/-- **A run depends on the definitions that are kept and on no other.** -/
theorem run_congr {fs' : FileSystem} (h : parse args = .ok request)
    (hreaches : Reaches env fs request settings ks)
    (hreaches' : Reaches env fs' request settings ks) : run env fs' args = run env fs args := by
  have hexecute : execute env fs' request = execute env fs request := by
    rw [execute_of_reaches hreaches, execute_of_reaches hreaches']
  simp only [run, h, hexecute]

/-- The request with its results in this layout. -/
def relaid (request : Invocation) (oneToLine : Bool) : Invocation :=
  { request with options := { request.options with pretty := oneToLine } }

/-- **The layout of the results changes nothing else.** -/
theorem run_relaid {args' : List String} {oneToLine : Bool} (h : parse args = .ok request)
    (h' : parse args' = .ok (relaid request oneToLine)) :
    (run env fs args').exitCode = (run env fs args).exitCode ∧
      (run env fs args').stderr = (run env fs args).stderr ∧
      ((run env fs args).exitCode = 0 → ∃ values,
        (run env fs args).stdout = Json.listText request.options.pretty values ++ "\n" ∧
          (run env fs args').stdout = Json.listText oneToLine values ++ "\n") := by
  -- the layout is not looked at before the results are printed
  have hexecute : execute env fs (relaid request oneToLine) = execute env fs request := rfl
  cases hvalues : execute env fs request with
  | ok values =>
      rw [run_of_values h hvalues, run_of_values h' (hexecute.trans hvalues)]
      exact ⟨rfl, rfl, fun _ => ⟨values, rfl, rfl⟩⟩
  | error e =>
      by_cases hbroken : e = .settings .noSuchPosition
      · subst hbroken
        rw [run_of_noSuchPosition h hvalues, run_of_noSuchPosition h' (hexecute.trans hvalues)]
        exact ⟨rfl, rfl, fun hzero => absurd hzero (by simp [Outcome.exitCode])⟩
      · rw [run_of_error h hvalues hbroken, run_of_error h' (hexecute.trans hvalues) hbroken]
        exact ⟨rfl, rfl, fun hzero => absurd hzero (by simp [Outcome.exitCode])⟩

/-- **A run prints all results or reports the first error.** The exit code is zero exactly where the
configuration can be loaded, the definitions can be loaded from the file or the effective data path, and
the library accepts each definition that is kept, or each seed. The run ends as the first stage that
fails decides, or with one list of all results in their order, in the layout that is asked for; and
unless that list is printed, nothing is. Queries are printed in their wire form, and a list without
floating-point numbers is read back as the results. Definitions that are not kept have no effect on the
run, and the layout has none but on what is printed. -/
theorem run_all_or_nothing {env : List (String × String)} {fs : FileSystem} {args : List String}
    {request : Invocation} (h : parse args = .ok request) :
    ((run env fs args).exitCode = 0 ↔ ∃ settings ks, Reaches env fs request settings ks ∧
      ∀ d ∈ subjects settings ks request.command, ∃ value,
        Prints settings request.command d value) ∧
    Ends env fs request (run env fs args) ∧
    ((run env fs args).exitCode ≠ 0 → (run env fs args).stdout = "") ∧
    (∀ settings d value, Prints settings request.command d value →
      request.command ∈ [.compile, .seeds] → ∃ q, d.query settings = .ok q ∧
        value.compact =
          "\x7b\"name\":" ++ (Json.text d.name).compact ++ ",\"query\":" ++ q.wireText ++ "\x7d") ∧
    (∀ settings ks values, Reaches env fs request settings ks →
      List.Forall₂ (Prints settings request.command) (subjects settings ks request.command) values →
      Json.IsPlain Json.greatestDepth (.list values) →
      Json.parse? (run env fs args).stdout = some (.list values)) ∧
    (∀ fs' settings ks, Reaches env fs request settings ks → Reaches env fs' request settings ks →
      run env fs' args = run env fs args) ∧
    ∀ args' oneToLine, parse args' = .ok (relaid request oneToLine) →
      (run env fs args').exitCode = (run env fs args).exitCode ∧
        (run env fs args').stderr = (run env fs args).stderr ∧
        ((run env fs args).exitCode = 0 → ∃ values,
          (run env fs args).stdout = Json.listText request.options.pretty values ++ "\n" ∧
            (run env fs args').stdout = Json.listText oneToLine values ++ "\n") := by
  refine ⟨exitCode_eq_zero_iff h, run_ends env fs h, stdout_of_exitCode_ne_zero h, ?_, ?_, ?_, ?_⟩
  · intro settings d value hprints hcommand
    exact hprints.compact_eq hcommand
  · intro settings ks values hreaches hvalues hplain
    rw [stdout_of_results h hreaches hvalues]
    exact Json.parse?_listText hplain _
  · intro fs' settings ks hreaches hreaches'
    exact run_congr h hreaches hreaches'
  · intro args' oneToLine h'
    exact run_relaid h h'

/-- A definition that can be compiled. -/
def entered : Definition :=
  { Definition.ofName "Golf" with workspaceId := some "w", segments := some ["5"] }

/-- A definition that cannot be compiled, in no workspace. -/
def unlinked : Definition :=
  { Definition.ofName "Draft" with linkClick := true }

/-- The first definition as a document. -/
def enteredText : String :=
  "\x7b\"name\":\"Golf\",\"workspace_id\":\"w\",\"segments\":[5]\x7d"

/-- A folder with one file, and this text in it. -/
def folderOf (text : String) : FileSystem :=
  (FileTree.folder [("query", .folder [("a.json", .file text.toUTF8)])]).fileSystem

/-- Both definitions in one file. -/
def archive : FileSystem :=
  folderOf ("[" ++ enteredText ++ ",\x7b\"name\":\"Draft\",\"link_click\":true\x7d]")

/-- The request for the queries of a workspace. -/
def ofWorkspace : Invocation :=
  ⟨.compile, none, { dataPath := some ".", workspace := some "w" }⟩

/-- The query of the first definition under its name. -/
def enteredQuery : Json :=
  .object [("name", .text "Golf"), ("query", (Query.any [.hasEntered none 5]).toJson)]

/-- The first definition is what is kept of a folder where nothing behind it is. -/
theorem reaches_entered {ds : List Definition} (hfiles : Library.load fs none (some ".") =
    .ok (entered :: ds)) (hrest : Keeps (some "w") ds []) :
    Reaches [] fs ofWorkspace {} [entered] := by
  have hload : Environment.load [] = .ok {} := eq_ok_of_toOption (by decide +kernel)
  refine ⟨hload, .ofOption rfl, hfiles, ⟨rfl, rfl⟩, .kept ?_ hrest⟩
  rintro name ⟨⟩
  rfl

/-- The whole archive is refused, and the part of it in a workspace is printed, in either layout. -/
theorem archive_runs :
    (parse ["compile", "--data-path", "."] = .ok ⟨.compile, none, { dataPath := some "." }⟩ ∧
      (run [] archive ["compile", "--data-path", "."]).stderr =
        "Error: compiling 'Draft': LinkClick condition requires urls or keywords\n" ∧
      (run [] archive ["compile", "--data-path", "."]).stdout = "") ∧
    parse ["compile", "--data-path", ".", "--workspace", "w"] = .ok ofWorkspace ∧
    Reaches [] archive ofWorkspace {} [entered] ∧
    (run [] archive ["compile", "--data-path", ".", "--workspace", "w"]).stdout =
      "[\x7b\"name\":\"Golf\"," ++
        "\"query\":\x7b\"or\":[\x7b\"has_entered\":\x7b\"segment\":5\x7d\x7d]\x7d\x7d]\n" ∧
    Ends [] archive ofWorkspace
      (run [] archive ["compile", "--data-path", ".", "--workspace", "w"]) ∧
    Json.parse? (run [] archive ["compile", "--data-path", ".", "--workspace", "w"]).stdout =
      some (.list [enteredQuery]) ∧
    run [] (folderOf enteredText) ["compile", "--data-path", ".", "--workspace", "w"] =
      run [] archive ["compile", "--data-path", ".", "--workspace", "w"] ∧
    (run [] archive ["compile", "--data-path", ".", "--workspace", "w", "--pretty"]).exitCode = 0 ∧
    (run [] archive ["compile", "--data-path", ".", "--workspace", "w", "--pretty"]).stdout =
      "[\n  \x7b\n    \"name\": \"Golf\",\n    \"query\": \x7b\n      \"or\": [\n        \x7b\n" ++
        "          \"has_entered\": \x7b\n            \"segment\": 5\n          \x7d\n" ++
        "        \x7d\n      ]\n    \x7d\n  \x7d\n]\n" := by
  have hwhole : parse ["compile", "--data-path", "."] =
      .ok ⟨.compile, none, { dataPath := some "." }⟩ := by rfl
  have hpart : parse ["compile", "--data-path", ".", "--workspace", "w"] = .ok ofWorkspace := by rfl
  have hlines : parse ["compile", "--data-path", ".", "--workspace", "w", "--pretty"] =
      .ok (relaid ofWorkspace true) := by rfl
  have hfails : (run [] archive ["compile", "--data-path", "."]).exitCode ≠ 0 := by decide +kernel
  have hreaches : Reaches [] archive ofWorkspace {} [entered] :=
    @reaches_entered archive [unlinked] (eq_ok_of_toOption (by decide +kernel))
      (.dropped rfl (by decide) .nil)
  have hweeded : Reaches [] (folderOf enteredText) ofWorkspace {} [entered] :=
    reaches_entered (eq_ok_of_toOption (by decide +kernel)) .nil
  have hquery : entered.query {} = .ok (.any [.hasEntered none 5]) := by rfl
  have hprints : List.Forall₂ (Prints {} .compile) [entered] [enteredQuery] :=
    .cons (.compile hquery) .nil
  have hplain : Json.IsPlain Json.greatestDepth (.list [enteredQuery]) := by
    have hvalue : enteredQuery = .object [("name", .text "Golf"), ("query", .object
        [("or", .list [.object [("has_entered", .object [("segment", .int 5)])]])])] := by rfl
    rw [hvalue]
    simp only [Json.greatestDepth, Json.IsPlain, List.forall_mem_cons, List.not_mem_nil,
      false_implies, implies_true, and_true, true_and]
    exact ⟨by decide, by decide, by decide, by decide, .inl (by decide)⟩
  obtain ⟨-, -, hsilent, -⟩ := @run_all_or_nothing [] archive _ _ hwhole
  obtain ⟨hzero, hends, -, -, hread, hdropped, hlayout⟩ := @run_all_or_nothing [] archive _ _ hpart
  have hexit : (run [] archive ["compile", "--data-path", ".", "--workspace", "w"]).exitCode = 0 :=
    hzero.mpr ⟨{}, [entered], hreaches, fun d hd => by
      obtain rfl := List.mem_singleton.mp hd
      exact ⟨enteredQuery, .compile hquery⟩⟩
  obtain ⟨hsame, -, -⟩ := hlayout _ true hlines
  exact ⟨⟨hwhole, by decide +kernel, hsilent hfails⟩, hpart, hreaches, by decide +kernel, hends,
    hread _ _ _ hreaches hprints hplain, hdropped _ _ _ hreaches hweeded, hsame.trans hexit,
    by decide +kernel⟩

end Audience.Program
