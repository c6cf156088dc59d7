import Audience.CommandLine
import Audience.Library
import Audience.Payload
import Audience.Seed
import Audience.Settings.Environment

/-!
# `Audience.Program` — one run of the compiler

A run reads the command line, then the configuration, then the definitions, keeps those of the workspace,
and compiles them. It prints either all results as one list, or nothing but the first error. It is broken
off, and reports no error, where the configuration has a value for a position that no list has.

## Contents
- **Outcomes.** `RunError` with its text and the `firstLine` of it, and `Outcome` with what it prints. The
  text of the help, and the reports of a misuse and of a run that is broken off, are stand-ins.
- **Configuration.** `effective`: what the command line changes in it.
- **Results.** `queryEntry`, `results`.
- **Runs.** `execute` and `run`.
-/

namespace Audience.Program

open CommandLine

/-! ## Outcomes -/

/-- Why a run fails. -/
inductive RunError where
  | settings (cause : SettingsError)
  | loading (cause : Library.LoadError)
  /-- A definition whose query was to be printed. -/
  | compiling (name : String) (cause : MissingContent)
  /-- A definition whose payload was to be printed. -/
  | payload (cause : MissingContent)

/-- The text of an error. -/
def RunError.message : RunError → String
  | .settings cause => cause.message
  | .loading cause => cause.message
  | .compiling name cause => "compiling '" ++ name ++ "': " ++ cause.message
  | .payload cause => cause.message

/-- The first line of the text of an error, without a carriage return at its end. No run uses it: it is
for comparing reports, of which the causes of the error take up further lines. -/
def RunError.firstLine (e : RunError) : String :=
  let line := e.message.toList.takeWhile (· ≠ '\n')
  String.ofList (if line.getLast? = some '\r' then line.dropLast else line)

/-- How a run ends. -/
inductive Outcome where
  | help
  | version
  /-- The command line is misused. -/
  | misuse
  /-- A value in the environment is meant for a position that its list cannot have. -/
  | brokenOff
  | failure (error : RunError)
  /-- What is printed. -/
  | success (output : String)

/-- The exit code of an outcome. -/
def Outcome.exitCode : Outcome → UInt32
  | .help => 0
  | .version => 0
  | .misuse => 2
  | .brokenOff => 101
  | .failure _ => 1
  | .success _ => 0

/-- The name and version of the program. -/
def versionText : String :=
  "cohort-compiler 0.1.0\n"

/-- What the program is for. It stands for the whole help, which an option reader puts together from the
commands and their options and which is no part of this library. -/
def helpText : String :=
  "Compile cohort definitions into targeting queries\n"

/-- What an outcome puts on the standard output. -/
def Outcome.stdout : Outcome → String
  | .help => helpText
  | .version => versionText
  | .misuse => ""
  | .brokenOff => ""
  | .failure _ => ""
  | .success output => output

/-- What an outcome reports as an error: the text of the error, without the log and without the causes
that may be listed below it. The reports of a misuse and of a run that is broken off only stand for
those of an option reader and of a runtime, whose wording is no part of this library. -/
def Outcome.stderr : Outcome → String
  | .misuse => "error: the command line is misused\n"
  | .brokenOff => "error: a variable leads to no place in the configuration\n"
  | .failure error => "Error: " ++ error.message ++ "\n"
  | _ => ""

/-! ## Configuration -/

/-- The variable that stands in for the option `--data-path`, by its exact name. -/
def dataPathVariable : String :=
  "COHORT_COMPILER__DATA__DATA_PATH"

/-- The configuration with the options of the command line in place. -/
def effective (env : List (String × String)) (options : Options) (c : Configuration) :
    Configuration where
  compiler :=
    match options.market with
    | none => c.compiler
    | some market => { c.compiler with defaultMarket := market }
  dataPath := (options.dataPath.or (Keyed.lookup? dataPathVariable env)).or c.dataPath

/-! ## Results -/

/-- A query under the name of its definition. -/
def queryEntry (settings : Settings) (d : Definition) : Except RunError Json :=
  match d.query settings with
  | .error cause => .error (.compiling d.name cause)
  | .ok q => .ok (.ofMembers [("name", .text d.name), ("query", q.toJson)])

/-- A payload as it is printed. -/
def payloadEntry (payload : Except MissingContent Payload) : Except RunError Json :=
  (payload.map Payload.toJson).mapError .payload

/-- The definitions that a run compiles: those of the workspace, if one is given. -/
def kept (options : Options) (ds : List Definition) : List Definition :=
  match options.workspace with
  | none => ds
  | some workspace => Definition.inWorkspace workspace ds

/-- The results of a command. -/
def results (settings : Settings) (ds : List Definition) : Command → Except RunError (List Json)
  | .compile => ds.mapM (queryEntry settings)
  | .payload tags => ds.mapM fun d => payloadEntry (Payload.ofDefinition settings tags d)
  | .clickers tags => ds.mapM fun d => payloadEntry (Payload.clickers settings tags d)
  | .seeds => (Definition.seeds ds settings.defaultMarket).mapM (queryEntry settings)

/-! ## Runs -/

/-- The results of a request. -/
def execute (env : List (String × String)) (fs : FileSystem) (request : Invocation) :
    Except RunError (List Json) := do
  let loaded ← (Environment.load env).mapError .settings
  let c := effective env request.options loaded
  let ds ← (Library.load fs request.file c.dataPath).mapError .loading
  results c.compiler (kept request.options ds) request.command

/-- The list of results as it is printed. -/
def render (pretty : Bool) (values : List Json) : String :=
  (if pretty then Json.pretty (.list values) else Json.compact (.list values)) ++ "\n"

/-- One run of the program. -/
def run (env : List (String × String)) (fs : FileSystem) (args : List String) : Outcome :=
  match parse args with
  | .error .help => .help
  | .error .version => .version
  | .error .misuse => .misuse
  | .ok request =>
      match execute env fs request with
      | .error (.settings .noSuchPosition) => .brokenOff
      | .error e => .failure e
      | .ok values => .success (render request.options.pretty values)

end Audience.Program
