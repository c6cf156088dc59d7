/-!
# `Audience.CommandLine` — the words of a command line

A command line is a command with options before or behind it, at most one file, and tags where the
command takes them. An option is given at most once at each of the two places, and the one behind the
command counts. Options and help are taken in order, so the first word that does not fit decides; only
the value right in front of the command is taken after the command itself.

## Contents
- **Requests.** `Command`, `Options`, `Invocation`, and the reasons to `Stop`.
- **Words.** `Word`, `Word.ofText`: an option, a cluster of letters, a plain word.
- **Options.** `Key`, `Options.give`, `Options.within`.
- **Reading.** `readWords`, `readCommand`, `readRoot` and `parse`.
-/

namespace Audience.CommandLine

/-! ## Requests -/

/-- What is to be printed. -/
inductive Command where
  /-- The query of each definition. -/
  | compile
  /-- The payload of each definition. -/
  | payload (tags : List String)
  /-- The payload of each definition's companion audience. -/
  | clickers (tags : List String)
  /-- The query of each seed. -/
  | seeds

/-- The options that every command takes. -/
structure Options where
  dataPath : Option String := none
  workspace : Option String := none
  market : Option String := none
  pretty : Bool := false

/-- A complete request. -/
structure Invocation where
  command : Command
  file : Option String
  options : Options

/-- Why a command line is not a request. -/
inductive Stop where
  | help
  | version
  /-- The words do not fit together. -/
  | misuse
deriving DecidableEq

/-! ## Words -/

/-- The form of a word. -/
inductive Word where
  /-- Two hyphens alone. -/
  | separator
  /-- A name behind two hyphens, and what follows its `=`. -/
  | long (name : List Char) (value : Option (List Char))
  /-- Letters behind one hyphen. -/
  | letters (cs : List Char)
  /-- Any other word; a hyphen alone is one. -/
  | plain

/-- The form of a word. -/
def Word.ofText (s : String) : Word :=
  match s.toList with
  | ['-', '-'] => .separator
  | '-' :: '-' :: cs =>
      match cs.dropWhile (· ≠ '=') with
      | _ :: value => .long (cs.takeWhile (· ≠ '=')) (some value)
      | [] => .long cs none
  | '-' :: c :: cs => .letters (c :: cs)
  | _ => .plain

/-- The word can be the value of an option. -/
def isValue (s : String) : Bool :=
  match Word.ofText s with
  | .plain => true
  | _ => false

/-! ## Options -/

/-- The options that have a value. -/
inductive Key where
  | dataPath
  | workspace
  | market
  | tag
deriving DecidableEq

/-- The option of a name. -/
def Key.ofName? (name : List Char) : Option Key :=
  if name = "data-path".toList then some .dataPath
  else if name = "workspace".toList then some .workspace
  else if name = "market".toList then some .market
  else if name = "tag".toList then some .tag
  else none

/-- What has been read at one place: the options, the tags and the file. -/
structure Place where
  options : Options := {}
  tags : List String := []
  file : Option String := none

/-- Gives a value to an option that has none yet. -/
def giveOnce (old : Option String) (value : String) : Except Stop (Option String) :=
  match old with
  | none => .ok (some value)
  | some _ => .error .misuse

/-- The place with a value given to an option. Tags are collected where the command takes them. -/
def Place.give (takesTags : Bool) (p : Place) (value : String) : Key → Except Stop Place
  | .dataPath =>
      (giveOnce p.options.dataPath value).map fun v =>
        { p with options := { p.options with dataPath := v } }
  | .workspace =>
      (giveOnce p.options.workspace value).map fun v =>
        { p with options := { p.options with workspace := v } }
  | .market =>
      (giveOnce p.options.market value).map fun v =>
        { p with options := { p.options with market := v } }
  | .tag => if takesTags then .ok { p with tags := p.tags ++ [value] } else .error .misuse

/-- The place with pretty printing, which is asked for at most once. -/
def Place.givePretty (p : Place) : Except Stop Place :=
  if p.options.pretty then .error .misuse
  else .ok { p with options := { p.options with pretty := true } }

/-- The place with its only file, which has a name. -/
def Place.giveFile (p : Place) (file : String) : Except Stop Place :=
  if file = "" then .error .misuse
  else (giveOnce p.file file).map fun f => { p with file := f }

/-- The options of two places; those of the first count. -/
def Options.within (inner outer : Options) : Options where
  dataPath := inner.dataPath.or outer.dataPath
  workspace := inner.workspace.or outer.workspace
  market := inner.market.or outer.market
  pretty := inner.pretty || outer.pretty

/-! ## Reading -/

/-- The request of letters behind one hyphen: the first letter has to be a known one, and it stops the
reading. -/
def stopOfLetters (atRoot : Bool) : List Char → Stop
  | 'h' :: _ => .help
  | 'V' :: _ => if atRoot then .version else .misuse
  | _ => .misuse

/-- The options without a value by their names. -/
def Place.flag (atRoot : Bool) (p : Place) (name : List Char) : Except Stop Place :=
  if name = "pretty".toList then p.givePretty
  else if name = "help".toList then .error .help
  else if atRoot ∧ name = "version".toList then .error .version
  else .error .misuse

/-- Files only, behind two hyphens alone. -/
def readFiles (p : Place) : List String → Except Stop Place
  | [] => .ok p
  | file :: rest => do readFiles (← p.giveFile file) rest

/-- The words behind a command. -/
def readWords (takesTags : Bool) (p : Place) : List String → Except Stop Place
  | [] => .ok p
  | word :: rest =>
      match Word.ofText word with
      | .separator => readFiles p rest
      | .letters cs => .error (stopOfLetters false cs)
      | .plain => do readWords takesTags (← p.giveFile word) rest
      | .long name value =>
          match Key.ofName? name, value with
          | some key, some v => do
              readWords takesTags (← p.give takesTags (String.ofList v) key) rest
          | some key, none =>
              if key = .tag ∧ !takesTags then .error .misuse
              else
                match rest with
                | [] => .error .misuse
                | v :: rest =>
                    if isValue v then do readWords takesTags (← p.give takesTags v key) rest
                    else .error .misuse
          | none, some _ => .error .misuse
          | none, none => do readWords takesTags (← p.flag false name) rest

/-- The names that help can be asked for. -/
def helpTopics : List String :=
  ["compile", "payload", "clickers", "seeds", "help"]

/-- The request for help, with at most one topic. -/
def readHelp : List String → Stop
  | [] => .help
  | [topic] => if helpTopics.contains topic then .help else .misuse
  | _ => .misuse

/-- A command by its name, with the words behind it. -/
def readCommand (outer : Options) (name : String) (rest : List String) :
    Except Stop Invocation := do
  if name = "compile" then
    let p ← readWords false {} rest
    return ⟨.compile, p.file, p.options.within outer⟩
  else if name = "payload" then
    let p ← readWords true {} rest
    return ⟨.payload p.tags, p.file, p.options.within outer⟩
  else if name = "clickers" then
    let p ← readWords true {} rest
    return ⟨.clickers p.tags, p.file, p.options.within outer⟩
  else if name = "seeds" then
    let p ← readWords false {} rest
    return ⟨.seeds, p.file, p.options.within outer⟩
  else if name = "help" then throw (readHelp rest)
  else throw .misuse

/-- What comes of an option that is given once too often, with these words behind its value. Where they
start with the command, the command is read before the option is, so that it can still ask for help. -/
def afterRepetition (p : Place) : List String → Stop
  | [] => .misuse
  | word :: rest =>
      match Word.ofText word with
      | .plain =>
          match readCommand p.options word rest with
          | .error .help => .help
          | _ => .misuse
      | _ => .misuse

/-- The words in front of the command, and the command itself. -/
def readRoot (p : Place) : List String → Except Stop Invocation
  | [] => .error .misuse
  | word :: rest =>
      match Word.ofText word with
      | .separator => .error .misuse
      | .letters cs => .error (stopOfLetters true cs)
      | .plain => readCommand p.options word rest
      | .long name value =>
          match Key.ofName? name, value with
          | some key, some v => do readRoot (← p.give false (String.ofList v) key) rest
          | some key, none =>
              if key = .tag then .error .misuse
              else
                match rest with
                | [] => .error .misuse
                | v :: rest =>
                    if isValue v then
                      match p.give false v key with
                      | .ok p => readRoot p rest
                      | .error _ => .error (afterRepetition p rest)
                    else .error .misuse
          | none, some _ => .error .misuse
          | none, none => do readRoot (← p.flag true name) rest

/-- The request of a command line. -/
def parse (args : List String) : Except Stop Invocation :=
  readRoot {} args

/-! ## Examples -/

example : (parse ["--market", "help", "seeds", "--pretty", "a.json"]).isOk = true := by
  decide +kernel

example : (parse ["compile", "--tag", "x"]).isOk = false := by decide +kernel

example : (match parse ["--market", "a", "--market", "b", "seeds", "-h"] with
    | .error e => some e
    | .ok _ => none) = some .help := by
  decide +kernel

end Audience.CommandLine
