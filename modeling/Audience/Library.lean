import Audience.Definition.Document
import Audience.FileSystem

/-!
# `Audience.Library` — loading definitions from files

Definitions come from one file, or from all files with the extension `json` in the folder `query` under
the data path, in the order of their names. The first file that cannot be loaded is the error.

## Contents
- **Paths.** `joinPath` and `isDefinitionFile`.
- **Errors.** `LoadError` and its texts.
- **Loading.** `loadFile`, `definitionFiles` and `load`.
-/

namespace Audience.Library

/-! ## Paths -/

/-- The path of an entry under a folder. -/
def joinPath (folder entry : String) : String :=
  match folder.toList.getLast? with
  | none => entry
  | some '/' => folder ++ entry
  | some _ => folder ++ "/" ++ entry

/-- The name has the extension `json` behind something else. -/
def isDefinitionFile (name : String) : Bool :=
  match name.toList.reverse with
  | 'n' :: 'o' :: 's' :: 'j' :: '.' :: _ :: _ => true
  | _ => false

/-! ## Errors -/

/-- Why definitions cannot be loaded. -/
inductive LoadError where
  /-- Neither a file nor a data path is given. -/
  | noSource
  | listing (folder : String)
  | reading (file : String)
  | parsing (file : String) (cause : Definition.DocumentError)

/-- The text of an error. -/
def LoadError.message : LoadError → String
  | .noSource => "No definition file given and no data path configured"
  | .listing folder => "listing " ++ folder
  | .reading file => "reading " ++ file
  | .parsing file _ => "parsing " ++ file

/-! ## Loading -/

/-- The definitions in a file. -/
def loadFile (fs : FileSystem) (path : String) : Except LoadError (List Definition) :=
  match fs.text? path with
  | none => .error (.reading path)
  | some s => (Definition.parse s).mapError (.parsing path)

/-- The definition files in a folder, in the order of their names. -/
def definitionFiles (fs : FileSystem) (folder : String) : Except LoadError (List String) :=
  match fs.list folder with
  | none => .error (.listing folder)
  | some names => .ok ((Roster.sorted (names.filter isDefinitionFile)).map (joinPath folder))

/-- The folder of definitions under a data path. -/
def definitionFolder (dataPath : String) : String :=
  joinPath dataPath "query"

/-- The files to load: the given one, or those under the data path. -/
def sources (fs : FileSystem) (file? dataPath? : Option String) :
    Except LoadError (List String) :=
  match file?, dataPath? with
  | some file, _ => .ok [file]
  | none, some dataPath => definitionFiles fs (definitionFolder dataPath)
  | none, none => .error .noSource

/-- The definitions of all files in turn. -/
def load (fs : FileSystem) (file? dataPath? : Option String) :
    Except LoadError (List Definition) := do
  let paths ← sources fs file? dataPath?
  let groups ← paths.mapM (loadFile fs)
  return groups.flatten

end Audience.Library
