import Audience.Keyed
import Audience.Text.Split

/-!
# `Audience.FileSystem` — what can be found under a path

A file system answers two questions: the bytes of the file at a path, and the names in the folder at a
path, in any order. A tree of files in memory is one.

## Contents
- **File systems.** `FileSystem` and `FileSystem.text?`.
- **Trees.** `FileTree`, `FileTree.insert`, `FileTree.ofFiles` and the `places` of a file.
- **Paths in trees.** `FileTree.at?` and `FileTree.fileSystem`.
-/

namespace Audience

open Text

/-! ## File systems -/

/-- What can be found under a path. -/
structure FileSystem where
  /-- The bytes of the file at a path, if it can be read. -/
  read : String → Option ByteArray
  /-- The names in the folder at a path, if it can be listed. -/
  list : String → Option (List String)

/-- The text of the file at a path, if it can be read and is UTF-8. -/
def FileSystem.text? (fs : FileSystem) (path : String) : Option String :=
  (fs.read path).bind String.fromUTF8?

/-! ## Trees -/

/-- A file with its bytes, or a folder with its entries. -/
inductive FileTree where
  | file (bytes : ByteArray)
  | folder (entries : List (String × FileTree))

namespace FileTree

/-- The tree with something put at the place that the parts of a path lead to; folders on the way are
made where they are missing. An empty folder is put only where there is none yet. -/
def insert : List String → FileTree → FileTree → FileTree
  | [], .folder [], .folder entries => .folder entries
  | [], new, _ => new
  | part :: parts, new, .folder entries =>
      let old := (Keyed.lookup? part entries).getD (.folder [])
      .folder (Keyed.insert part (insert parts new old) entries)
  | part :: parts, new, .file _ => .folder [(part, insert parts new (.folder []))]

/-- The folders that a relative path leads through, and the place that it leads to, the last in front.
An empty part and a point stay where they are, and two points go back. -/
def places (parts : List String) : List (List String) :=
  parts.foldl
    (fun found part =>
      let here := found.headD []
      if part = "" ∨ part = "." then found
      else if part = ".." then here.dropLast :: found
      else (here ++ [part]) :: found)
    []

/-- The tree with a file or a folder at a relative path, and all folders that the path leads through. -/
def withFile (tree new : FileTree) (path : String) : FileTree :=
  match places (split '/' path) with
  | [] => tree
  | place :: folders =>
      insert place new (folders.foldr (fun folder tree => insert folder (.folder []) tree) tree)

/-- The tree of files at relative paths; a path without bytes is an empty folder. The program finds its
files on a disk; trees are made from lists of files to test it without one. -/
def ofFiles (files : List (String × Option ByteArray)) : FileTree :=
  files.foldl
    (fun tree f =>
      match f.2 with
      | some bytes => tree.withFile (.file bytes) f.1
      | none => tree.withFile (.folder []) f.1)
    (.folder [])

/-! ## Paths in trees -/

/-- One part of a path. The way to where we are has the innermost place in front; a part leads on from
a folder only, an empty part and a point stay there, and two points go back. -/
def step : List FileTree → String → Option (List FileTree)
  | .folder entries :: outer, part =>
      if part = "" ∨ part = "." then some (.folder entries :: outer)
      else if part = ".." then
        match outer with
        | [] => none
        | _ :: _ => some outer
      else (Keyed.lookup? part entries).map (· :: .folder entries :: outer)
  | _, _ => none

/-- What a relative path leads to. -/
def at? (tree : FileTree) (path : String) : Option FileTree :=
  if path = "" ∨ path.toList.head? = some '/' then none
  else ((split '/' path).foldlM step [tree]).bind List.head?

/-- The tree as a file system. -/
def fileSystem (tree : FileTree) : FileSystem where
  read path :=
    match tree.at? path with
    | some (.file bytes) => some bytes
    | _ => none
  list path :=
    match tree.at? path with
    | some (.folder entries) => some (entries.map (·.1))
    | _ => none

end FileTree

end Audience
