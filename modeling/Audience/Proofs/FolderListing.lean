import Audience.Library
import Audience.Proofs.Contribution
import Audience.Proofs.RosterLaws

/-!
# `Audience.Proofs.FolderListing` — a folder is loaded in one order, however it is listed

A file system may list a folder in any order. The definition files of the folder are sorted by name before
the first of them is read, so neither the definitions nor the error of a load depends on that order: the
definitions stand in the order of the names, and where a file cannot be loaded, the first such file in
that order is reported. What else is in the folder is never looked at.

What a file holds, and why it cannot be loaded, is said here by the relations `Supplies` and `Fails`, and
which names are those of definition files by their form. The functions of the load appear in none of
them.

## Contents
- **Names.** `HasExtension`, with `isDefinitionFile_iff`; `AreInOrder` and `areInOrder_iff`.
- **One file.** `Supplies` and `Fails`, with `loadFile_eq_ok_iff` and `loadFile_eq_error_iff`.
- **Folders.** `Loads`, how a load ends, with `load_eq_iff` and `exists_load_iff`.
- **Other listings.** `SameDefinitionFiles`, with `load_congr` and `SameDefinitionFiles.of_perm`.
- **Trees.** `at?_entry` and `read_entry_iff`: what a folder of a tree holds is what is read there.
- **All listings.** `load_folder`.
-/

namespace Audience.Library

open Text

variable {fs fs' : FileSystem} {path folder name dataPath : String} {names files : List String}

/-! ## Names -/

/-- The name is something, a point, and the extension. -/
def HasExtension (name extension : String) : Prop :=
  '.' ∉ extension.toList ∧ ∃ stem, stem ≠ "" ∧ name = stem ++ "." ++ extension

/-- **Definition files are those with the extension `json`.** -/
theorem isDefinitionFile_iff : isDefinitionFile name = true ↔ HasExtension name "json" := by
  constructor
  · intro h
    refine ⟨by decide, ?_⟩
    unfold isDefinitionFile at h
    split at h
    · rename_i c rest hreverse
      refine ⟨String.ofList (rest.reverse ++ [c]), ?_, ?_⟩
      · rw [Ne, ← String.toList_inj, String.toList_ofList]
        simp
      · rw [← String.toList_inj, ← List.reverse_inj, hreverse]
        simp
    · cases h
  · rintro ⟨-, stem, hstem, rfl⟩
    have hne : stem.toList.reverse ≠ [] := by
      rw [Ne, List.reverse_eq_nil_iff, String.toList_eq_nil_iff]
      exact hstem
    obtain ⟨c, rest, hrest⟩ := List.exists_cons_of_ne_nil hne
    have hreverse : (stem ++ "." ++ "json").toList.reverse =
        'n' :: 'o' :: 's' :: 'j' :: '.' :: c :: rest := by
      rw [String.toList_append, String.toList_append, List.reverse_append, List.reverse_append, hrest]
      rfl
    unfold isDefinitionFile
    rw [hreverse]
    rfl

/-- A point in front of `json` and nothing before it is no extension. -/
theorem not_hasExtension_hidden : ¬ HasExtension ".json" "json" := by
  rw [← isDefinitionFile_iff]
  decide

/-- The files are the definition files among the names, in ascending order of their code points. -/
structure AreInOrder (names files : List String) : Prop where
  ascending : files.Pairwise fun a b => codePoints a < codePoints b
  mem_iff : ∀ name, name ∈ files ↔ name ∈ names ∧ HasExtension name "json"

/-- The definition files among names, as they are loaded. -/
def inOrder (names : List String) : List String :=
  Roster.sorted (names.filter isDefinitionFile)

theorem mem_inOrder : name ∈ inOrder names ↔ name ∈ names ∧ HasExtension name "json" := by
  rw [inOrder, Roster.mem_sorted, List.mem_filter, isDefinitionFile_iff]

theorem areInOrder_inOrder (names : List String) : AreInOrder names (inOrder names) where
  ascending := List.Pairwise.imp (fun h => Text.before_iff.mp h) (Roster.ascending_sorted _)
  mem_iff _ := mem_inOrder

/-- **There is one order of the definition files.** -/
theorem areInOrder_iff : AreInOrder names files ↔ files = inOrder names := by
  constructor
  · intro h
    have hfiles : Roster.Ascending files :=
      List.Pairwise.imp (fun hab => Text.before_iff.mpr hab) h.ascending
    refine hfiles.eq_of_mem_iff (Roster.ascending_sorted _) ?_
    intro name
    exact (h.mem_iff name).trans mem_inOrder.symm
  · rintro rfl
    exact areInOrder_inOrder names

theorem inOrder_congr {names' : List String}
    (h : ∀ name, HasExtension name "json" → (name ∈ names ↔ name ∈ names')) :
    inOrder names = inOrder names' := by
  refine areInOrder_iff.mp ⟨(areInOrder_inOrder names).ascending, fun name => ?_⟩
  rw [mem_inOrder]
  exact and_congr_left (h name)

/-! ## One file -/

/-- The file at the path can be read, its bytes are UTF-8, and the text is a document of these
definitions. -/
def Supplies (fs : FileSystem) (path : String) (ds : List Definition) : Prop :=
  ∃ bytes text, fs.read path = some bytes ∧ String.fromUTF8? bytes = some text ∧
    Definition.parse text = .ok ds

/-- Why nothing is loaded from the file at a path. -/
inductive Fails (fs : FileSystem) (path : String) : LoadError → Prop
  /-- There is no file that can be read. -/
  | unreadable (hread : fs.read path = none) : Fails fs path (.reading path)
  /-- The bytes of the file are not UTF-8. -/
  | undecodable {bytes : ByteArray} (hread : fs.read path = some bytes)
      (hbytes : String.fromUTF8? bytes = none) : Fails fs path (.reading path)
  /-- The text of the file is no document. -/
  | refused {bytes : ByteArray} {text : String} {cause : Definition.DocumentError}
      (hread : fs.read path = some bytes) (hbytes : String.fromUTF8? bytes = some text)
      (htext : Definition.parse text = .error cause) : Fails fs path (.parsing path cause)

theorem loadFile_of_no_text (h : fs.text? path = none) : loadFile fs path = .error (.reading path) := by
  unfold loadFile
  rw [h]

theorem loadFile_of_text {text : String} (h : fs.text? path = some text) :
    loadFile fs path = (Definition.parse text).mapError (.parsing path) := by
  unfold loadFile
  rw [h]

theorem loadFile_of_supplies {ds : List Definition} (h : Supplies fs path ds) :
    loadFile fs path = .ok ds := by
  obtain ⟨bytes, text, hread, hbytes, htext⟩ := h
  have hsome : fs.text? path = some text := Option.bind_eq_some_iff.mpr ⟨bytes, hread, hbytes⟩
  rw [loadFile_of_text hsome, htext]
  rfl

theorem loadFile_of_fails {e : LoadError} (h : Fails fs path e) : loadFile fs path = .error e := by
  cases h with
  | unreadable hread =>
      apply loadFile_of_no_text
      rw [FileSystem.text?, hread, Option.bind_none]
  | undecodable hread hbytes =>
      apply loadFile_of_no_text
      rw [FileSystem.text?, hread, Option.bind_some, hbytes]
  | refused hread hbytes htext =>
      rw [loadFile_of_text (Option.bind_eq_some_iff.mpr ⟨_, hread, hbytes⟩), htext]
      rfl

/-- A file is loaded from what is read at its path. -/
theorem loadFile_congr (h : fs.read path = fs'.read path) : loadFile fs path = loadFile fs' path := by
  rw [loadFile, loadFile, FileSystem.text?, FileSystem.text?, h]

/-- A file supplies definitions, or there is a reason why it does not. -/
theorem supplies_or_fails (fs : FileSystem) (path : String) :
    (∃ ds, Supplies fs path ds) ∨ ∃ e, Fails fs path e := by
  cases hread : fs.read path with
  | none => exact .inr ⟨_, .unreadable hread⟩
  | some bytes =>
      cases hbytes : String.fromUTF8? bytes with
      | none => exact .inr ⟨_, .undecodable hread hbytes⟩
      | some text =>
          cases htext : Definition.parse text with
          | ok ds => exact .inl ⟨ds, bytes, text, hread, hbytes, htext⟩
          | error cause => exact .inr ⟨_, .refused hread hbytes htext⟩

theorem loadFile_eq_ok_iff {ds : List Definition} :
    loadFile fs path = .ok ds ↔ Supplies fs path ds := by
  refine ⟨fun h => ?_, loadFile_of_supplies⟩
  rcases supplies_or_fails fs path with ⟨ds', hsupplies⟩ | ⟨e, hfails⟩
  · have hds : Except.ok ds = .ok ds' := h.symm.trans (loadFile_of_supplies hsupplies)
    rw [Except.ok.inj hds]
    exact hsupplies
  · rw [loadFile_of_fails hfails] at h
    cases h

theorem loadFile_eq_error_iff {e : LoadError} : loadFile fs path = .error e ↔ Fails fs path e := by
  refine ⟨fun h => ?_, loadFile_of_fails⟩
  rcases supplies_or_fails fs path with ⟨ds, hsupplies⟩ | ⟨e', hfails⟩
  · rw [loadFile_of_supplies hsupplies] at h
    cases h
  · have he : Except.error e = .error e' := h.symm.trans (loadFile_of_fails hfails)
    rw [Except.error.inj he]
    exact hfails

/-! ## Folders -/

/-- The path of an entry in the folder of definitions under a data path. -/
def entryPath (dataPath name : String) : String :=
  joinPath (definitionFolder dataPath) name

theorem load_of_unlisted (h : fs.list (definitionFolder dataPath) = none) :
    load fs none (some dataPath) = .error (.listing (definitionFolder dataPath)) := by
  rw [load, sources, definitionFiles, h]
  rfl

/-- With the folder listed, its definition files are loaded in their order. -/
theorem load_of_listed (h : fs.list (definitionFolder dataPath) = some names) :
    load fs none (some dataPath) =
      ((inOrder names).mapM fun name => loadFile fs (entryPath dataPath name)).map List.flatten := by
  have hmap : ((inOrder names).map (joinPath (definitionFolder dataPath))).mapM (loadFile fs) =
      (inOrder names).mapM fun name => loadFile fs (entryPath dataPath name) := List.mapM_map
  rw [load, sources, definitionFiles, h, ← hmap]
  rfl

/-- How a load from the folder under a data path ends: the folder cannot be listed, some definition file
fails and none in front of it does, or all of them supply definitions. -/
inductive Loads (fs : FileSystem) (dataPath : String) : Except LoadError (List Definition) → Prop
  /-- The folder cannot be listed. -/
  | unlisted (hlist : fs.list (definitionFolder dataPath) = none) :
      Loads fs dataPath (.error (.listing (definitionFolder dataPath)))
  /-- The first definition file that fails is reported. -/
  | failed {names before after : List String} {name : String} {e : LoadError}
      (hlist : fs.list (definitionFolder dataPath) = some names)
      (horder : AreInOrder names (before ++ name :: after))
      (hbefore : ∀ b ∈ before, ∃ ds, Supplies fs (entryPath dataPath b) ds)
      (hname : Fails fs (entryPath dataPath name) e) : Loads fs dataPath (.error e)
  /-- The definitions of the files are joined in the order of the files. -/
  | loaded {names files : List String} {groups : List (List Definition)}
      (hlist : fs.list (definitionFolder dataPath) = some names) (horder : AreInOrder names files)
      (hgroups : List.Forall₂ (fun name group => Supplies fs (entryPath dataPath name) group) files
        groups) : Loads fs dataPath (.ok groups.flatten)

theorem loads_load (fs : FileSystem) (dataPath : String) :
    Loads fs dataPath (load fs none (some dataPath)) := by
  cases hlist : fs.list (definitionFolder dataPath) with
  | none =>
      rw [load_of_unlisted hlist]
      exact .unlisted hlist
  | some names =>
      rw [load_of_listed hlist]
      cases hrun : (inOrder names).mapM fun name => loadFile fs (entryPath dataPath name) with
      | ok groups =>
          simp only [mapM_eq_ok_iff, loadFile_eq_ok_iff] at hrun
          exact .loaded hlist (areInOrder_inOrder names) hrun
      | error e =>
          simp only [mapM_eq_error_iff, loadFile_eq_ok_iff, loadFile_eq_error_iff] at hrun
          obtain ⟨before, name, after, hfiles, hbefore, hname⟩ := hrun
          exact .failed hlist (areInOrder_iff.mpr hfiles.symm) hbefore hname

theorem load_of_loads {result : Except LoadError (List Definition)} (h : Loads fs dataPath result) :
    load fs none (some dataPath) = result := by
  cases h with
  | unlisted hlist => exact load_of_unlisted hlist
  | failed hlist horder hbefore hname =>
      rw [load_of_listed hlist, map_eq_error_iff, mapM_eq_error_iff]
      refine ⟨_, _, _, (areInOrder_iff.mp horder).symm, ?_, loadFile_of_fails hname⟩
      intro b hb
      obtain ⟨ds, hds⟩ := hbefore b hb
      exact ⟨ds, loadFile_of_supplies hds⟩
  | loaded hlist horder hgroups =>
      rw [load_of_listed hlist, ← areInOrder_iff.mp horder, map_eq_ok_iff]
      refine ⟨_, mapM_eq_ok_iff.mpr ?_, rfl⟩
      exact hgroups.imp fun _ _ => loadFile_of_supplies

/-- **A load ends in one way.** -/
theorem load_eq_iff {result : Except LoadError (List Definition)} :
    load fs none (some dataPath) = result ↔ Loads fs dataPath result :=
  ⟨fun h => h ▸ loads_load fs dataPath, load_of_loads⟩

/-- Definitions are loaded as soon as every definition file supplies some. -/
theorem exists_load_iff : (∃ ds, load fs none (some dataPath) = .ok ds) ↔
    ∃ names, fs.list (definitionFolder dataPath) = some names ∧
      ∀ name ∈ names, HasExtension name "json" → ∃ ds, Supplies fs (entryPath dataPath name) ds := by
  cases hlist : fs.list (definitionFolder dataPath) with
  | none =>
      rw [load_of_unlisted hlist]
      simp
  | some names =>
      have hrun : (∃ ds, load fs none (some dataPath) = .ok ds) ↔
          ∃ groups, ((inOrder names).mapM fun name => loadFile fs (entryPath dataPath name)) =
            .ok groups := by
        rw [load_of_listed hlist]
        simp only [map_eq_ok_iff]
        exact ⟨fun ⟨_, groups, h, _⟩ => ⟨groups, h⟩, fun ⟨groups, h⟩ => ⟨_, groups, h, rfl⟩⟩
      rw [hrun, exists_mapM_eq_ok_iff]
      simp only [mem_inOrder, loadFile_eq_ok_iff, and_imp, Option.some_inj, exists_eq_left']

/-! ## Other listings -/

/-- Two file systems have the same definition files in a folder: both of them list the folder or neither
does, they list the same definition files, and the same is read from each of these. -/
structure SameDefinitionFiles (fs fs' : FileSystem) (folder : String) : Prop where
  listed : Option.Rel (fun names names' => ∀ name, HasExtension name "json" →
    (name ∈ names ↔ name ∈ names')) (fs.list folder) (fs'.list folder)
  read : ∀ names ∈ fs.list folder, ∀ name ∈ names, HasExtension name "json" →
    fs.read (joinPath folder name) = fs'.read (joinPath folder name)

/-- A folder that is listed in another order has the same definition files. -/
theorem SameDefinitionFiles.of_perm (hread : fs'.read = fs.read)
    (hlist : Option.Rel List.Perm (fs.list folder) (fs'.list folder)) :
    SameDefinitionFiles fs fs' folder where
  listed := by
    generalize fs.list folder = listing, fs'.list folder = listing' at hlist
    cases hlist with
    | some hperm => exact .some fun name _ => hperm.mem_iff
    | none => exact .none
  read _ _ name _ _ := by rw [hread]

/-- **The definition files are all that a load depends on.** -/
theorem load_congr (h : SameDefinitionFiles fs fs' (definitionFolder dataPath)) :
    load fs none (some dataPath) = load fs' none (some dataPath) := by
  obtain ⟨hlisted, hread⟩ := h
  generalize hlist : fs.list (definitionFolder dataPath) = listing at hlisted hread
  generalize hlist' : fs'.list (definitionFolder dataPath) = listing' at hlisted
  cases hlisted with
  | none => rw [load_of_unlisted hlist, load_of_unlisted hlist']
  | some hmem =>
      rw [load_of_listed hlist, load_of_listed hlist', inOrder_congr hmem]
      congr 1
      refine mapM_congr fun name hname => ?_
      obtain ⟨hin, hext⟩ := mem_inOrder.mp hname
      have hsame := hread _ rfl name ((hmem name hext).mpr hin) hext
      exact loadFile_congr hsame

/-! ## Trees -/

/-- The name can stand in a folder and means the entry there: it is one part of a path, and leads on. -/
structure IsEntryName (name : String) : Prop where
  ne_empty : name ≠ ""
  ne_point : name ≠ "."
  ne_points : name ≠ ".."
  slash_notMem : '/' ∉ name.toList

theorem HasExtension.isEntryName (h : HasExtension name "json") (hslash : '/' ∉ name.toList) :
    IsEntryName name := by
  rw [← isDefinitionFile_iff] at h
  refine ⟨?_, ?_, ?_, hslash⟩
  all_goals
    rintro rfl
    exact absurd h (by decide)

/-- A step from a folder leads to the entry. -/
theorem step_entry {entries : List (String × FileTree)} {outer : List FileTree}
    (h : IsEntryName name) : FileTree.step (.folder entries :: outer) name =
      (Keyed.lookup? name entries).map (· :: .folder entries :: outer) := by
  show (if name = "" ∨ name = "." then _ else _) = _
  rw [if_neg (not_or.mpr ⟨h.ne_empty, h.ne_point⟩), if_neg h.ne_points]

/-- **The path of a folder and a name lead to the entry of the folder.** -/
theorem at?_entry {tree : FileTree} {entries : List (String × FileTree)} (hname : IsEntryName name)
    (hfolder : tree.at? folder = some (.folder entries)) :
    tree.at? (folder ++ "/" ++ name) = Keyed.lookup? name entries := by
  unfold FileTree.at? at hfolder
  split at hfolder
  · cases hfolder
  · rename_i hrelative
    obtain ⟨hne, hhead⟩ := not_or.mp hrelative
    have hchars : folder.toList ≠ [] := fun hnil => hne (String.toList_eq_nil_iff.mp hnil)
    have hhead' : (folder ++ "/" ++ name).toList.head? = folder.toList.head? := by
      rw [String.toList_append, String.toList_append, List.append_assoc,
        List.head?_append_of_ne_nil _ hchars]
    have hrelative' : ¬ (folder ++ "/" ++ name = "" ∨
        (folder ++ "/" ++ name).toList.head? = some '/') := by
      rw [hhead', ← String.toList_eq_nil_iff, String.toList_append, String.toList_append]
      simpa using hhead
    have hparts : split '/' (folder ++ "/" ++ name) = split '/' folder ++ [name] := by
      have hsplit := split_append_separator '/' folder name
      rw [split_eq_singleton hname.slash_notMem] at hsplit
      exact hsplit
    -- the way to the folder is known, and the name is one more step on it
    obtain ⟨way, hway, hinner⟩ := Option.bind_eq_some_iff.mp hfolder
    obtain ⟨outer, rfl⟩ := List.head?_eq_some_iff.mp hinner
    rw [FileTree.at?, if_neg hrelative', hparts, List.foldlM_append, hway]
    show ((List.foldlM FileTree.step (.folder entries :: outer) [name]).bind List.head?) = _
    rw [List.foldlM_cons, step_entry hname]
    cases Keyed.lookup? name entries <;> rfl

theorem entryPath_eq (dataPath name : String) :
    entryPath dataPath name = definitionFolder dataPath ++ "/" ++ name := by
  have hlast : (definitionFolder dataPath).toList.getLast? = some 'y' := by
    unfold definitionFolder joinPath
    split
    · rfl
    · rw [String.toList_append, List.getLast?_append_of_ne_nil _ (by decide)]
      rfl
    · rw [String.toList_append, List.getLast?_append_of_ne_nil _ (by decide)]
      rfl
  rw [entryPath, joinPath, hlast]
  rfl

/-- **What is read at the path of an entry is the file that the tree has there**, if it is one. -/
theorem read_entry_iff {tree : FileTree} {entries : List (String × FileTree)} {bytes : ByteArray}
    (hname : IsEntryName name)
    (hfolder : tree.at? (definitionFolder dataPath) = some (.folder entries)) :
    tree.fileSystem.read (entryPath dataPath name) = some bytes ↔
      Keyed.lookup? name entries = some (.file bytes) := by
  have hentry : tree.at? (entryPath dataPath name) = Keyed.lookup? name entries := by
    rw [entryPath_eq, at?_entry hname hfolder]
  simp only [FileTree.fileSystem, hentry]
  cases Keyed.lookup? name entries with
  | none => simp
  | some entry => cases entry <;> simp

/-! ## All listings -/

/-- **A folder of definitions is loaded in the order of its file names, however it is listed.** A load
succeeds when the folder can be listed and each of its files with the extension `json` supplies
definitions. How it ends is known for every folder: definitions stand in ascending order of the file names
by code point, and an error is that of the folder or of the first file in this order that fails. Two file
systems that have the same definition files in the folder come to the same end, and so does one that lists
the folder in another order. `.json` alone has no extension, and a given file leaves the data path without
effect. In a tree of files, what is read at the path of a definition file is the file under its name in the
folder; there is nothing to read where the tree has a folder. -/
theorem load_folder (fs : FileSystem) (dataPath : String) :
    ((∃ ds, load fs none (some dataPath) = .ok ds) ↔
      ∃ names, fs.list (definitionFolder dataPath) = some names ∧
        ∀ name ∈ names, HasExtension name "json" →
          ∃ ds, Supplies fs (entryPath dataPath name) ds) ∧
    (∀ result, load fs none (some dataPath) = result ↔ Loads fs dataPath result) ∧
    (∀ fs', SameDefinitionFiles fs fs' (definitionFolder dataPath) →
      load fs none (some dataPath) = load fs' none (some dataPath)) ∧
    (∀ fs', fs'.read = fs.read →
      Option.Rel List.Perm (fs.list (definitionFolder dataPath))
        (fs'.list (definitionFolder dataPath)) →
      load fs none (some dataPath) = load fs' none (some dataPath)) ∧
    ¬ HasExtension ".json" "json" ∧
    (∀ file, load fs (some file) (some dataPath) = load fs (some file) none) ∧
    ∀ (tree : FileTree) (entries : List (String × FileTree)),
      tree.at? (definitionFolder dataPath) = some (.folder entries) →
      ∀ name, HasExtension name "json" → '/' ∉ name.toList → ∀ bytes,
        (tree.fileSystem.read (entryPath dataPath name) = some bytes ↔
          Keyed.lookup? name entries = some (.file bytes)) := by
  refine ⟨exists_load_iff, fun result => load_eq_iff, ?_, ?_, not_hasExtension_hidden,
    fun file => rfl, ?_⟩
  · intro fs' hsame
    exact load_congr hsame
  · intro fs' hread hlist
    exact load_congr (.of_perm hread hlist)
  · intro tree entries hfolder name hext hslash bytes
    exact read_entry_iff (hext.isEntryName hslash) hfolder

/-- Two definition files, among other things. -/
def shelf : FileTree :=
  .folder [("data", .folder [("query", .folder
    [(".json", .file "broken".toUTF8), ("b.json", .file "\x7b\"name\":\"Second\"\x7d".toUTF8),
      ("old", .folder []), ("a.json", .file "[\x7b\"name\":\"First\"\x7d]".toUTF8)])])]

/-- The two definition files alone. -/
def tidyShelf : FileTree :=
  .folder [("data", .folder [("query", .folder
    [("b.json", .file "\x7b\"name\":\"Second\"\x7d".toUTF8),
      ("a.json", .file "[\x7b\"name\":\"First\"\x7d]".toUTF8)])])]

/-- The file system with every folder listed backwards. -/
def listedBackwards (fs : FileSystem) : FileSystem :=
  { fs with list := fun path => (fs.list path).map List.reverse }

/-- Tidying takes nothing away that is loaded. -/
theorem sameDefinitionFiles_tidyShelf :
    SameDefinitionFiles shelf.fileSystem tidyShelf.fileSystem (definitionFolder "data") where
  listed := by
    refine .some fun name hext => ?_
    have hhidden : name ≠ ".json" := fun h => not_hasExtension_hidden (h ▸ hext)
    have hold : name ≠ "old" := by
      rintro rfl
      exact absurd (isDefinitionFile_iff.mpr hext) (by decide)
    show name ∈ [".json", "b.json", "old", "a.json"] ↔ name ∈ ["b.json", "a.json"]
    simp [hhidden, hold]
  read := by
    rintro names hnames name hname hext
    have hlist : names = [".json", "b.json", "old", "a.json"] := (Option.some.inj hnames).symm
    subst hlist
    simp only [List.mem_cons, List.not_mem_nil, or_false] at hname
    rcases hname with rfl | rfl | rfl | rfl
    · exact absurd hext not_hasExtension_hidden
    · rfl
    · exact absurd (isDefinitionFile_iff.mpr hext) (by decide)
    · rfl

/-- The shelf is loaded alike from either end, and without what else stands on it. -/
theorem shelf_loaded :
    Option.Rel List.Perm (shelf.fileSystem.list (definitionFolder "data"))
      ((listedBackwards shelf.fileSystem).list (definitionFolder "data")) ∧
    load shelf.fileSystem none (some "data") =
      load (listedBackwards shelf.fileSystem) none (some "data") ∧
    load shelf.fileSystem none (some "data") = load tidyShelf.fileSystem none (some "data") ∧
    (load shelf.fileSystem none (some "data")).toOption.map (·.map (·.name)) =
      some ["First", "Second"] ∧
    Loads shelf.fileSystem "data" (load shelf.fileSystem none (some "data")) ∧
    HasExtension "a.json" "json" ∧
    shelf.fileSystem.read (entryPath "data" "a.json") =
      some "[\x7b\"name\":\"First\"\x7d]".toUTF8 := by
  obtain ⟨-, hends, hsame, hrelisted, -, -, hentry⟩ := load_folder shelf.fileSystem "data"
  have hperm : Option.Rel List.Perm (shelf.fileSystem.list (definitionFolder "data"))
      ((listedBackwards shelf.fileSystem).list (definitionFolder "data")) :=
    .some (List.reverse_perm _).symm
  have hext : HasExtension "a.json" "json" := ⟨by decide, "a", by decide, by decide⟩
  exact ⟨hperm, hrelisted (listedBackwards shelf.fileSystem) rfl hperm,
    hsame tidyShelf.fileSystem sameDefinitionFiles_tidyShelf, by decide +kernel, (hends _).mp rfl,
    hext, (hentry shelf _ rfl "a.json" hext (by decide) _).mpr rfl⟩

end Audience.Library
