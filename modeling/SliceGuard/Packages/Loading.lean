import SliceGuard.Check.Package
import SliceGuard.Packages.Pattern

/-!
# Loading packages

A package is loaded from all Go sources of a directory, or from a single file.  It is named after
the first file that is not part of an external test package.
-/

namespace SliceGuard.Packages

open Syntax (Recovery)

/-- A file to read: its path and what comes of reading it. -/
abbrev Source := Path × Contents

/-- The sources to read for a package with the directory they are in. -/
structure Selection where
  directory : Path
  sources : List Source

def isSource (withTests : Bool) (entry : Entry) : Bool :=
  !entry.isDirectory && Path.isSourceName entry.name &&
    (withTests || !Path.isTestName entry.name)

/-- The sources of a directory in the order of their names. -/
def directorySources (withTests : Bool) (path : Path) (entries : List Entry) :
    List Source :=
  let chosen := (entries.filter (isSource withTests)).mergeSort fun first second =>
    decide (first.name ≤ second.name)
  chosen.filterMap fun
    | .file name contents => some (path.child name, contents)
    | .directory _ _ => none

/-- What a path selects: a file by itself, or the sources of a directory. -/
def select (system : FileSystem) (path : Path) (withTests : Bool) :
    Except SourceError Selection :=
  match system.get? path with
  | some (.file _ contents) => .ok ⟨path.parent, [(path, contents)]⟩
  | some (.directory _ entries) => .ok ⟨path, directorySources withTests path entries⟩
  | none => .error (.noSuchPath path.text)

/-- The name of a package by its files. -/
def packageName (directory : Path) (files : List SourceFile) : String :=
  let names := files.map SourceFile.packageName
  match names.find? fun name => name != "" && !"_test".toList.isSuffixOf name.toList with
  | some name => name
  | none =>
    match names.head? with
    | some name => if name == "" then directory.name else name
    | none => directory.name

def readSource [Recovery] (source : Source) : Except SourceError SourceFile :=
  match source.2 with
  | .ok bytes => SourceFile.read source.1.text bytes
  | .error reason => .error (.unreadable source.1.text reason)

def loadPackage [Recovery] (system : FileSystem) (pathText : String) (withTests : Bool) :
    Except SourceError Package := do
  let path := Path.ofText pathText
  let selection ← select system path withTests
  if selection.sources.isEmpty then throw (.noSources path.text)
  let files ← selection.sources.mapM readSource
  return { name := packageName selection.directory files
           directory := selection.directory.text, files }

/-- What the loading of a package tells. -/
def loadEvent (package : Package) : Check.Event :=
  .loaded package.name package.directory package.files.length

end SliceGuard.Packages
