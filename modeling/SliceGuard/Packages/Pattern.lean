import SliceGuard.Packages.FileTree
import SliceGuard.Syntax.Source

/-!
# Patterns

A pattern is a path, or a directory followed by three dots that stands for every directory below
it with Go sources.  Directories that hold no packages by their name are passed over.
-/

namespace SliceGuard.Packages

/-- The directory a recursive pattern starts at, or none for a plain path. -/
def patternBase (pattern : String) : Option String :=
  let chars := pattern.toList
  if pattern == "..." || ['/', '.', '.', '.'].isSuffixOf chars then
    let base := ((chars.take (chars.length - 3)).reverse.dropWhile (· == '/')).reverse
    if !base.isEmpty then some (String.ofList base)
    else if chars.head? == some '/' then some "/"
    else some "."
  else none

/-- Whether a directory is passed over by its name. -/
def isPassedOver (name : String) : Bool :=
  ["testdata", "vendor", "node_modules", ".git"].contains name ||
    name.toList.head? == some '.' || name.toList.head? == some '_'

/-- The text of the path one name further, as it is written and not made simpler. -/
def joined (path name : String) : String :=
  if path.toList.getLast? == some '/' then path ++ name else path ++ "/" ++ name

/-- Whether a directory holds a file whose name ends like that of a Go source. -/
def holdsSources (entries : List Entry) : Bool :=
  entries.any fun entry => !entry.isDirectory && ['.', 'g', 'o'].isSuffixOf entry.name.toList

/-- Lists under names, in the order of the names. -/
def inNameOrder {α : Type} (named : List (String × List α)) : List α :=
  (named.mergeSort fun first second => decide (first.1 ≤ second.1)).flatMap Prod.snd

namespace Entry

mutual

/-- The directories with Go sources from an entry on, each before those below it. -/
def sourceDirectories (path : String) : Entry → List String
  | file _ _ => []
  | directory _ entries =>
    (if holdsSources entries then [path] else []) ++
      inNameOrder (directoriesBelow path entries)

/-- The directories with Go sources below a path, under the names of the directories that lead
there. -/
def directoriesBelow (path : String) : List Entry → List (String × List String)
  | [] => []
  | entry :: rest =>
    if entry.isDirectory && !isPassedOver entry.name then
      (entry.name, entry.sourceDirectories (joined path entry.name)) :: directoriesBelow path rest
    else directoriesBelow path rest

end

end Entry

/-- The paths a pattern stands for. -/
def expandPattern (system : FileSystem) (pattern : String) : Except SourceError (List String) :=
  match patternBase pattern with
  | none => .ok [pattern]
  | some base =>
    match system.get? (Path.ofText base) with
    | some (.directory name entries) =>
      .ok ((Entry.directory name entries).sourceDirectories base)
    | _ => .error (.noSuchDirectory base)

def expandPatterns (system : FileSystem) (patterns : List String) :
    Except SourceError (List String) := do
  return (← patterns.mapM (expandPattern system)).flatten

end SliceGuard.Packages
