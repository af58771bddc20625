/-!
# Paths

A path is a root and the names that lead on from it.  In its text, empty names and single dots
count for nothing; names of two dots are kept, because they may lead out of a directory that is not
there.
-/

namespace SliceGuard.Packages

/-- A path: the text of its root, which is empty for a relative path, and its names. -/
structure Path where
  root : String
  names : List String
deriving DecidableEq, Repr, Inhabited

namespace Path

/-- The pieces of a text between slashes. -/
def pieces : List Char → List (List Char)
  | [] => [[]]
  | '/' :: rest => [] :: pieces rest
  | c :: rest =>
    match pieces rest with
    | [] => [[c]]
    | first :: others => (c :: first) :: others

/-- The root of a text: one or several slashes count as one, exactly two are kept. -/
def rootOf : List Char → String
  | '/' :: '/' :: '/' :: _ => "/"
  | '/' :: '/' :: _ => "//"
  | '/' :: _ => "/"
  | _ => ""

/-- Whether a piece between slashes names something. -/
def isName (piece : List Char) : Bool :=
  !piece.isEmpty && piece != ['.']

def ofText (text : String) : Path :=
  { root := rootOf text.toList
    names := ((pieces text.toList).filter isName).map String.ofList }

def text (path : Path) : String :=
  if path.root == "" && path.names.isEmpty then "."
  else path.root ++ "/".intercalate path.names

/-- The last name, or the empty text. -/
def name (path : Path) : String :=
  path.names.getLast?.getD ""

def parent (path : Path) : Path :=
  { path with names := path.names.dropLast }

def child (path : Path) (name : String) : Path :=
  { path with names := path.names ++ [name] }

@[simp] theorem parent_child (path : Path) (name : String) : (path.child name).parent = path := by
  simp [child, parent]

@[simp] theorem name_child (path : Path) (name : String) : (path.child name).name = name := by
  simp [child, Path.name]

/-- Whether a path starts at the root of all directories. -/
def isAbsolute (path : Path) : Bool :=
  path.root != ""

/-- Names with two dots carried out: each takes away the name before it, if there is one. -/
def normalize (names : List String) : List String :=
  (names.foldl (fun taken name => if name == ".." then taken.drop 1 else name :: taken) []).reverse

/-- The absolute path without dots, where a relative path starts at `working`. -/
def resolve (working : List String) (path : Path) : Path :=
  let names := if path.isAbsolute then path.names else working ++ path.names
  { root := "/", names := normalize names }

/-- Whether a file name has the extension of Go sources after at least one other character. -/
def isSourceName (name : String) : Bool :=
  let chars := name.toList
  ['.', 'g', 'o'].isSuffixOf chars && 3 < chars.length

def isTestName (name : String) : Bool :=
  "_test.go".toList.isSuffixOf name.toList

end Path

end SliceGuard.Packages
