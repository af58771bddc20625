import SliceGuard.Packages.Path

/-!
# File trees

Files and directories as a tree of named entries, and a file system as the tree below the root with
a working directory in it.
-/

namespace SliceGuard.Packages

/-- What comes of reading a file: its bytes, or the reason why it cannot be read. -/
abbrev Contents := Except String ByteArray

/-- A file or a directory with its name. -/
inductive Entry where
  | file (name : String) (contents : Contents)
  | directory (name : String) (entries : List Entry)
deriving Inhabited

namespace Entry

def name : Entry → String
  | file name _ => name
  | directory name _ => name

def isDirectory : Entry → Bool
  | file _ _ => false
  | directory _ _ => true

/-- The entries of a directory; a file has none. -/
def entries : Entry → List Entry
  | file _ _ => []
  | directory _ entries => entries

def child? (entry : Entry) (name : String) : Option Entry :=
  entry.entries.find? (·.name == name)

/-- The entries of a directory other than the one under a name. -/
def others (entry : Entry) (name : String) : List Entry :=
  entry.entries.filter (·.name != name)

/-- Put a new entry where the names lead, with all directories on the way. -/
def put (new : String → Entry) (entry : Entry) : List String → Entry
  | [] => entry
  | [last] => directory entry.name (entry.others last ++ [new last])
  | next :: rest =>
    let below := (entry.child? next).getD (directory next [])
    directory entry.name (entry.others next ++ [put new below rest])

/-- Make sure that the names lead to a directory. -/
def makeDirectory (entry : Entry) : List String → Entry
  | [] => entry
  | next :: rest =>
    let below := (entry.child? next).getD (directory next [])
    directory entry.name (entry.others next ++ [below.makeDirectory rest])

/-- Remove the entry to which the names lead. -/
def remove (entry : Entry) : List String → Entry
  | [] => entry
  | [last] => directory entry.name (entry.others last)
  | next :: rest =>
    match entry.child? next with
    | some below => directory entry.name (entry.others next ++ [below.remove rest])
    | none => entry

/-- Follow names from the entry at the front of a way from the root; two dots lead back. -/
def follow : List Entry → List String → Option (List Entry)
  | way, [] => some way
  | [], _ => none
  | way@(here :: back), name :: rest =>
    if !here.isDirectory then none
    else if name == ".." then follow (if back.isEmpty then way else back) rest
    else
      match here.child? name with
      | some next => follow (next :: way) rest
      | none => none

end Entry

/-- A file system: the root directory, and the names that lead to the working directory. -/
structure FileSystem where
  root : Entry
  working : List String

namespace FileSystem

/-- A file system with nothing but an empty working directory. -/
def empty (working : List String) : FileSystem :=
  { root := (Entry.directory "" []).makeDirectory working, working }

/-- The entry to which a path leads. -/
def get? (system : FileSystem) (path : Path) : Option Entry := do
  let names := if path.isAbsolute then path.names else system.working ++ path.names
  (← Entry.follow [system.root] names).head?

def isDirectory (system : FileSystem) (path : Path) : Bool :=
  (system.get? path).any Entry.isDirectory

/-- The absolute path without dots. -/
def resolve (system : FileSystem) (path : Path) : Path :=
  path.resolve system.working

/-- Write a file, with all directories on the way. -/
def write (system : FileSystem) (path : Path) (contents : Contents) : FileSystem :=
  { system with root := system.root.put (Entry.file · contents) (system.resolve path).names }

def makeDirectory (system : FileSystem) (path : Path) : FileSystem :=
  { system with root := system.root.makeDirectory (system.resolve path).names }

def remove (system : FileSystem) (path : Path) : FileSystem :=
  { system with root := system.root.remove (system.resolve path).names }

end FileSystem

end SliceGuard.Packages
