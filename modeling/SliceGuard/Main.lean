import SliceGuard.CommandLine.Run

/-!
# The program

What the patterns of the command line can lead to is read from disk into a file system, and the
run over it is printed.  A source that is rejected is reported as a whole.
-/

namespace SliceGuard.Main

open Packages (Contents FileSystem Path)

/-- Whether a path on disk is there, and whether it is a directory. -/
def isDirectory? (path : Path) : IO (Option Bool) := do
  let place := (← IO.currentDir) / path.text
  if ← place.isDir then return some true
  return if ← place.pathExists then some false else none

def namesIn (path : Path) : IO (List String) := do
  let found ← ((← IO.currentDir) / path.text).readDir
  return found.toList.map (·.fileName)

/-- The reason why the system refuses an operation. -/
def reason : IO.Error → String
  | .permissionDenied _ _ details | .noFileOrDirectory _ _ details
  | .inappropriateType _ _ details | .resourceBusy _ details | .resourceExhausted _ _ details
  | .hardwareFault _ details | .invalidArgument _ _ details | .timeExpired _ details => details
  | error => toString error

def contentsOf (path : Path) : IO Contents := do
  try return .ok (← IO.FS.readBinFile ((← IO.currentDir) / path.text))
  catch error => return .error (reason error)

def addFile (system : FileSystem) (path : Path) : IO FileSystem := do
  return system.write path (← contentsOf path)

/-- Add a directory on disk to a file system, with the directories below it if asked for. -/
partial def addDirectory (deep : Bool) (system : FileSystem) (path : Path) : IO FileSystem := do
  let mut system := system.makeDirectory path
  for name in ← namesIn path do
    let below := path.child name
    match ← isDirectory? below with
    | some true =>
      if deep && !Packages.isPassedOver name then system ← addDirectory deep system below
    | some false =>
      if ['.', 'g', 'o'].isSuffixOf name.toList then system ← addFile system below
    | none => pure ()
  return system

/-- Add the directories on the way to a path, which two dots may lead back from. -/
def addWay (system : FileSystem) (path : Path) : IO FileSystem := do
  let mut system := system
  for count in List.range path.names.length do
    let way := { path with names := path.names.take (count + 1) }
    if (← isDirectory? way) == some true then system := system.makeDirectory way
  return system

def addPattern (system : FileSystem) (pattern : String) : IO FileSystem := do
  let base := Packages.patternBase pattern
  let path := Path.ofText (base.getD pattern)
  let system ← addWay system path
  match ← isDirectory? path with
  | some true => addDirectory base.isSome system path
  | some false => addFile system path
  | none => return system

/-- The part of the disk that a command line can lead to. -/
def snapshot (arguments : List String) : IO FileSystem := do
  let working := (Path.ofText (← IO.currentDir).toString).names
  match CommandLine.invocation arguments with
  | .run options => options.patterns.foldlM addPattern (FileSystem.empty working)
  | .help | .invalid _ => return FileSystem.empty working

end SliceGuard.Main

/-- Check the packages that the arguments name. -/
def main (arguments : List String) : IO UInt32 := do
  let system ← SliceGuard.Main.snapshot arguments
  let outcome := @SliceGuard.CommandLine.run .whole system arguments
  (← IO.getStdout).putStr outcome.output
  (← IO.getStderr).putStr outcome.errors
  return outcome.exit.toUInt32
