import SliceGuard.CommandLine.Options
import SliceGuard.Packages.Loading
import SliceGuard.Text.Json

/-!
# Running the command line

The patterns are expanded, every package they lead to is loaded and checked, and the diagnostics are
printed as lines or as JSON.  A failure keeps back all diagnostics.
-/

namespace SliceGuard.CommandLine

open Check (Event)
open Packages (FileSystem)
open Syntax (Recovery)
open Text (Json)

/-- What a run leaves behind. -/
structure Outcome where
  exit : Nat
  output : String := ""
  errors : String := ""
deriving DecidableEq, Repr, Inhabited

/-- Lines, each of them ended. -/
def lines (texts : List String) : String :=
  String.join (texts.map (· ++ "\n"))

def usage : String :=
  "usage: " ++ Check.analyzerName ++ " [-h] [-json] [-test BOOL] [-v] PATTERN [PATTERN ...]"

def help : String :=
  lines [
    usage,
    "",
    Check.analyzerName ++ ": " ++ Check.analyzerDoc,
    "",
    "positional arguments:",
    "  PATTERN               Go package directories, files, or dir/... patterns",
    "",
    "options:",
    "  -h, --help            show this help message and exit",
    "  -json, --json         emit JSON output",
    "  -test BOOL, --test BOOL",
    "                        indicates whether test files should be analyzed, too",
    "                        (default true)",
    "  -v, --verbose         log excluded and guarded accesses"]

/-- The packages that were loaded, up to the first path that cannot be loaded. -/
structure Survey where
  packages : List Package
  failure : Option SourceError

/-- Load the packages at paths in order. -/
def survey [Recovery] (system : FileSystem) (withTests : Bool) : List String → Survey
  | [] => ⟨[], none⟩
  | path :: rest =>
    match Packages.loadPackage system path withTests with
    | .error error => ⟨[], some error⟩
    | .ok package =>
      let later := survey system withTests rest
      ⟨package :: later.packages, later.failure⟩

/-- Diagnostics by the directory of their package. -/
abbrev Findings := List (String × List Diagnostic)

namespace Findings

/-- Record the diagnostics of a directory.  They take the place of earlier ones. -/
def record (findings : Findings) (directory : String) (found : List Diagnostic) : Findings :=
  if findings.any (·.1 == directory) then
    findings.map fun entry => if entry.1 == directory then (directory, found) else entry
  else findings ++ [(directory, found)]

/-- The findings of packages that are checked in order. -/
def ofPackages (packages : List Package) : Findings :=
  packages.foldl
    (fun findings package => findings.record package.directory (Check.diagnostics package)) []

def diagnostics (findings : Findings) : List Diagnostic :=
  findings.flatMap Prod.snd

def diagnosticJson (diagnostic : Diagnostic) : Json :=
  .object [("posn", .string diagnostic.position), ("message", .string Diagnostic.message)]

/-- The findings as a value, without directories in which nothing was found. -/
def json (findings : Findings) : Json :=
  .object <| (findings.filter fun entry => !entry.2.isEmpty).map fun (directory, found) =>
    (directory, .object [(Check.analyzerName, .array (found.map diagnosticJson))])

end Findings

def diagnosticLine (diagnostic : Diagnostic) : String :=
  diagnostic.position ++ ": " ++ Diagnostic.message

/-- What the loading and the check of packages tell. -/
def surveyEvents (packages : List Package) : List Event :=
  packages.flatMap fun package => Packages.loadEvent package :: Check.events package

/-- The lines for events, if they are to be told. -/
def eventLines (options : Options) (events : List Event) : List String :=
  if options.verbose then events.map Event.line else []

/-- The outcome of a failure after some lines. -/
def failed (told : List String) (error : SourceError) : Outcome :=
  { exit := 1, errors := lines (told ++ [Check.analyzerName ++ ": " ++ error.message]) }

/-- The outcome when all packages could be loaded. -/
def reported (options : Options) (told : List String) (findings : Findings) : Outcome :=
  if options.json then
    { exit := 0, output := lines [findings.json.text], errors := lines told }
  else
    let found := findings.diagnostics
    { exit := if found.isEmpty then 0 else 3
      errors := lines (told ++ found.map diagnosticLine ++
        eventLines options [.reported found.length]) }

/-- Check what the patterns stand for. -/
def check [Recovery] (system : FileSystem) (options : Options) : Outcome :=
  match Packages.expandPatterns system options.patterns with
  | .error error => failed [] error
  | .ok paths =>
    let survey := survey system options.tests paths
    let told := eventLines options (surveyEvents survey.packages)
    match survey.failure with
    | some error => failed told error
    | none => reported options told (Findings.ofPackages survey.packages)

def run [Recovery] (system : FileSystem) (arguments : List String) : Outcome :=
  match invocation arguments with
  | .help => { exit := 0, output := help }
  | .invalid error =>
    { exit := 2, errors := lines [usage, Check.analyzerName ++ ": error: " ++ error.message] }
  | .run options => check system options

end SliceGuard.CommandLine
