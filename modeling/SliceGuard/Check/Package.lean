import SliceGuard.Check.Access

/-!
# Checking packages

The unguarded accesses of a package are reported as diagnostics, file by file and in source order,
and what was found on the way can be told as a sequence of events.
-/

namespace SliceGuard

open Syntax (Node Site)
open Declarations (Index)
open Typing (Knowledge Unknown TypeClass)

/-- The files of one package, read from one directory. -/
structure Package where
  name : String
  directory : String
  files : List SourceFile
deriving Repr, Inhabited

/-- A report about a place in a source file. -/
structure Diagnostic where
  file : String
  line : Nat
  column : Nat
deriving DecidableEq, Repr, Inhabited

namespace Diagnostic

def severity : String := "WARNING"

def code : String := "GOBOUNDCHECK"

def message : String :=
  "Slice or array access is not enclosed in an if-statement that validates capacity!"

def position (diagnostic : Diagnostic) : String :=
  s!"{diagnostic.file}:{diagnostic.line}:{diagnostic.column}"

end Diagnostic

namespace Check

def analyzerName : String := "goboundcheck"

def analyzerDoc : String :=
  "Checks that slice and array access is not out of bounds."

/-- Something found on the way, in the order in which it is found. -/
inductive Event where
  | loaded (package directory : String) (files : Nat)
  | undeclared (name : String)
  | excluded (name : String) (line : Nat) (typeClass : Option TypeClass)
  | guarded (name : String) (line : Nat) (guard : String) (guardLine : Nat)
  | checked (package : String) (files diagnostics : Nat)
  | reported (diagnostics : Nat)
deriving DecidableEq, Repr, Inhabited

/-- The line that tells an event. -/
def Event.line : Event → String
  | loaded package directory files =>
    s!"DEBUG parser.package_loader: Loaded package {package} from {directory} ({files} file(s))"
  | undeclared name => s!"DEBUG analyzer.type_checker: No declaration found for {name}"
  | excluded name line typeClass =>
    let found := (typeClass.map TypeClass.label).getD "unknown type"
    s!"DEBUG analyzer.guards: Skipping {name} at line {line}: {found}"
  | guarded name line guard guardLine =>
    s!"DEBUG analyzer.guards: Access to {name} at line {line} " ++
      s!"guarded by {guard} at line {guardLine}"
  | checked package files diagnostics =>
    s!"INFO analyzer.bounds_checker: Checked package {package}: " ++
      s!"{files} file(s), {diagnostics} diagnostic(s)"
  | reported diagnostics => s!"DEBUG goboundcheck: {diagnostics} diagnostic(s) reported"

/-- The name without a declaration that an unknown type goes back to. -/
def undeclaredName? (knowledge : Knowledge) : Option String :=
  match knowledge with
  | .error (.undeclared name) => some name
  | _ => none

/-- What the verdict on an access tells. -/
def verdictEvents (access : Node) : Verdict → List Event
  | .unnamed | .unguarded _ => []
  | .excluded name knowledge =>
    ((undeclaredName? knowledge).map Event.undeclared).toList ++
      [.excluded name access.line knowledge.typeClass?]
  | .guarded name guard => [.guarded name access.line guard.kind.label guard.line]

def fileDiagnostics (index : Index) (file : SourceFile) : List Diagnostic :=
  ((verdicts index file.root).filter (·.2.isReported)).map fun (access, _) =>
    { file := file.path, line := access.node.line, column := access.node.column }

def diagnosticsWith (index : Index) (package : Package) : List Diagnostic :=
  package.files.flatMap (fileDiagnostics index)

def diagnostics (package : Package) : List Diagnostic :=
  diagnosticsWith (Index.ofFiles package.files) package

/-- What the check of a package tells. -/
def events (package : Package) : List Event :=
  let index := Index.ofFiles package.files
  let found := package.files.flatMap fun file =>
    (verdicts index file.root).flatMap fun (access, verdict) => verdictEvents access.node verdict
  found ++ [.checked package.name package.files.length (diagnostics package).length]

end Check

end SliceGuard
