import SliceGuard.Packages.Loading
import SliceGuard.Service.Request

/-!
# Replies

The endpoints of the service and what they reply: the description of the analyzer, the diagnostics
of an unsaved buffer, and the diagnostics of a package on disk.
-/

namespace SliceGuard.Service

open Packages (FileSystem Path)
open Syntax (Recovery)
open Text (Json)

inductive Reply where
  | done (body : Json)
  | refused (detail : String)
  | notFound
  | methodNotAllowed
  | invalid (faults : List Fault)

/-- The value of a step. -/
def Step.json : Step → Json
  | field name => .string name
  | item index => .nat index

/-- The value of a fault: its kind and the way to it. -/
def Fault.json (fault : Fault) : Json :=
  .array [.string fault.kind.label, .array (fault.place.map Step.json)]

namespace Reply

def status : Reply → Nat
  | done _ => 200
  | refused _ => 400
  | notFound => 404
  | methodNotAllowed => 405
  | invalid _ => 422

def detail (text : String) : Json :=
  .object [("detail", .string text)]

def body : Reply → Json
  | done body => body
  | refused text => detail text
  | notFound => detail "Not Found"
  | methodNotAllowed => detail "Method Not Allowed"
  | invalid faults => .array (faults.map Fault.json)

end Reply

def diagnosticJson (diagnostic : Diagnostic) : Json :=
  .object [
    ("file", .string diagnostic.file),
    ("line", .nat diagnostic.line),
    ("column", .nat diagnostic.column),
    ("severity", .string Diagnostic.severity),
    ("message", .string Diagnostic.message),
    ("code", .string Diagnostic.code)]

def diagnosticsJson (diagnostics : List Diagnostic) : Json :=
  .array (diagnostics.map diagnosticJson)

/-- Where the service and its parts are found. -/
def home : Json :=
  .object [
    ("name", .string (Check.analyzerName ++ " Analysis Server")),
    ("docs", .string "/docs"),
    ("health", .string "/health")]

/-- The state of the service. -/
def health : Json :=
  .object [("status", .string "ok")]

/-- What the analyzer looks for. -/
def rules : Json :=
  .object [("rules", .array [.object [
    ("name", .string Check.analyzerName),
    ("doc", .string Check.analyzerDoc),
    ("code", .string Diagnostic.code),
    ("message", .string Diagnostic.message)]])]

def Buffer.read [Recovery] (buffer : Buffer) : Except SourceError SourceFile :=
  SourceFile.read buffer.path buffer.content.toUTF8

namespace BufferRequest

/-- The package of the current buffer: its source, and those of the other open buffers of the same
package.  An older copy of the current file counts for nothing. -/
def package [Recovery] (request : BufferRequest) : Except SourceError Package := do
  let current ← request.current.read
  let others ← (request.others.filter (·.path != request.current.path)).mapM Buffer.read
  let related := others.filter (·.packageName == current.packageName)
  return { name := current.packageName
           directory := (Path.ofText request.current.path).parent.text
           files := current :: related }

def diagnostics [Recovery] (request : BufferRequest) : Except SourceError (List Diagnostic) := do
  let package ← request.package
  return (Check.diagnostics package).filter (·.file == request.current.path)

def reply [Recovery] (request : BufferRequest) : Reply :=
  match request.diagnostics with
  | .error error => .refused error.message
  | .ok diagnostics =>
    .done (.object [("diagnostics", diagnosticsJson diagnostics),
      ("file", .string request.current.path)])

end BufferRequest

def PackageRequest.reply [Recovery] (system : FileSystem) (request : PackageRequest) : Reply :=
  let path := system.resolve (Path.ofText request.path)
  if !system.isDirectory path then .refused ("Invalid repo_path: " ++ Text.quoted path.text)
  else
    match Packages.loadPackage system path.text request.withTests with
    | .error error => .refused error.message
    | .ok package =>
      .done (.object [("diagnostics", diagnosticsJson (Check.diagnostics package)),
        ("package", .string package.name),
        ("files", .array (package.files.map fun file => .string file.path))])

inductive Endpoint where
  | home | health | rules | analyze | analyzePackage
deriving DecidableEq, Repr, Inhabited

namespace Endpoint

def paths : List (String × Endpoint) :=
  [("/", home), ("/health", health), ("/rules", rules), ("/analyze", analyze),
   ("/analyze/package", analyzePackage)]

def method : Endpoint → Method
  | home | health | rules => .get
  | analyze | analyzePackage => .post

/-- The path of an address, which ends before a query or a fragment. -/
def pathOf (address : List Char) : List Char :=
  '/' :: (address.takeWhile fun c => c != '?' && c != '#').dropWhile (· == '/')

/-- A path without the slashes at its end. -/
def withoutSlashes (path : List Char) : List Char :=
  (path.reverse.dropWhile (· == '/')).reverse

def ofPath? (path : List Char) : Option Endpoint :=
  (paths.find? (·.1.toList == path)).map Prod.snd

/-- The endpoint at an address; slashes at the end of a path may be left out. -/
def ofAddress? (address : String) : Option Endpoint :=
  let path := pathOf address.toList
  match ofPath? path with
  | some endpoint => some endpoint
  | none => ofPath? (withoutSlashes path)

end Endpoint

/-- Reply to a request by its body. -/
def replyTo {α : Type} (decode : Decoder α) (reply : α → Reply) (request : Request) : Reply :=
  match request.read decode with
  | .error faults => .invalid faults
  | .ok value => reply value

def respond [Recovery] (system : FileSystem) (request : Request) : Reply :=
  match Endpoint.ofAddress? request.address with
  | none => .notFound
  | some endpoint =>
    if request.method != endpoint.method then .methodNotAllowed
    else
      match endpoint with
      | .home => .done home
      | .health => .done health
      | .rules => .done rules
      | .analyze => replyTo BufferRequest.decode BufferRequest.reply request
      | .analyzePackage => replyTo PackageRequest.decode (PackageRequest.reply system) request

end SliceGuard.Service
