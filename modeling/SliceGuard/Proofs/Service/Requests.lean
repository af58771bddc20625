import SliceGuard.Service.Reply

/-!
# Requests and what is returned

The body that a client makes for a request reads back as that request, so each endpoint replies to
what was asked.  The diagnostics that are returned are those of the analysis, in their order.
-/

namespace SliceGuard.Service

open Packages (FileSystem)
open Syntax (Recovery)
open Text (Json)

/-- A request to analyze buffers. -/
structure Request.Asks (request : Request) (asked : BufferRequest) : Prop where
  posts : request.method = .post
  analyzes : Endpoint.ofAddress? request.address = some .analyze
  wellFormed : request.read BufferRequest.decode = .ok asked

theorem respond_of_asks [Recovery] (system : FileSystem) {request : Request} {asked : BufferRequest}
    (asks : request.Asks asked) : respond system request = asked.reply := by
  have method : (request.method != Endpoint.analyze.method) = false := by
    rw [asks.posts]
    rfl
  simp [respond, asks.analyzes, method, replyTo, asks.wellFormed]

/-- The items of a list are read one by one. -/
theorem itemsFrom_map {α : Type} {decode : Decoder α} {encode : α → Json}
    (reads : ∀ place value, decode place (encode value) = .ok value) (place : List Step)
    (index : Nat) (values : List α) :
    itemsFrom decode place index (values.map encode) = .ok values := by
  induction values generalizing index with
  | nil => rfl
  | cons value values ih =>
    rw [List.map_cons, itemsFrom, reads, ih]
    rfl

namespace Buffer

def json (buffer : Buffer) : Json :=
  .object [("content", .string buffer.content), ("file_path", .string buffer.path)]

theorem decode_json (place : List Step) (buffer : Buffer) : decode place buffer.json = .ok buffer :=
  rfl

end Buffer

namespace BufferRequest

def json (request : BufferRequest) : Json :=
  .object [("content", .string request.current.content),
    ("file_path", .string request.current.path),
    ("open_buffers", .array (request.others.map Buffer.json))]

/-- The request of a client that has buffers open. -/
def posted (request : BufferRequest) : Request where
  method := .post
  address := "/analyze"
  body := some request.json

theorem decode_json (place : List Step) (request : BufferRequest) :
    decode place request.json = .ok request := by
  have others : list Buffer.decode (place ++ [.field "open_buffers"])
      (.array (request.others.map Buffer.json)) = .ok request.others :=
    itemsFrom_map Buffer.decode_json _ 0 request.others
  change (both (.ok request.current) (list Buffer.decode (place ++ [.field "open_buffers"])
    (.array (request.others.map Buffer.json)))).map _ = _
  rw [others]
  rfl

theorem asks_posted (request : BufferRequest) : request.posted.Asks request where
  posts := rfl
  analyzes := (by decide +kernel : Endpoint.ofAddress? "/analyze" = some .analyze)
  wellFormed := decode_json _ request

theorem respond_posted [Recovery] (system : FileSystem) (request : BufferRequest) :
    respond system request.posted = request.reply :=
  respond_of_asks system request.asks_posted

end BufferRequest

namespace PackageRequest

def json (request : PackageRequest) : Json :=
  .object [("repo_path", .string request.path), ("include_tests", .bool request.withTests)]

/-- The request of a client that names a package on disk. -/
def posted (request : PackageRequest) : Request where
  method := .post
  address := "/analyze/package"
  body := some request.json

theorem respond_posted [Recovery] (system : FileSystem) (request : PackageRequest) :
    respond system request.posted = request.reply system := by
  have address : Endpoint.ofAddress? "/analyze/package" = some .analyzePackage := by decide +kernel
  have read : request.posted.read decode = .ok request := rfl
  have reply : replyTo decode (reply system) request.posted = request.reply system := by
    rw [replyTo, read]
  rw [respond, show request.posted.address = "/analyze/package" from rfl, address]
  exact reply

end PackageRequest

/-- The diagnostics of a reply. -/
def Reply.diagnostics? : Reply → Option (List Json)
  | .done body =>
    match body.field? "diagnostics" with
    | some (.array diagnostics) => some diagnostics
    | _ => none
  | _ => none

/-- Whether a returned diagnostic is about a file. -/
def isAbout (path : String) (diagnostic : Json) : Bool :=
  match diagnostic.field? "file" with
  | some (.string file) => file == path
  | _ => false

theorem filter_isAbout (path : String) (diagnostics : List Diagnostic) :
    (diagnostics.map diagnosticJson).filter (isAbout path) =
      (diagnostics.filter (·.file == path)).map diagnosticJson :=
  List.filter_map

end SliceGuard.Service
