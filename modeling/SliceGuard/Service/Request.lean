import SliceGuard.Text.Json

/-!
# Requests

What clients of the service send: a method, an address and perhaps a body.  The body of a request is
read into the record its endpoint expects, and a body that does not fit is answered with all of its
faults in the order of the fields.
-/

namespace SliceGuard.Service

open Text (Json)

/-- What a client wants to do at an address. -/
inductive Method where
  | get | post | other
deriving DecidableEq, Repr, Inhabited

structure Request where
  method : Method
  address : String
  body : Option Json := none

/-- One step of the way to a part of a request. -/
inductive Step where
  | field (name : String)
  | item (index : Nat)
deriving DecidableEq, Repr, Inhabited

/-- What may be wrong with a part of a body. -/
inductive FaultKind where
  | missing
  | notText
  | notList
  | notObject
  | notTruth
  /-- A word or a number, but not one for a truth value. -/
  | otherTruth
deriving DecidableEq, Repr, Inhabited

def FaultKind.label : FaultKind → String
  | missing => "missing"
  | notText => "string_type"
  | notList => "list_type"
  | notObject => "model_attributes_type"
  | notTruth => "bool_type"
  | otherTruth => "bool_parsing"

/-- A fault with the way to it. -/
structure Fault where
  kind : FaultKind
  place : List Step
deriving DecidableEq, Repr, Inhabited

/-- A value, or the faults that prevent it. -/
abbrev Checked (α : Type) := Except (List Fault) α

/-- A reader of the value at a place. -/
abbrev Decoder (α : Type) := List Step → Json → Checked α

variable {α β : Type}

def fault (kind : FaultKind) (place : List Step) : Checked α :=
  .error [⟨kind, place⟩]

/-- Two values, or the faults of both. -/
def both (first : Checked α) (second : Checked β) : Checked (α × β) :=
  match first, second with
  | .ok left, .ok right => .ok (left, right)
  | .error faults, .error others => .error (faults ++ others)
  | .error faults, .ok _ => .error faults
  | .ok _, .error faults => .error faults

def text : Decoder String
  | _, .string value => .ok value
  | place, _ => fault .notText place

/-- The truth value of a word, in capitals or not. -/
def truthOfWord? (word : String) : Option Bool :=
  let word := String.ofList (Text.lowered word.toList)
  if ["0", "off", "f", "false", "n", "no"].contains word then some false
  else if ["1", "on", "t", "true", "y", "yes"].contains word then some true
  else none

/-- The truth value of a whole number. -/
def truthOfWhole? (value : Int) : Option Bool :=
  if value = 0 then some false else if value = 1 then some true else none

/-- Read a truth value, which may also be written as a word or as a whole number. -/
def truth : Decoder Bool
  | _, .bool value => .ok value
  | place, .string word =>
    match truthOfWord? word with
    | some value => .ok value
    | none => fault .otherTruth place
  | place, .number mantissa places =>
    match Json.whole? mantissa places with
    | none => fault .notTruth place
    | some whole =>
      match truthOfWhole? whole with
      | some value => .ok value
      | none => fault .otherTruth place
  | place, _ => fault .notTruth place

/-- Read the items of a list from an index on. -/
def itemsFrom (decode : Decoder α) (place : List Step) : Nat → List Json → Checked (List α)
  | _, [] => .ok []
  | index, item :: rest =>
    (both (decode (place ++ [.item index]) item) (itemsFrom decode place (index + 1) rest)).map
      fun (first, others) => first :: others

def list (decode : Decoder α) : Decoder (List α)
  | place, .array items => itemsFrom decode place 0 items
  | place, _ => fault .notList place

def required (decode : Decoder α) (name : String) : Decoder α := fun place object =>
  match object.field? name with
  | some value => decode (place ++ [.field name]) value
  | none => fault .missing (place ++ [.field name])

def optional (decode : Decoder α) (name : String) (otherwise : α) : Decoder α :=
  fun place object =>
    match object.field? name with
    | some value => decode (place ++ [.field name]) value
    | none => .ok otherwise

def nullable (decode : Decoder α) (otherwise : α) : Decoder α
  | _, .null => .ok otherwise
  | place, value => decode place value

def object (decode : Decoder α) : Decoder α
  | place, .object fields => decode place (.object fields)
  | place, _ => fault .notObject place

/-- The unsaved text of a file in an editor. -/
structure Buffer where
  content : String
  path : String
deriving DecidableEq, Repr, Inhabited

namespace Buffer

def fields : Decoder Buffer := fun place value =>
  (both (required text "content" place value) (required text "file_path" place value)).map
    fun (content, path) => { content, path }

def decode : Decoder Buffer :=
  object fields

end Buffer

/-- A buffer to analyze, with the other buffers that are open. -/
structure BufferRequest where
  current : Buffer
  others : List Buffer
deriving DecidableEq, Repr, Inhabited

def BufferRequest.decode : Decoder BufferRequest :=
  object fun place value =>
    let others := optional (nullable (list Buffer.decode) []) "open_buffers" []
    (both (Buffer.fields place value) (others place value)).map
      fun (current, others) => { current, others }

/-- A package on disk to analyze. -/
structure PackageRequest where
  path : String
  withTests : Bool
deriving DecidableEq, Repr, Inhabited

def PackageRequest.decode : Decoder PackageRequest :=
  object fun place value =>
    (both (required text "repo_path" place value)
      (optional truth "include_tests" true place value)).map
      fun (path, withTests) => { path, withTests }

/-- Read the body of a request; null counts as no body. -/
def Request.read (decode : Decoder α) (request : Request) : Checked α :=
  match request.body with
  | none | some .null => fault .missing [.field "body"]
  | some value => decode [.field "body"] value

end SliceGuard.Service
