import SliceGuard.Declarations.Signature

/-!
# Symbols

The symbols of a file are the names its package-level declarations introduce, each with the syntax
that gives its type and its value.
-/

namespace SliceGuard.Declarations

open Syntax (Kind Node Site)

/-- What a symbol stands for. -/
inductive SymbolKind where
  | type | method | function | variable | constant
deriving DecidableEq, Repr, Inhabited

def SymbolKind.label : SymbolKind → String
  | .type => "type"
  | .method => "method"
  | .function => "function"
  | .variable => "variable"
  | .constant => "constant"

/-- A parameter of a symbol; functions show the name alone. -/
structure Parameter where
  name : String
  type : Option String
deriving DecidableEq, Repr, Inhabited

/-- The value a symbol is initialized with: its own, or one of the several values of an expression
that initializes several symbols. -/
inductive Initializer where
  | own (value : Site)
  | shared (value : Site) (position : Nat)
deriving Repr, Inhabited

/-- A declared name. -/
structure Symbol where
  name : String
  kind : SymbolKind
  file : String
  line : Nat
  /-- The declared type; of a function or method the result. -/
  type : Option Node := none
  value : Option Initializer := none
  /-- The type a method belongs to, or the empty text. -/
  receiver : String := ""
  parameters : List Parameter := []
  results : List String := []
deriving Repr, Inhabited

/-- The specifications of a declaration of variables or constants, grouped or not. -/
def valueSpecs (declaration : Site) : List Site :=
  let isSpec := fun (site : Site) => site.node.kind == .varSpec || site.node.kind == .constSpec
  declaration.named.flatMap fun child =>
    if isSpec child then [child]
    else if child.node.kind == .varSpecList then child.named.filter isSpec
    else []

def specValues (spec : Site) : List Site :=
  ((spec.child? .value).map Site.named).getD []

/-- The value of the symbol at a position among `count`: a share of the only value if there are
several symbols, or else the value at its position if there are as many values as symbols. -/
def initializer? (values : List Site) (position count : Nat) : Option Initializer :=
  if values.length = 1 ∧ 1 < count then values.head?.map (.shared · position)
  else if values.length = count then (values[position]?).map .own
  else none

/-- The symbols of a specification, one for each child in the role of a name. -/
def specSymbols (file : String) (kind : SymbolKind) (spec : Site) : List Symbol :=
  let names := spec.node.childrenIn .name
  let values := specValues spec
  names.zipIdx.map fun (name, position) =>
    { name := name.text, kind, file, line := spec.node.line
      type := spec.node.child? .type
      value := initializer? values position names.length }

def nameText (declaration : Node) : String :=
  ((declaration.child? .name).map Node.text).getD ""

def functionSymbol (file : String) (node : Node) : Symbol :=
  { name := nameText node, kind := .function, file, line := node.line
    type := node.child? .result
    parameters := (parameterNames (node.child? .parameters)).map fun name => ⟨name, none⟩
    results := resultTypes (node.child? .result) }

/-- The parameters of a method: names with their types, or types alone if any name is missing. -/
def methodParameters (list : Option Node) : List Parameter :=
  let names := parameterNames list
  let types := parameterTypes list
  if names.length = types.length then
    (names.zip types).map fun (name, type) => ⟨name, some type⟩
  else types.map fun type => ⟨"", some type⟩

def methodSymbol (file : String) (node : Node) : Symbol :=
  { name := nameText node, kind := .method, file, line := node.line
    type := node.child? .result
    receiver := (receiverName node).getD ""
    parameters := methodParameters (node.child? .parameters)
    results := resultTypes (node.child? .result) }

def typeSymbols (file : String) (node : Node) : List Symbol :=
  let specs := node.named.filter fun child => child.kind == .typeSpec || child.kind == .typeAlias
  specs.map fun spec =>
    { name := nameText spec, kind := .type, file, line := spec.line, type := spec.child? .type }

/-- The symbols one declaration of a file introduces. -/
def declarationSymbols (file : String) (declaration : Site) : List Symbol :=
  match declaration.node.kind with
  | .functionDeclaration => [functionSymbol file declaration.node]
  | .methodDeclaration => [methodSymbol file declaration.node]
  | .typeDeclaration => typeSymbols file declaration.node
  | .varDeclaration => (valueSpecs declaration).flatMap (specSymbols file .variable)
  | .constDeclaration => (valueSpecs declaration).flatMap (specSymbols file .constant)
  | _ => []

def symbols (file : String) (root : Node) : List Symbol :=
  (Site.root root).named.flatMap (declarationSymbols file)

end SliceGuard.Declarations
