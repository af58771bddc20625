import SliceGuard.Typing.TypeInfo

/-!
# Bindings of names

What a scope says of a name, as syntax and without any typing: the scopes around a use are asked
from the inside out, each with the child that holds the use, so that a declaration counts only
where it stands before that child.
-/

namespace SliceGuard.Typing

open Syntax (Kind Node Site)
open Declarations

/-- What a declaration says of a name it binds. -/
inductive Binding where
  | constant
  | typed (type : Option Node)
  /-- Any number of arguments of a type. -/
  | variadic (element : Option Node)
  /-- A value, or a share of one. -/
  | initialized (value : Initializer)
  /-- The target at a position of a range over a value. -/
  | ranged (container : Option Site) (position : Nat)
  /-- A declaration that does not tell the type. -/
  | untold
deriving Repr, Inhabited

/-- The value assigned to the target at a position among `count`: the value at its position if there
are as many values as targets, or else a share of the only value. -/
def assigned? (values : List Site) (position count : Nat) : Option Initializer :=
  if values.length = count then (values[position]?).map .own
  else
    match values with
    | [value] => some (.shared value position)
    | _ => none

/-- The binding to one of the values of a declaration. -/
def Binding.ofValues (values : List Site) (position count : Nat) : Binding :=
  match assigned? values position count with
  | some value => .initialized value
  | none => .untold

/-- The position of the first text that is the name. -/
def positionOf? (name : String) (texts : List String) : Option Nat :=
  texts.findIdx? (· == name)

def shortBinding? (statement : Site) (name : String) : Option Binding := do
  let targets := ((statement.child? .left).map Site.named).getD []
  let values := ((statement.child? .right).map Site.named).getD []
  let position ← targets.findIdx? fun target =>
    target.node.kind == .identifier && target.node.text == name
  return .ofValues values position targets.length

def specBinding? (isConstant : Bool) (name : String) (spec : Site) : Option Binding := do
  let names := declaredNames spec.node
  let position ← positionOf? name names
  if isConstant then return .constant
  match spec.node.child? .type with
  | some type => return .typed type
  | none => return .ofValues (specValues spec) position names.length

/-- What a statement says of a name; of several specifications the last one that binds it
counts. -/
def statementBinding? (statement : Site) (name : String) : Option Binding :=
  match statement.node.kind with
  | .shortVarDeclaration => shortBinding? statement name
  | .varDeclaration => (valueSpecs statement).reverse.findSome? (specBinding? false name)
  | .constDeclaration => (valueSpecs statement).reverse.findSome? (specBinding? true name)
  | _ => none

/-- What the statements before a child say of a name; the last one that binds it counts. -/
def statementsBinding? (scope : Site) (child : Node) (name : String) : Option Binding :=
  (scope.named.reverse.filter fun statement => statement.node.start < child.start).findSome?
    fun statement => statementBinding? statement name

/-- What the initializer of a statement says of a name after it. -/
def initializerBinding? (scope : Site) (child : Node) (name : String) : Option Binding := do
  let first ← scope.child? .initializer
  if first.node.stop ≤ child.start then statementBinding? first name else none

/-- Whether a switch on a type gives the value a name, seen after that name. -/
def isAliasOf (scope : Node) (child : Node) (name : String) : Bool :=
  match scope.child? .caseName with
  | some names => names.stop ≤ child.start && (names.named.map Node.text).contains name
  | none => false

def rangeBinding? (clause : Site) (name : String) : Option Binding := do
  let left ← clause.node.child? .left
  if clause.node.children.any fun token => token.kind == .token && token.text == ":=" then
    let position ← positionOf? name (left.named.map Node.text)
    return .ranged (clause.child? .right) position
  else none

/-- What the clauses of a loop before a child say of a name. -/
def loopBinding? (child : Node) (name : String) : List Site → Option Binding
  | [] => none
  | clause :: rest =>
    if child.start < clause.node.stop then loopBinding? child name rest
    else match clause.node.kind with
      | .rangeClause =>
        match rangeBinding? clause name with
        | some binding => some binding
        | none => loopBinding? child name rest
      | .forClause =>
        match clause.child? .initializer with
        | some first => statementBinding? first name
        | none => loopBinding? child name rest
      | _ => loopBinding? child name rest

def parameterBinding? (name : String) (declaration : Node) : Option Binding :=
  if (declaredNames declaration).contains name then
    if declaration.kind == .variadicParameterDeclaration then
      some (.variadic (declaration.child? .type))
    else some (.typed (declaration.child? .type))
  else none

/-- What the parameters, the receiver and the named results of a function say of a name. -/
def functionBinding? (function : Node) (name : String) : Option Binding :=
  let lists := [.parameters, .receiver, .result].filterMap function.child?
  (lists.filter (·.kind == .parameterList)).findSome? fun list =>
    (parameterDeclarations list).findSome? (parameterBinding? name)

/-- What a scope says of a name used inside one of its children. -/
def scopeBinding? (scope : Site) (child : Node) (name : String) : Option Binding :=
  match scope.node.kind with
  | .block | .statementList | .expressionCase | .defaultCase | .typeCase | .communicationCase =>
    statementsBinding? scope child name
  | .ifStatement | .expressionSwitchStatement | .forClause =>
    initializerBinding? scope child name
  | .typeSwitchStatement =>
    if isAliasOf scope.node child name then some .untold else initializerBinding? scope child name
  | .forStatement => loopBinding? child name scope.named
  | .functionDeclaration | .methodDeclaration | .funcLiteral => functionBinding? scope.node name
  | _ => none

/-- What the scopes around a child say of a name, the innermost first. -/
def climb (name : String) (child : Node) : List Node → Option Binding
  | [] => none
  | scope :: outer =>
    match scopeBinding? ⟨scope, outer⟩ child name with
    | some binding => some binding
    | none => climb name scope outer

/-- What the scopes around a use of a name say of it. -/
def localBinding? (use : Site) : Option Binding :=
  climb use.node.text use.node use.above

def symbolBinding (symbol : Symbol) : Binding :=
  if symbol.kind == .constant then .constant
  else match symbol.type with
    | some type => .typed type
    | none =>
      match symbol.value with
      | some value => .initialized value
      | none => .untold

/-- What is said of a name where it is used: by the scopes around it, or else by the package. -/
def binding? (index : Index) (use : Site) : Option Binding :=
  match localBinding? use with
  | some binding => some binding
  | none => (index.value? use.node.text).map symbolBinding

end SliceGuard.Typing
