import SliceGuard.Typing.Binding
import SliceGuard.Typing.Underlying

/-!
# Types of expressions

The type of an expression is followed from value to value: a name leads to its declaration, an
index to its operand, a variable to its initializer.  The number of values on the way is limited,
and beyond the limit nothing is known.
-/

namespace SliceGuard.Typing

open Syntax (Kind Node Site)
open Declarations

/-- How the type of a value on the way is found. -/
abbrev Follow := Site → Knowledge

/-- The type of a value that may be missing. -/
def Follow.maybe (follow : Follow) (site : Option Site) : Knowledge :=
  match site with
  | some site => follow site
  | none => .error .untyped

/-- What slicing an operand gives. -/
def sliceOf (operand : TypeInfo) : TypeInfo :=
  if operand.typeClass.isPositional then { typeClass := .slice, element := operand.element }
  else .plain

/-- What indexing a container gives. -/
def elementOf (index : Index) (container : TypeInfo) : Knowledge :=
  if container.typeClass.isContainer then underlying index container.element else .ok .plain

/-- What the target at a position of a range over a container is. -/
def rangeTarget (index : Index) (container : TypeInfo) (position : Nat) : Knowledge :=
  if position = 0 then
    match container.typeClass with
    | .map => underlying index container.key
    | .slice | .array => .ok .plain
    | .other => .error .untyped
  else if container.typeClass.isContainer then underlying index container.element
  else .error .untyped

def callArguments (call : Site) : List Site :=
  (((call.child? .arguments).map Site.named).getD []).filter (·.node.kind != .comment)

/-- The only result of a function of the package. -/
def onlyResult (index : Index) (name : String) : Knowledge :=
  match (index.function? name).map (fun symbol => resultTypeNodes symbol.type) with
  | some [type] => underlying index type
  | _ => .error .untyped

/-- The type of a call of a name with arguments. -/
def namedCallType (index : Index) (follow : Follow) (name : String) (arguments : List Site) :
    Knowledge :=
  match name with
  | "make" => underlying index (arguments.head?.map Site.node)
  | "new" => .ok .plain
  | "append" => follow.maybe arguments.head?
  | "len" | "cap" | "copy" => .ok .plain
  | _ => if (index.type? name).isSome then namedType index name else onlyResult index name

/-- The kinds of types that convert when they are called. -/
def isConversionKind (kind : Kind) : Bool :=
  [.sliceType, .arrayType, .mapType, .parenthesizedType, .genericType].contains kind

def callType (index : Index) (follow : Follow) (call : Site) : Knowledge :=
  match call.node.child? .function with
  | none => .error .untyped
  | some function =>
    if function.kind == .identifier then
      namedCallType index follow function.text (callArguments call)
    else if isConversionKind function.kind then underlying index function
    else .error .untyped

/-- The result at a position of a call that initializes several names. -/
def resultAt (index : Index) (call : Node) (position : Nat) : Knowledge :=
  match call.child? .function with
  | some function =>
    if function.kind == .identifier then
      match index.function? function.text with
      | some symbol =>
        match (resultTypeNodes symbol.type)[position]? with
        | some type => underlying index type
        | none => .error .untyped
      | none => .error .untyped
    else .error .untyped
  | none => .error .untyped

/-- How parentheses around the site of an expression are left.  There are fewer of them than nodes,
so the size of the expression is limit enough. -/
def innerSite (site : Site) : Nat → Option Site
  | 0 => none
  | limit + 1 =>
    if site.node.kind == .parenthesizedExpression then
      match site.named.find? (·.node.kind != .comment) with
      | some inside => innerSite inside limit
      | none => none
    else some site

/-- The type of one of several targets that share a value. -/
def shareType (index : Index) (follow : Follow) (value : Site) (position : Nat) : Knowledge :=
  match innerSite value value.node.size with
  | none => .error .untyped
  | some value =>
    match value.node.kind with
    | .callExpression => resultAt index value.node position
    | .indexExpression | .typeAssertionExpression =>
      match position with
      | 0 => follow value
      | 1 => .ok .plain
      | _ => .error .untyped
    | .unaryExpression => if position = 1 then .ok .plain else .error .untyped
    | _ => .error .untyped

def bindingType (index : Index) (follow : Follow) : Binding → Knowledge
  | .constant => .ok .plain
  | .typed type => underlying index type
  | .variadic element => .ok { typeClass := .slice, element }
  | .initialized (.own value) => follow value
  | .initialized (.shared value position) => shareType index follow value position
  | .ranged container position => do rangeTarget index (← follow.maybe container) position
  | .untold => .error .untyped

/-- The type of an expression, given how the values it leads to are followed. -/
def expressionType (index : Index) (follow : Follow) (site : Site) : Knowledge :=
  match site.node.kind with
  | .identifier =>
    match binding? index site with
    | some binding => bindingType index follow binding
    | none => .error (.undeclared site.node.text)
  | .parenthesizedExpression => follow.maybe (site.named.find? (·.node.kind != .comment))
  | .interpretedStringLiteral | .rawStringLiteral => .ok .plain
  | .compositeLiteral | .typeConversionExpression | .typeAssertionExpression =>
    underlying index (site.node.child? .type)
  | .sliceExpression => do return sliceOf (← follow.maybe (site.child? .operand))
  | .indexExpression => do elementOf index (← follow.maybe (site.child? .operand))
  | .callExpression => callType index follow site
  | _ => .error .untyped

/-- The type of an expression, where at most `steps` values are followed. -/
def typeWithin (index : Index) : Nat → Site → Knowledge
  | 0, _ => .error .tooDeep
  | steps + 1, site => expressionType index (typeWithin index steps) site

/-- The number of values that are followed, the expression itself included. -/
def stepLimit : Nat := 33

def typeOf (index : Index) (site : Site) : Knowledge :=
  typeWithin index stepLimit site

def classOf (index : Index) (site : Site) : Option TypeClass :=
  (typeOf index site).typeClass?

end SliceGuard.Typing
