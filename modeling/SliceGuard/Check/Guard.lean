import SliceGuard.Check.Condition
import SliceGuard.Declarations.Index

/-!
# Guards

An access to a container by name is guarded by a node around it: an if statement that checks the
length of the container, a loop over the container whose key is the index, or a comparison or
exchange method of a sortable type whose parameter is the index.
-/

namespace SliceGuard.Check

open Syntax (Kind Node Site)
open Declarations

/-- The name an access indexes with, if it indexes with a plain name. -/
def indexName? (access : Node) : Option String :=
  if access.kind == .indexExpression then
    match access.child? .index with
    | some index => if index.kind == .identifier then some index.text else none
    | none => none
  else none

def plainName? (node : Node) : Option String :=
  if node.kind == .identifier then some node.text else none

/-- The container a range clause runs over, if it is a plain name. -/
def rangedName? (clause : Node) : Option String :=
  ((clause.child? .right).bind Node.withoutParentheses).bind plainName?

/-- The key of a range clause, if it is a plain name. -/
def rangeKey? (clause : Node) : Option String :=
  ((clause.child? .left).bind fun left => left.named.head?).bind plainName?

/-- A loop over the container whose key is the index of the access. -/
def isRangeOver (loop : Node) (name : String) (access : Node) : Bool :=
  match loop.named.find? (·.kind == .rangeClause) with
  | none => false
  | some clause =>
    rangedName? clause == some name && (indexName? access).isSome &&
      rangeKey? clause == indexName? access

/-- A comparison or exchange method of a sortable type with the index of the access as a
parameter. -/
def isSortMethod (index : Index) (method access : Node) : Bool :=
  ["Less", "Swap"].contains (nameText method) && (receiverName method).any index.isSortable &&
    (indexName? access).any (parameterNames (method.child? .parameters)).contains

/-- Whether a node around an access to a container guards it. -/
def isGuard (index : Index) (name : String) (access node : Node) : Bool :=
  match node.kind with
  | .ifStatement => checksLength (node.child? .condition) name
  | .forStatement => isRangeOver node name access
  | .methodDeclaration => isSortMethod index node access
  | _ => false

def guard? (index : Index) (name : String) (access : Site) : Option Node :=
  access.above.find? (isGuard index name access.node)

def isGuarded (index : Index) (name : String) (access : Site) : Bool :=
  (guard? index name access).isSome

theorem isGuarded_iff {index : Index} {name : String} {access : Site} :
    isGuarded index name access = true ↔
      ∃ node ∈ access.above, isGuard index name access.node node = true := by
  simp [isGuarded, guard?, List.find?_isSome]

end SliceGuard.Check
