import SliceGuard.Declarations.Index

/-!
# What is known of a type

An expression is a slice, an array, a map or something else, and of the first three the types of
elements and keys are known as syntax.  An expression of which nothing is known has a cause for
that.
-/

namespace SliceGuard.Typing

open Syntax (Node)

/-- The classes of types that matter for accesses. -/
inductive TypeClass where
  | slice | array | map | other
deriving DecidableEq, Repr, Inhabited

namespace TypeClass

def label : TypeClass → String
  | slice => "slice"
  | array => "array"
  | map => "map"
  | other => "other"

/-- Slices and arrays are accessed by position. -/
def isPositional : TypeClass → Bool
  | slice | array => true
  | map | other => false

/-- Slices, arrays and maps hold elements. -/
def isContainer : TypeClass → Bool
  | slice | array | map => true
  | other => false

end TypeClass

/-- The class of a type with the types of its elements and keys. -/
structure TypeInfo where
  typeClass : TypeClass
  element : Option Node := none
  key : Option Node := none
deriving Repr, Inhabited

/-- A type that holds no elements. -/
def TypeInfo.plain : TypeInfo :=
  { typeClass := .other }

/-- Why nothing is known of a type. -/
inductive Unknown where
  | undeclared (name : String)
  /-- A type declared in another package, or nowhere. -/
  | foreignType
  /-- A type that is declared as itself. -/
  | cyclicType
  /-- A chain of values longer than the limit. -/
  | tooDeep
  /-- An expression or a declaration that does not tell its type. -/
  | untyped
deriving DecidableEq, Repr, Inhabited

/-- What is known of a type, or why nothing is. -/
abbrev Knowledge := Except Unknown TypeInfo

def Knowledge.typeClass? (knowledge : Knowledge) : Option TypeClass :=
  match knowledge with
  | .ok info => some info.typeClass
  | .error _ => none

end SliceGuard.Typing
