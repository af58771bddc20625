import SliceGuard.Typing.TypeInfo

/-!
# Underlying types

A type is followed through parentheses, instantiations and declared names down to a type that is
written out.  No name is followed twice.
-/

namespace SliceGuard.Typing

open Syntax (Kind Node)
open Declarations (Index)

/-- The types declared by the language itself. -/
def predeclaredTypes : List String :=
  ["any", "bool", "byte", "comparable", "complex64", "complex128", "error", "float32", "float64",
   "int", "int8", "int16", "int32", "int64", "rune", "string", "uint", "uint8", "uint16", "uint32",
   "uint64", "uintptr"]

/-- How a type is taken apart: parentheses are left for their first named child, instantiations
for the generic type. -/
def coreRule : Kind → Option (Node → Bool)
  | .parenthesizedType => some Node.isNamed
  | .genericType => some (Node.plays .type)
  | _ => none

/-- A type without the parentheses and type arguments around its core. -/
def typeCore (type : Node) : Option Node :=
  type.descend coreRule

/-- A core that is no name: what it says by itself. -/
def writtenOut (core : Node) : Knowledge :=
  match core.kind with
  | .sliceType => .ok { typeClass := .slice, element := core.child? .element }
  | .arrayType | .implicitLengthArrayType =>
    .ok { typeClass := .array, element := core.child? .element }
  | .mapType => .ok { typeClass := .map, element := core.child? .value, key := core.child? .key }
  | .qualifiedType => .error .foreignType
  | _ => .ok .plain

/-- Whether a core is the name of a type. -/
def isTypeName (core : Node) : Bool :=
  core.kind == .typeIdentifier || core.kind == .identifier

/-- A name that is not declared in the package. -/
def undeclaredType (name : String) : Knowledge :=
  if predeclaredTypes.contains name then .ok .plain else .error .foreignType

def without (names : List String) (name : String) : List String :=
  names.filter (· != name)

@[simp] theorem mem_without_iff {names : List String} {name other : String} :
    other ∈ without names name ↔ other ∈ names ∧ other ≠ name := by
  simp [without]

theorem length_without_lt {names : List String} {name : String} (mem : name ∈ names) :
    (without names name).length < names.length :=
  List.length_filter_lt_length_iff_exists.2 ⟨name, mem, by simp⟩

/-- The type a declared name stands for, where only the fresh names are followed. -/
def followName (index : Index) (fresh : List String) (name : String) : Knowledge :=
  match index.type? name with
  | none => undeclaredType name
  | some symbol =>
    if name ∈ fresh then
      match symbol.type.bind typeCore with
      | none => .error .untyped
      | some core =>
        if isTypeName core then followName index (without fresh name) core.text
        else writtenOut core
    else .error .cyclicType
termination_by fresh.length
decreasing_by
  exact length_without_lt (by assumption)

def namedType (index : Index) (name : String) : Knowledge :=
  followName index index.typeNames name

def underlying (index : Index) (type : Option Node) : Knowledge :=
  match type.bind typeCore with
  | none => .error .untyped
  | some core => if isTypeName core then namedType index core.text else writtenOut core

end SliceGuard.Typing
