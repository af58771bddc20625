import SliceGuard.Syntax.Node

/-!
# Flattened signatures

Parameters and results may be grouped in the source.  Flattened, there is one entry for every name
of a group, and one for a group without names.
-/

namespace SliceGuard.Declarations

open Syntax (Kind Node)

/-- Whether a child of a parameter list declares parameters. -/
def isParameter (kind : Kind) : Bool :=
  kind == .parameterDeclaration || kind == .variadicParameterDeclaration

def parameterDeclarations (list : Node) : List Node :=
  list.named.filter fun child => isParameter child.kind

def declaredNames (declaration : Node) : List String :=
  (declaration.childrenIn .name).map Node.text

/-- A group counts once for every name, and once if it has none. -/
def groupSize (declaration : Node) : Nat :=
  let count := (declaration.childrenIn .name).length
  if count = 0 then 1 else count

/-- The text of the type of a declaration; any number of arguments is marked by dots. -/
def typeText (declaration : Node) : String :=
  let text := ((declaration.child? .type).map Node.text).getD ""
  if declaration.kind == .variadicParameterDeclaration then "..." ++ text else text

def parameterNames (list : Option Node) : List String :=
  (list.map parameterDeclarations |>.getD []).flatMap declaredNames

/-- The type texts of a parameter list, flattened. -/
def parameterTypes (list : Option Node) : List String :=
  (list.map parameterDeclarations |>.getD []).flatMap fun declaration =>
    List.replicate (groupSize declaration) (typeText declaration)

/-- The type texts of a result, flattened. -/
def resultTypes (result : Option Node) : List String :=
  match result with
  | none => []
  | some node => if node.kind == .parameterList then parameterTypes node else [node.text]

/-- The types of a result, flattened; declarations of any number of arguments give none. -/
def resultTypeNodes (result : Option Node) : List (Option Node) :=
  match result with
  | none => []
  | some node =>
    if node.kind == .parameterList then
      (node.named.filter (·.kind == .parameterDeclaration)).flatMap fun declaration =>
        List.replicate (groupSize declaration) (declaration.child? .type)
    else [some node]

/-- How a receiver type is taken apart: pointers and parentheses are left for their first named
child, instantiations for the generic type. -/
def receiverRule : Kind → Option (Node → Bool)
  | .pointerType | .parenthesizedType => some Node.isNamed
  | .genericType => some (Node.plays .type)
  | _ => none

/-- The name of the type behind a receiver type. -/
def receiverTypeName (type : Node) : Option String :=
  match type.descend receiverRule with
  | some core => if core.kind == .typeIdentifier then some core.text else none
  | none => none

/-- The type of the first receiver of a method. -/
def receiverType (method : Node) : Option Node := do
  let receiver ← method.child? .receiver
  let declaration ← receiver.named.find? (·.kind == .parameterDeclaration)
  declaration.child? .type

/-- The name of the type a method belongs to. -/
def receiverName (method : Node) : Option String :=
  (receiverType method).bind receiverTypeName

end SliceGuard.Declarations
