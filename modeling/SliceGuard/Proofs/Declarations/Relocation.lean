import SliceGuard.Declarations.Symbol
import SliceGuard.Proofs.Syntax.Relocation

/-!
# Signatures at other places

The names, the type texts and the receiver of a signature do not depend on where it stands, and the
type nodes it gives are the same ones at their other places.
-/

namespace SliceGuard.Declarations

open Syntax (Kind Node Role Span)

section

variable (move : Span → Span)

@[simp] theorem declaredNames_relocate (declaration : Node) :
    declaredNames (declaration.relocate move) = declaredNames declaration := by
  simp [declaredNames, Function.comp_def]

@[simp] theorem groupSize_relocate (declaration : Node) :
    groupSize (declaration.relocate move) = groupSize declaration := by
  simp [groupSize]

@[simp] theorem typeText_relocate (declaration : Node) :
    typeText (declaration.relocate move) = typeText declaration := by
  simp [typeText, Function.comp_def]

@[simp] theorem parameterDeclarations_relocate (list : Node) :
    parameterDeclarations (list.relocate move) =
      (parameterDeclarations list).map (Node.relocate move) := by
  rw [parameterDeclarations, Node.named_relocate]
  exact Node.filter_map_relocate move (fun node => by rw [Node.kind_relocate]) _

@[simp] theorem parameterNames_relocate (list : Option Node) :
    parameterNames (list.map (Node.relocate move)) = parameterNames list := by
  cases list <;> simp [parameterNames, List.flatMap_map]

@[simp] theorem parameterTypes_relocate (list : Option Node) :
    parameterTypes (list.map (Node.relocate move)) = parameterTypes list := by
  cases list <;> simp [parameterTypes, List.flatMap_map]

@[simp] theorem methodParameters_relocate (list : Option Node) :
    methodParameters (list.map (Node.relocate move)) = methodParameters list := by
  simp [methodParameters]

@[simp] theorem resultTypes_relocate (result : Option Node) :
    resultTypes (result.map (Node.relocate move)) = resultTypes result := by
  cases result with
  | none => rfl
  | some node =>
    have types := parameterTypes_relocate move (some node)
    simp only [Option.map_some] at types
    simp [resultTypes, types]

theorem resultTypeNodes_relocate (result : Option Node) :
    resultTypeNodes (result.map (Node.relocate move)) =
      (resultTypeNodes result).map (Option.map (Node.relocate move)) := by
  cases result with
  | none => rfl
  | some node =>
    simp only [resultTypeNodes, Option.map_some, Node.kind_relocate, Node.named_relocate]
    split
    · rw [Node.filter_map_relocate move (fun node => by rw [Node.kind_relocate]), List.flatMap_map,
        List.map_flatMap]
      simp
    · rfl

/-- What is picked in a receiver type does not depend on its place. -/
theorem receiverRule_relocate (kind : Kind) (picks : Node → Bool)
    (rule : receiverRule kind = some picks) (node : Node) :
    picks (node.relocate move) = picks node := by
  unfold receiverRule at rule
  split at rule <;> cases rule
  · exact Node.isNamed_relocate move node
  · exact Node.isNamed_relocate move node
  · exact Node.plays_relocate move .type node

theorem receiverTypeName_relocate (type : Option Node) :
    (type.map (Node.relocate move)).bind receiverTypeName = type.bind receiverTypeName := by
  cases type with
  | none => rfl
  | some type =>
    simp only [Option.map_some, Option.bind_some, receiverTypeName,
      Node.descend_relocate move (receiverRule_relocate move)]
    cases type.descend receiverRule <;> simp

/-- The type of the first parameter of a list. -/
def firstType? (list : Node) : Option Node :=
  (list.named.find? (·.kind == .parameterDeclaration)).bind (Node.child? .type)

theorem receiverName_eq (method : Node) :
    receiverName method =
      ((method.child? .receiver).bind firstType?).bind receiverTypeName := by
  rfl

theorem firstType?_relocate (list : Option Node) :
    (list.map (Node.relocate move)).bind firstType? =
      (list.bind firstType?).map (Node.relocate move) := by
  cases list with
  | none => rfl
  | some list =>
    simp only [Option.map_some, Option.bind_some, firstType?, Node.named_relocate]
    rw [Node.find?_map_relocate move (fun node => by rw [Node.kind_relocate])]
    cases list.named.find? (·.kind == .parameterDeclaration) <;> simp

end

/-- What two declarations say apart from their bodies and their places. -/
def SameHead (old new : Node) : Prop :=
  ∀ role, role ≠ .body → (new.child? role).map Node.bare = (old.child? role).map Node.bare

theorem eq_of_bare {α : Type} (f : Option Node → α)
    (blind : ∀ node, f (node.map (Node.relocate fun _ => default)) = f node) {old new : Option Node}
    (same : new.map Node.bare = old.map Node.bare) : f new = f old := by
  rw [← blind new, ← blind old]
  exact congrArg f same

namespace SameHead

variable {old new : Node}

theorem of_bare (same : new.bare = old.bare) : SameHead old new := by
  intro role _
  rw [← Node.child?_bare, ← Node.child?_bare, same]

theorem nameText (head : SameHead old new) : nameText new = nameText old := by
  have blind (node : Option Node) :
      ((node.map (Node.relocate fun _ => default)).map Node.text).getD "" =
        (node.map Node.text).getD "" := by
    cases node <;> simp
  exact eq_of_bare (fun node => (node.map Node.text).getD "") blind (head .name (by decide))

theorem parameterNames (head : SameHead old new) :
    parameterNames (new.child? .parameters) = parameterNames (old.child? .parameters) :=
  eq_of_bare Declarations.parameterNames (parameterNames_relocate _) (head .parameters (by decide))

theorem methodParameters (head : SameHead old new) :
    methodParameters (new.child? .parameters) = methodParameters (old.child? .parameters) :=
  eq_of_bare Declarations.methodParameters (methodParameters_relocate _) (head .parameters (by decide))

theorem resultTypes (head : SameHead old new) :
    resultTypes (new.child? .result) = resultTypes (old.child? .result) :=
  eq_of_bare Declarations.resultTypes (resultTypes_relocate _) (head .result (by decide))

theorem receiverName (head : SameHead old new) : receiverName new = receiverName old := by
  have blind (list : Option Node) :
      ((list.map (Node.relocate fun _ => default)).bind firstType?).bind receiverTypeName =
        (list.bind firstType?).bind receiverTypeName := by
    rw [firstType?_relocate, receiverTypeName_relocate]
  rw [receiverName_eq, receiverName_eq]
  exact eq_of_bare (fun list => (list.bind firstType?).bind receiverTypeName) blind
    (head .receiver (by decide))

end SameHead

end SliceGuard.Declarations
