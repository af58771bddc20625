import SliceGuard.Declarations.Symbol

/-!
# Flattened lists of parameters

A list of parameters is flattened along its groups: a declaration is taken once for every name it
has, and once if it has none.  What stands between the declarations is left out.  The type texts and
the types of a signature are read off the declarations that are taken.
-/

namespace SliceGuard.Declarations

open Syntax (Kind Node)

/-- The declarations of a list of parameters, each as often as it declares a parameter. -/
inductive Entries : List Node → List Node → Prop
  | nil : Entries [] []
  | other {node : Node} {rest entries : List Node} (undeclaring : isParameter node.kind = false)
      (further : Entries rest entries) : Entries (node :: rest) entries
  | unnamed {declaration : Node} {rest entries : List Node}
      (declares : isParameter declaration.kind = true)
      (alone : declaration.childrenIn .name = []) (further : Entries rest entries) :
      Entries (declaration :: rest) (declaration :: entries)
  | named {declaration : Node} {rest entries : List Node}
      (declares : isParameter declaration.kind = true)
      (several : declaration.childrenIn .name ≠ []) (further : Entries rest entries) :
      Entries (declaration :: rest)
        ((declaration.childrenIn .name).map (fun _ => declaration) ++ entries)

/-- A declaration as often as it declares a parameter. -/
def entriesOf (declaration : Node) : List Node :=
  List.replicate (groupSize declaration) declaration

/-- The declarations of a list of parameters, as often as they count. -/
def flattened (nodes : List Node) : List Node :=
  (nodes.filter fun node => isParameter node.kind).flatMap entriesOf

theorem flattened_cons_of_pos {node : Node} (declares : isParameter node.kind = true)
    (rest : List Node) : flattened (node :: rest) = entriesOf node ++ flattened rest := by
  rw [flattened, List.filter_cons_of_pos (by simp [declares]), List.flatMap_cons]
  rfl

theorem flattened_cons_of_neg {node : Node} (undeclaring : isParameter node.kind = false)
    (rest : List Node) : flattened (node :: rest) = flattened rest := by
  rw [flattened, List.filter_cons_of_neg (by simp [undeclaring])]
  rfl

theorem flattened_append (first second : List Node) :
    flattened (first ++ second) = flattened first ++ flattened second := by
  rw [flattened, List.filter_append, List.flatMap_append]
  rfl

theorem groupSize_of_unnamed {declaration : Node} (alone : declaration.childrenIn .name = []) :
    groupSize declaration = 1 := by
  simp [groupSize, alone]

theorem groupSize_of_named {declaration : Node} (several : declaration.childrenIn .name ≠ []) :
    groupSize declaration = (declaration.childrenIn .name).length := by
  rw [groupSize, if_neg]
  rwa [List.length_eq_zero_iff]

/-- Flattening takes exactly the entries. -/
theorem entries_iff {nodes entries : List Node} :
    Entries nodes entries ↔ flattened nodes = entries := by
  constructor
  · intro taken
    induction taken with
    | nil => rfl
    | other undeclaring _ ih => rw [flattened_cons_of_neg undeclaring, ih]
    | unnamed declares alone _ ih =>
      rw [flattened_cons_of_pos declares, ih, entriesOf, groupSize_of_unnamed alone]
      rfl
    | named declares several _ ih =>
      rw [flattened_cons_of_pos declares, ih, entriesOf, groupSize_of_named several,
        List.map_const']
  · rintro rfl
    induction nodes with
    | nil => exact .nil
    | cons node rest ih =>
      by_cases declares : isParameter node.kind = true
      · rw [flattened_cons_of_pos declares, entriesOf]
        by_cases alone : node.childrenIn .name = []
        · rw [groupSize_of_unnamed alone]
          exact .unnamed declares alone ih
        · rw [groupSize_of_named alone, ← List.map_const']
          exact .named declares alone ih
      · have undeclaring := Bool.eq_false_iff.2 declares
        rw [flattened_cons_of_neg undeclaring]
        exact .other undeclaring ih

/-- Declarations of parameters are no signs. -/
theorem parameterDeclarations_eq (list : Node) :
    parameterDeclarations list = list.children.filter fun child => isParameter child.kind := by
  rw [parameterDeclarations, Node.named, List.filter_filter]
  refine List.filter_congr fun child _ => ?_
  by_cases isToken : child.kind = .token
  · simp [isToken, isParameter]
  · simp [Node.isNamed, Kind.isNamed, isToken]

/-- The type texts of a list are those of its entries. -/
theorem parameterTypes_eq (list : Node) :
    parameterTypes (some list) = (flattened list.children).map typeText := by
  simp only [parameterTypes, flattened, Option.map_some, Option.getD_some, parameterDeclarations_eq,
    List.map_flatMap, entriesOf, List.map_replicate]

/-- The types of a list of results are those of its entries, where none of them takes any number of
arguments. -/
theorem resultTypeNodes_eq {list : Node} (isList : list.kind = .parameterList)
    (plain : ∀ child ∈ list.children, child.kind ≠ .variadicParameterDeclaration) :
    resultTypeNodes (some list) = (flattened list.children).map (Node.child? .type) := by
  have declarations : list.named.filter (·.kind == .parameterDeclaration) =
      list.children.filter fun child => isParameter child.kind := by
    rw [← parameterDeclarations_eq, parameterDeclarations]
    refine List.filter_congr fun child mem => ?_
    simp [isParameter, plain child (Node.mem_named_iff.1 mem).1]
  simp only [resultTypeNodes, isList, beq_self_eq_true, if_true, declarations, flattened,
    List.map_flatMap, entriesOf, List.map_replicate]

/-- The parameters of a method have the types of its list of parameters. -/
theorem types_methodParameters (list : Option Node) :
    (methodParameters list).map Parameter.type = (parameterTypes list).map some := by
  unfold methodParameters
  dsimp only
  split
  case isTrue lengths =>
    rw [List.map_map]
    change ((parameterNames list).zip (parameterTypes list)).map (some ∘ Prod.snd) = _
    rw [← List.map_map, List.map_snd_zip (by omega)]
  case isFalse => simp

end SliceGuard.Declarations
