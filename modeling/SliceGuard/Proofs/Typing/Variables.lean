import Mathlib.Data.List.Nodup
import SliceGuard.Proofs.Typing.Declaration
import SliceGuard.Proofs.Typing.Depth

/-!
# Variables inside and outside of functions

The variables of a declaration are read in two ways: outside of functions through the symbols that
the declaration introduces into the package, inside of functions through the declaration itself.
Both ways pair the names of a specification with the same types and values, so a variable has the
same type in both places.
-/

namespace SliceGuard.Typing

open Syntax (Kind Node Site)
open Declarations

variable {index : Index}

/-- The type of the name at a position of a specification, looked at in some depth: the type that is
written, or else that of the value at the same position, or else a share of the only value. -/
def specType (index : Index) (limit depth : Nat) (spec : Site) (position : Nat) : Knowledge :=
  let follow : Follow := typeAt index limit (depth + 1)
  match spec.node.child? .type with
  | some type => underlying index type
  | none =>
    if (specValues spec).length = (declaredNames spec.node).length then
      follow.maybe (specValues spec)[position]?
    else
      match specValues spec with
      | [value] => shareType index follow value position
      | _ => .error .untyped

/-- A declaration gives the names of its specifications their types. -/
theorem bindingType_variableBinding (limit depth : Nat) (spec : Site) (position : Nat) :
    bindingType index (typeAt index limit (depth + 1)) (variableBinding spec position) =
      specType index limit depth spec position := by
  unfold variableBinding specType
  cases spec.node.child? .type with
  | some type => rfl
  | none =>
    simp only [Binding.ofValues, assigned?]
    by_cases each : (specValues spec).length = (declaredNames spec.node).length
    · rw [if_pos each, if_pos each]
      cases (specValues spec)[position]? <;> rfl
    · rw [if_neg each, if_neg each]
      rcases specValues spec with _ | ⟨value, _ | ⟨second, others⟩⟩ <;> rfl

/-- A symbol of a declaration of variables says what the declaration says of its name. -/
theorem exists_of_mem_declarationSymbols {file : String} {declaration : Site} {symbol : Symbol}
    (kind : declaration.node.kind = .varDeclaration)
    (mem : symbol ∈ declarationSymbols file declaration) :
    ∃ spec ∈ valueSpecs declaration, ∃ position,
      (declaredNames spec.node)[position]? = some symbol.name ∧
        symbolBinding symbol = variableBinding spec position := by
  simp only [declarationSymbols, kind, List.mem_flatMap] at mem
  obtain ⟨spec, listed, mem⟩ := mem
  obtain ⟨⟨title, position⟩, here, rfl⟩ := List.mem_map.1 mem
  have place := List.mk_mem_zipIdx_iff_getElem?.1 here
  refine ⟨spec, listed, position, ?_, ?_⟩
  · rw [declaredNames, List.getElem?_map, place]
    rfl
  · -- Outside and inside of functions, names and values are paired by different code.
    have paired := @assigned?_eq_initializer? (specValues spec) _ _
      (List.getElem?_eq_some_iff.1 place).1
    unfold symbolBinding variableBinding
    cases spec.node.child? .type with
    | some type => rfl
    | none =>
      simp only [Binding.ofValues, declaredNames, List.length_map, paired]
      rfl

/-- The name of a value that is found in the index. -/
theorem name_of_value? {name : String} {symbol : Symbol} (found : index.value? name = some symbol) :
    symbol.name = name := by
  have holds := List.find?_some found
  rw [Bool.and_eq_true, beq_iff_eq] at holds
  exact holds.2

/-- A use that no scope around it binds is read through the symbol of its name. -/
theorem typeAt_of_value? {limit depth : Nat} (within : depth ≤ limit) {use : Site}
    (isName : use.node.kind = .identifier) (unbound : localBinding? use = none) {symbol : Symbol}
    (found : index.value? use.node.text = some symbol) :
    typeAt index limit depth use =
      bindingType index (typeAt index limit (depth + 1)) (symbolBinding symbol) := by
  rw [typeAt, if_neg (by omega)]
  simp [expressionType, isName, binding?, unbound, found]

/-- A variable of the package has the type that its declaration gives to it inside of a function, in
every depth and for every shape of its specification. -/
theorem symbolType_eq_statementType {file : String} {declaration : Site}
    (kind : declaration.node.kind = .varDeclaration)
    (distinct : (Declaration.statement declaration).names.Nodup)
    (held : ∀ name ∈ (Declaration.statement declaration).names,
      ∃ symbol ∈ declarationSymbols file declaration, index.value? name = some symbol)
    {name : String} (declares : name ∈ (Declaration.statement declaration).names) :
    ∃ symbol binding spec position, index.value? name = some symbol ∧
      statementBinding? declaration name = some binding ∧ spec ∈ valueSpecs declaration ∧
      (declaredNames spec.node)[position]? = some name ∧
      ∀ limit depth,
        bindingType index (typeAt index limit (depth + 1)) (symbolBinding symbol) =
          bindingType index (typeAt index limit (depth + 1)) binding ∧
        bindingType index (typeAt index limit (depth + 1)) binding =
          specType index limit depth spec position ∧
        ∀ use : Site, use.node.kind = .identifier → use.node.text = name →
          localBinding? use = none → depth ≤ limit →
          typeAt index limit depth use =
            bindingType index (typeAt index limit (depth + 1)) binding := by
  obtain ⟨symbol, introduced, found⟩ := held name declares
  obtain ⟨spec, listed, position, here, reads⟩ :=
    exists_of_mem_declarationSymbols kind introduced
  rw [name_of_value? found] at here
  have tells : (Declaration.statement declaration).Declares name (variableBinding spec position) :=
    .value kind listed here
  obtain ⟨binding, bound⟩ := Option.isSome_iff_exists.1 (statementBinding?_isSome tells)
  have once := List.nodup_iff_count_le_one.1 distinct name
  obtain rfl := Declaration.Declares.unique once tells (declares_of_statementBinding? bound)
  refine ⟨symbol, _, spec, position, found, bound, listed, here, fun limit depth => ⟨?_, ?_, ?_⟩⟩
  · rw [reads]
  · exact bindingType_variableBinding limit depth spec position
  · rintro use isName rfl unbound within
    rw [typeAt_of_value? within isName unbound found, reads]

/-- The declaration `var (a, b = m[0]; c []int)`. -/
def groupedVariables : Node :=
  .mk .varDeclaration none ⟨0, 26, 0, 0⟩ "var (a, b = m[0]; c []int)" [
    .mk .token none ⟨0, 3, 0, 0⟩ "var" [],
    .mk .varSpecList none ⟨4, 26, 0, 4⟩ "(a, b = m[0]; c []int)" [
      .mk .token none ⟨4, 5, 0, 4⟩ "(" [],
      .mk .varSpec none ⟨5, 16, 0, 5⟩ "a, b = m[0]" [
        .mk .identifier (some .name) ⟨5, 6, 0, 5⟩ "a" [],
        .mk .token none ⟨6, 7, 0, 6⟩ "," [],
        .mk .identifier (some .name) ⟨8, 9, 0, 8⟩ "b" [],
        .mk .token none ⟨10, 11, 0, 10⟩ "=" [],
        .mk .expressionList (some .value) ⟨12, 16, 0, 12⟩ "m[0]" [
          .mk .indexExpression none ⟨12, 16, 0, 12⟩ "m[0]" [
            .mk .identifier (some .operand) ⟨12, 13, 0, 12⟩ "m" [],
            .mk .token none ⟨13, 14, 0, 13⟩ "[" [],
            .mk .intLiteral (some .index) ⟨14, 15, 0, 14⟩ "0" [],
            .mk .token none ⟨15, 16, 0, 15⟩ "]" []]]],
      .mk .token none ⟨16, 17, 0, 16⟩ ";" [],
      .mk .varSpec none ⟨18, 25, 0, 18⟩ "c []int" [
        .mk .identifier (some .name) ⟨18, 19, 0, 18⟩ "c" [],
        .mk .sliceType (some .type) ⟨20, 25, 0, 20⟩ "[]int" [
          .mk .token none ⟨20, 21, 0, 20⟩ "[" [],
          .mk .token none ⟨21, 22, 0, 21⟩ "]" [],
          .mk .typeIdentifier (some .element) ⟨22, 25, 0, 22⟩ "int" []]],
      .mk .token none ⟨25, 26, 0, 25⟩ ")" []]]

def groupedRoot : Node :=
  .mk .sourceFile none ⟨0, 26, 0, 0⟩ "var (a, b = m[0]; c []int)" [groupedVariables]

/-- What a package tells that holds nothing but these variables. -/
def groupedIndex : Index :=
  ⟨symbols "p.go" groupedRoot⟩

/-- The second variable of the first specification is the one that tells whether there was a value,
through its symbol and through its declaration. -/
theorem symbolType_groupedVariables :
    ∃ symbol binding, groupedIndex.value? "b" = some symbol ∧
      statementBinding? ((Site.root groupedRoot).below groupedVariables) "b" = some binding ∧
      ∀ limit depth,
        bindingType groupedIndex (typeAt groupedIndex limit (depth + 1)) (symbolBinding symbol) =
          bindingType groupedIndex (typeAt groupedIndex limit (depth + 1)) binding := by
  have held : ∀ name ∈
      (Declaration.statement ((Site.root groupedRoot).below groupedVariables)).names,
      ∃ symbol ∈ declarationSymbols "p.go" ((Site.root groupedRoot).below groupedVariables),
        groupedIndex.value? name = some symbol := by
    intro name mem
    have isHeld : ∀ name ∈ ["a", "b", "c"], (groupedIndex.value? name).isSome := by decide
    obtain ⟨symbol, found⟩ := Option.isSome_iff_exists.1 (isHeld name mem)
    have listed := List.mem_of_find?_eq_some found
    exact ⟨symbol, listed, found⟩
  obtain ⟨symbol, binding, _, _, found, bound, _, _, alike⟩ :=
    symbolType_eq_statementType rfl (by decide) held
      (show "b" ∈ (Declaration.statement ((Site.root groupedRoot).below groupedVariables)).names by
        decide)
  exact ⟨symbol, binding, found, bound, fun limit depth => (alike limit depth).1⟩

end SliceGuard.Typing
