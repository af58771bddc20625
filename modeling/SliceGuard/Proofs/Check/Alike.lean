import SliceGuard.Check.Package
import SliceGuard.Proofs.Typing.Alike

/-!
# Verdicts in packages with the same declarations

Guards look at no spans, so that nodes that stand for one another guard accesses that do.  Where the
nodes around two accesses guard them alike, both are reported or none.
-/

namespace SliceGuard.Check

open Syntax (Kind Node Role Site Span)
open Declarations
open Typing

section

variable (move : Span → Span)

theorem measures_relocate (name : String) (operand : Node) :
    measures name (operand.relocate move) = measures name operand := by
  simp [measures, isLengthCall, hasArgument, Option.any_map, Function.comp_def]

theorem operand?_relocate (role : Role) (node : Node) :
    operand? role (node.relocate move) = (operand? role node).map (Node.relocate move) := by
  rw [operand?, operand?, Node.child?_relocate]
  cases node.child? role with
  | none => rfl
  | some child => exact Node.withoutParentheses_relocate move child

theorem operands_relocate (node : Node) :
    operands (node.relocate move) = (operands node).map (Node.relocate move) := by
  rw [operands, operands, operand?_relocate, operand?_relocate]
  cases operand? .left node <;> cases operand? .right node <;> rfl

theorem isCombination_relocate (node : Node) :
    isCombination (node.relocate move) = isCombination node := by
  simp [isCombination, Option.any_map]

theorem anyChecks_cons (name : String) (condition : Node) (pending : List Node) :
    anyChecks name (condition :: pending) =
      match condition.withoutParentheses with
      | none => anyChecks name pending
      | some node =>
        if node.kind == .binaryExpression then
          if (operands node).any (measures name) then true
          else if isCombination node then anyChecks name (operands node ++ pending)
          else anyChecks name pending
        else anyChecks name pending := by
  rw [anyChecks]
  split <;> simp_all

theorem anyChecks_relocate (name : String) (conditions : List Node) :
    anyChecks name (conditions.map (Node.relocate move)) = anyChecks name conditions := by
  fun_induction anyChecks name conditions with
  | case1 => simp [anyChecks]
  | case2 condition pending reached ih =>
    rw [List.map_cons, anyChecks_cons, Node.withoutParentheses_relocate, reached]
    exact ih
  | case3 condition pending node reached binary measured =>
    rw [List.map_cons, anyChecks_cons, Node.withoutParentheses_relocate, reached]
    simp_all [operands_relocate, measures_relocate]
  | case4 condition pending node reached binary measured combines ih =>
    rw [List.map_cons, anyChecks_cons, Node.withoutParentheses_relocate, reached]
    simp_all [operands_relocate, measures_relocate, isCombination_relocate]
  | case5 condition pending node reached binary measured combines ih =>
    rw [List.map_cons, anyChecks_cons, Node.withoutParentheses_relocate, reached]
    simp_all [operands_relocate, measures_relocate, isCombination_relocate]
  | case6 condition pending node reached other ih =>
    rw [List.map_cons, anyChecks_cons, Node.withoutParentheses_relocate, reached]
    simp_all

theorem indexName?_relocate (access : Node) :
    indexName? (access.relocate move) = indexName? access := by
  rw [indexName?, indexName?, Node.kind_relocate, Node.child?_relocate]
  cases access.child? .index <;> simp

theorem plainName?_relocate (node : Node) : plainName? (node.relocate move) = plainName? node := by
  simp [plainName?]

theorem rangedName?_relocate (clause : Node) :
    rangedName? (clause.relocate move) = rangedName? clause := by
  rw [rangedName?, rangedName?, Node.child?_relocate]
  cases clause.child? .right with
  | none => rfl
  | some container =>
    simp only [Option.map_some, Option.bind_some, Node.withoutParentheses_relocate]
    cases container.withoutParentheses with
    | none => rfl
    | some bare => exact plainName?_relocate move bare

theorem rangeKey?_relocate (clause : Node) :
    rangeKey? (clause.relocate move) = rangeKey? clause := by
  rw [rangeKey?, rangeKey?, Node.child?_relocate]
  cases clause.child? .left with
  | none => rfl
  | some left =>
    simp only [Option.map_some, Option.bind_some, Node.named_relocate, List.head?_map]
    cases left.named.head? with
    | none => rfl
    | some key => exact plainName?_relocate move key

theorem isRangeOver_relocate (loop : Node) (name : String) (access : Node) :
    isRangeOver (loop.relocate move) name access = isRangeOver loop name access := by
  rw [isRangeOver, isRangeOver, Node.named_relocate,
    Node.find?_map_relocate move (fun node => by rw [Node.kind_relocate])]
  cases loop.named.find? (·.kind == .rangeClause) with
  | none => rfl
  | some clause =>
    simp only [Option.map_some, rangedName?_relocate, rangeKey?_relocate]

theorem checksLength_relocate (condition : Option Node) (name : String) :
    checksLength (condition.map (Node.relocate move)) name = checksLength condition name := by
  cases condition with
  | none => rfl
  | some condition => exact anyChecks_relocate move name [condition]

end

section

variable {related : Site → Site → Prop} {index index' : Index} {access other : Node}

theorem isSortMethod_alike (indexes : Index.Alike related index index')
    (same : indexName? other = indexName? access) {method method' : Node}
    (head : SameHead method method') :
    isSortMethod index' method' other = isSortMethod index method access := by
  rw [isSortMethod, isSortMethod, head.nameText, head.receiverName, head.parameterNames,
    indexes.isSortable, same]

/-- Nodes that are the same apart from their places guard alike. -/
theorem isGuard_relocate (indexes : Index.Alike related index index')
    (same : indexName? other = indexName? access) (move : Span → Span) (name : String)
    (node : Node) :
    isGuard index' name other (node.relocate move) = isGuard index name access node := by
  have head := SameHead.of_bare (Node.bare_relocate move node)
  unfold isGuard
  rw [Node.kind_relocate]
  split
  · rw [Node.child?_relocate, checksLength_relocate]
  · rw [isRangeOver_relocate, isRangeOver, isRangeOver, same]
  · exact isSortMethod_alike indexes same head
  · rfl

end

section

variable {related : Site → Site → Prop} {index index' : Index} {old new : Site}

theorem operandName?_alike (parallel : Parallel related) (here : related old new) :
    Option.Rel related (operandName? old) (operandName? new) := by
  have operands := parallel.child? here .operand
  unfold operandName?
  generalize old.child? .operand = operand, new.child? .operand = operand' at operands
  cases operands with
  | none => exact .none
  | some same =>
    rw [Option.filter_some, Option.filter_some, parallel.kind same]
    split
    · exact .some same
    · exact .none

theorem isReported_guardVerdict (name : String) (access : Site) :
    (guardVerdict index name access).isReported = !isGuarded index name access := by
  unfold guardVerdict isGuarded
  cases guard? index name access <;> rfl

/-- Accesses that stand for one another and are guarded alike are both reported or none. -/
theorem isReported_verdict_alike (simulates : Simulates related)
    (indexes : Index.Alike related index index') (here : related old new)
    (guards : ∀ name, isGuarded index' name new = isGuarded index name old) :
    (verdict index' new).isReported = (verdict index old).isReported := by
  have parallel := simulates.parallel
  have operands := operandName?_alike parallel here
  unfold verdict
  generalize operandName? old = operand, operandName? new = operand' at operands
  cases operands with
  | none => rfl
  | @some operand operand' same =>
    have types := typeWithin_alike simulates indexes stepLimit same
    have classes : (typeOf index' operand').typeClass? = (typeOf index operand).typeClass? :=
      Knowledge.typeClass?_eq_of_bare types
    dsimp only
    rw [parallel.kind here, parallel.text same, classes]
    split
    · rw [isReported_guardVerdict, isReported_guardVerdict, guards]
    · split
      · split
        · rw [isReported_guardVerdict, isReported_guardVerdict, guards]
        · rfl
      · rfl

end

end SliceGuard.Check
