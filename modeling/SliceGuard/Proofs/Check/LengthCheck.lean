import SliceGuard.Check.Condition

/-!
# Which conditions check a length

A condition checks the length of a container if one of its operands is a call of `len` or `cap` on
the container, or if it combines conditions of which one does.  Parentheses count for nothing.  The
search through the list of work decides exactly that.
-/

namespace SliceGuard.Check

open Syntax (Kind Node Role)

/-- A call of the builtin length or capacity with a name among its arguments. -/
def Measures (name : String) (call : Node) : Prop :=
  call.kind = .callExpression ∧
    (∃ function, call.child? .function = some function ∧ function.kind = .identifier ∧
      (function.text = "len" ∨ function.text = "cap")) ∧
    ∃ arguments, call.child? .arguments = some arguments ∧
      ∃ argument ∈ arguments.named, argument.kind = .identifier ∧ argument.text = name

/-- The operators whose operands are conditions of their own. -/
def Combines (node : Node) : Prop :=
  ∃ operator, node.child? .operator = some operator ∧
    (operator.text = "&&" ∨ operator.text = "||" ∨ operator.text = "==")

/-- The conditions that check the length of a container. -/
inductive ChecksLength (name : String) : Node → Prop
  /-- Parentheses around such a condition. -/
  | parenthesized {node inner : Node} (parentheses : node.kind = .parenthesizedExpression)
      (inside : node.named.find? (·.kind != .comment) = some inner)
      (checks : ChecksLength name inner) : ChecksLength name node
  /-- An operand, apart from parentheses, measures the container; the operator does not matter. -/
  | compared {node operand call : Node} {role : Role} (binary : node.kind = .binaryExpression)
      (side : role = .left ∨ role = .right) (here : node.child? role = some operand)
      (bare : operand.withoutParentheses = some call) (measures : Measures name call) :
      ChecksLength name node
  /-- One of the combined conditions checks the length. -/
  | combined {node operand : Node} {role : Role} (binary : node.kind = .binaryExpression)
      (combines : Combines node) (side : role = .left ∨ role = .right)
      (here : node.child? role = some operand) (checks : ChecksLength name operand) :
      ChecksLength name node

theorem measures_iff {name : String} {call : Node} :
    measures name call = true ↔ Measures name call := by
  simp only [measures, isLengthCall, hasArgument, Measures, Option.any_eq_true, Bool.and_eq_true,
    beq_iff_eq, List.any_eq_true, List.contains_cons, List.contains_nil, Bool.or_false,
    Bool.or_eq_true, and_assoc]

theorem isCombination_iff {node : Node} : isCombination node = true ↔ Combines node := by
  simp only [isCombination, Combines, Option.any_eq_true, List.contains_cons, List.contains_nil,
    Bool.or_false, Bool.or_eq_true, beq_iff_eq]

theorem mem_operands_iff {node found : Node} :
    found ∈ operands node ↔ ∃ role, (role = .left ∨ role = .right) ∧
      ∃ operand, node.child? role = some operand ∧ operand.withoutParentheses = some found := by
  simp [operands, operand?, Option.bind_eq_some_iff]

theorem withoutParentheses_of_kind_ne {node : Node} (other : node.kind ≠ .parenthesizedExpression) :
    node.withoutParentheses = some node := by
  apply Node.descend_of_rule_eq_none
  unfold Node.parenthesesRule
  split
  · contradiction
  · rfl

theorem withoutParentheses_of_kind_eq {node : Node}
    (parentheses : node.kind = .parenthesizedExpression) :
    node.withoutParentheses =
      (node.named.find? (·.kind != .comment)).bind Node.withoutParentheses := by
  have goes : Node.parenthesesRule node.kind =
      some fun child => child.isNamed && child.kind != .comment := by
    rw [parentheses]
    rfl
  rw [Node.withoutParentheses, Node.descend_of_rule_eq_some goes, Node.named, List.find?_filter]
  simp only [Bool.decide_and, Bool.decide_eq_true]
  rfl

theorem kind_ne_of_withoutParentheses {node bare : Node}
    (reached : node.withoutParentheses = some bare) : bare.kind ≠ .parenthesizedExpression := by
  intro parentheses
  have stops := Node.rule_eq_none_of_descend reached
  rw [parentheses] at stops
  simp [Node.parenthesesRule] at stops

/-- Parentheses around a condition do not matter. -/
theorem checksLength_iff_bare {name : String} {node : Node} :
    ChecksLength name node ↔
      ∃ bare, node.withoutParentheses = some bare ∧ ChecksLength name bare := by
  induction node using Node.childInduction with
  | step node ih =>
    by_cases parentheses : node.kind = .parenthesizedExpression
    · rw [withoutParentheses_of_kind_eq parentheses]
      constructor
      · intro checks
        cases checks with
        | @parenthesized _ inner _ inside checks =>
          have member := (Node.mem_named_iff.1 (List.mem_of_find?_eq_some inside)).1
          rw [inside, Option.bind_some]
          exact (ih inner member).1 checks
        | compared binary => simp [parentheses] at binary
        | combined binary => simp [parentheses] at binary
      · rintro ⟨bare, reached, checks⟩
        obtain ⟨inner, inside, deeper⟩ := Option.bind_eq_some_iff.1 reached
        have member := (Node.mem_named_iff.1 (List.mem_of_find?_eq_some inside)).1
        exact .parenthesized parentheses inside
          ((ih inner member).2 ⟨bare, deeper, checks⟩)
    · simp [withoutParentheses_of_kind_ne parentheses]

/-- What a binary expression says, by its operands apart from parentheses. -/
theorem checksLength_iff_of_binary {name : String} {node : Node}
    (binary : node.kind = .binaryExpression) :
    ChecksLength name node ↔ (∃ operand ∈ operands node, Measures name operand) ∨
      Combines node ∧ ∃ operand ∈ operands node, ChecksLength name operand := by
  constructor
  · intro checks
    cases checks with
    | parenthesized parentheses => simp [binary] at parentheses
    | compared _ side here bare measured =>
      exact .inl ⟨_, mem_operands_iff.2 ⟨_, side, _, here, bare⟩, measured⟩
    | combined _ combines side here checks =>
      obtain ⟨bare, reached, deeper⟩ := checksLength_iff_bare.1 checks
      exact .inr ⟨combines, bare, mem_operands_iff.2 ⟨_, side, _, here, reached⟩, deeper⟩
  · rintro (⟨call, member, measured⟩ | ⟨combines, bare, member, checks⟩)
    · obtain ⟨role, side, operand, here, reached⟩ := mem_operands_iff.1 member
      exact .compared binary side here reached measured
    · obtain ⟨role, side, operand, here, reached⟩ := mem_operands_iff.1 member
      exact .combined binary combines side here (checksLength_iff_bare.2 ⟨bare, reached, checks⟩)

theorem checksLength_iff_of_withoutParentheses {name : String} {node bare : Node}
    (reached : node.withoutParentheses = some bare) :
    ChecksLength name node ↔ ChecksLength name bare := by
  rw [checksLength_iff_bare, reached]
  simp

/-- Apart from parentheses only binary expressions check a length. -/
theorem not_checksLength_of_kind_ne {name : String} {node bare : Node}
    (reached : node.withoutParentheses = some bare) (other : bare.kind ≠ .binaryExpression) :
    ¬ ChecksLength name node := by
  rw [checksLength_iff_of_withoutParentheses reached]
  intro checks
  cases checks with
  | parenthesized parentheses => exact kind_ne_of_withoutParentheses reached parentheses
  | compared binary => exact other binary
  | combined binary => exact other binary

/-- The list of work finds a condition that checks the length exactly if there is one on it. -/
theorem anyChecks_iff {name : String} {conditions : List Node} :
    anyChecks name conditions = true ↔
      ∃ condition ∈ conditions, ChecksLength name condition := by
  fun_induction anyChecks name conditions with
  | case1 => simp
  | case2 condition pending reached ih =>
    have checksNot : ¬ ChecksLength name condition := by
      rw [checksLength_iff_bare]
      simp [reached]
    simp [ih, checksNot]
  | case3 condition pending node reached binary measured =>
    obtain ⟨operand, member, measured⟩ := List.any_eq_true.1 measured
    have checks : ChecksLength name condition := by
      rw [checksLength_iff_of_withoutParentheses reached,
        checksLength_iff_of_binary (beq_iff_eq.1 binary)]
      exact .inl ⟨operand, member, measures_iff.1 measured⟩
    simp [checks]
  | case4 condition pending node reached binary measured combines ih =>
    have checks : ChecksLength name condition ↔
        ∃ operand ∈ operands node, ChecksLength name operand := by
      rw [checksLength_iff_of_withoutParentheses reached,
        checksLength_iff_of_binary (beq_iff_eq.1 binary)]
      simp_all [measures_iff, isCombination_iff]
    simp only [ih, List.mem_append, List.mem_cons, or_and_right, exists_or, exists_eq_left, checks]
  | case5 condition pending node reached binary measured combines ih =>
    have checksNot : ¬ ChecksLength name condition := by
      rw [checksLength_iff_of_withoutParentheses reached,
        checksLength_iff_of_binary (beq_iff_eq.1 binary)]
      simp_all [measures_iff, isCombination_iff]
    simp [ih, checksNot]
  | case6 condition pending node reached other ih =>
    have checksNot : ¬ ChecksLength name condition :=
      not_checksLength_of_kind_ne reached (by simpa using other)
    simp [ih, checksNot]

theorem checksLength_iff {condition : Option Node} {name : String} :
    checksLength condition name = true ↔
      ∃ expression, condition = some expression ∧ ChecksLength name expression := by
  rw [checksLength, anyChecks_iff]
  simp

end SliceGuard.Check
