import SliceGuard.Syntax.Node

/-!
# Conditions that check a length

A condition checks the length of a container if a call of `len` or `cap` on it is an operand of
some binary expression that the condition combines.  The binary expressions are kept on a list of
work until one is found that compares such a call.
-/

namespace SliceGuard.Check

open Syntax (Kind Node Role)

/-- A call of the builtin length or capacity. -/
def isLengthCall (node : Node) : Bool :=
  node.kind == .callExpression &&
    (node.child? .function).any fun function =>
      function.kind == .identifier && ["len", "cap"].contains function.text

def hasArgument (call : Node) (name : String) : Bool :=
  (call.child? .arguments).any fun arguments =>
    arguments.named.any fun argument => argument.kind == .identifier && argument.text == name

/-- Whether an operand measures a container. -/
def measures (name : String) (operand : Node) : Bool :=
  isLengthCall operand && hasArgument operand name

/-- An operand of a binary expression, without its parentheses. -/
def operand? (role : Role) (node : Node) : Option Node :=
  (node.child? role).bind Node.withoutParentheses

/-- Whether the operands of a binary expression are searched as conditions of their own. -/
def isCombination (node : Node) : Bool :=
  (node.child? .operator).any fun operator => ["&&", "||", "=="].contains operator.text

def operands (node : Node) : List Node :=
  (operand? .left node).toList ++ (operand? .right node).toList

theorem size_operand?_le {role : Role} {node child found : Node}
    (here : node.child? role = some child) (reached : operand? role node = some found) :
    found.size ≤ child.size := by
  simp only [operand?, here, Option.bind_some] at reached
  exact Node.size_le_of_withoutParentheses reached

theorem child?_of_operand? {role : Role} {node found : Node}
    (reached : operand? role node = some found) : ∃ child, node.child? role = some child := by
  obtain ⟨child, here, _⟩ := Option.bind_eq_some_iff.1 reached
  exact ⟨child, here⟩

/-- The operands of an expression are together smaller than the expression. -/
theorem sizeAll_operands_lt (node : Node) : Node.sizeAll (operands node) < node.size := by
  have pos := node.size_pos
  unfold operands
  cases left : operand? .left node with
  | none =>
    cases right : operand? .right node with
    | none => simpa [Node.sizeAll] using pos
    | some right' =>
      obtain ⟨child, here⟩ := child?_of_operand? right
      have := size_operand?_le here right
      have := Node.size_lt_of_mem (Node.mem_children_of_child? here)
      simp only [Option.toList, List.nil_append, Node.sizeAll]
      omega
  | some left' =>
    obtain ⟨first, hereFirst⟩ := child?_of_operand? left
    have boundFirst := size_operand?_le hereFirst left
    cases right : operand? .right node with
    | none =>
      have := Node.size_lt_of_mem (Node.mem_children_of_child? hereFirst)
      simp only [Option.toList, List.append_nil, Node.sizeAll]
      omega
    | some right' =>
      obtain ⟨second, hereSecond⟩ := child?_of_operand? right
      have boundSecond := size_operand?_le hereSecond right
      have differ : first.role ≠ second.role := by
        rw [Node.role_of_child? hereFirst, Node.role_of_child? hereSecond]
        decide
      have := Node.size_add_size_lt (Node.mem_children_of_child? hereFirst)
        (Node.mem_children_of_child? hereSecond) differ
      simp only [Option.toList, List.cons_append, List.nil_append, Node.sizeAll]
      omega

/-- Whether one of the conditions on the list checks the length of the container. -/
def anyChecks (name : String) : List Node → Bool
  | [] => false
  | condition :: pending =>
    match _reached : condition.withoutParentheses with
    | none => anyChecks name pending
    | some node =>
      if node.kind == .binaryExpression then
        if (operands node).any (measures name) then true
        else if isCombination node then anyChecks name (operands node ++ pending)
        else anyChecks name pending
      else anyChecks name pending
termination_by conditions => Node.sizeAll conditions
decreasing_by
  · have := condition.size_pos
    simp only [Node.sizeAll]
    omega
  · have := Node.size_le_of_withoutParentheses _reached
    have := sizeAll_operands_lt node
    simp only [Node.sizeAll_append, Node.sizeAll]
    omega
  · have := condition.size_pos
    simp only [Node.sizeAll]
    omega
  · have := condition.size_pos
    simp only [Node.sizeAll]
    omega

def checksLength (condition : Option Node) (name : String) : Bool :=
  anyChecks name condition.toList

end SliceGuard.Check
