import SliceGuard.Proofs.Check.Alike
import SliceGuard.Proofs.Check.LengthCheck

/-!
# Conditions that say the same in another form

Whether a condition checks a length is the same for all ways of writing it down: with parentheses or
without, with its operands in one order or the other, with a chain of combined conditions grouped
from the left or from the right, and with one combining operator or another.  The search does not
look at more than the operands of a binary expression and at whether its operator combines them.
-/

namespace SliceGuard.Check

open Syntax (Kind Node Role)

/-- A binary expression with its operands and its operator. -/
structure IsBinary (node left : Node) (operator : String) (right : Node) : Prop where
  kind : node.kind = .binaryExpression
  left : node.child? .left = some left
  operator : (node.child? .operator).map Node.text = some operator
  right : node.child? .right = some right

/-- The operators that combine conditions. -/
def IsCombining (operator : String) : Prop :=
  operator = "&&" ∨ operator = "||" ∨ operator = "=="

/-- The same expression, apart from its place and from its role there. -/
structure SameExpression (first second : Node) : Prop where
  kind : second.kind = first.kind
  text : second.text = first.text
  children : second.children.map Node.bare = first.children.map Node.bare

/-- The conditions that are the same apart from how they are written down. -/
inductive Rearranged : Node → Node → Prop
  | same {first second : Node} (same : SameExpression first second) : Rearranged first second
  | symm {first second : Node} (other : Rearranged second first) : Rearranged first second
  | trans {first second third : Node} (one : Rearranged first second)
      (other : Rearranged second third) : Rearranged first third
  /-- Parentheses around a condition or an operand, with any comments in them. -/
  | parenthesized {node inner : Node} (kind : node.kind = .parenthesizedExpression)
      (inside : node.named.find? (·.kind != .comment) = some inner) : Rearranged node inner
  /-- Operands that are rearranged themselves, and one combining operator in place of another. -/
  | inside {first second left left' right right' : Node} {operator operator' : String}
      (binary : IsBinary first left operator right)
      (binary' : IsBinary second left' operator' right')
      (operators : operator' = operator ∨ IsCombining operator ∧ IsCombining operator')
      (lefts : Rearranged left left') (rights : Rearranged right right') : Rearranged first second
  /-- The operands in the other order. -/
  | swapped {first second left left' right right' : Node} {operator : String}
      (binary : IsBinary first left operator right)
      (binary' : IsBinary second right' operator left')
      (lefts : Rearranged left left') (rights : Rearranged right right') : Rearranged first second
  /-- A chain of three combined conditions, grouped from the right and from the left. -/
  | regrouped {first second rest rest' pair pair' a a' b b' c c' : Node}
      {operator operator' : String} (combining : IsCombining operator)
      (combining' : IsCombining operator') (outer : IsBinary first a operator rest)
      (bare : rest.withoutParentheses = some pair) (inner : IsBinary pair b operator' c)
      (outer' : IsBinary second rest' operator' c')
      (bare' : rest'.withoutParentheses = some pair') (inner' : IsBinary pair' a' operator b')
      (firsts : Rearranged a a') (seconds : Rearranged b b') (thirds : Rearranged c c') :
      Rearranged first second

/-- The operands that measure a container, apart from parentheses around them. -/
def Measured (name : String) (operand : Node) : Prop :=
  ∃ call, operand.withoutParentheses = some call ∧ Measures name call

section

variable {name : String} {node left right : Node} {operator : String}

theorem measured_iff_of_withoutParentheses {bare : Node}
    (reached : node.withoutParentheses = some bare) :
    Measured name node ↔ Measured name bare := by
  have again := withoutParentheses_of_kind_ne (kind_ne_of_withoutParentheses reached)
  simp [Measured, reached, again]

theorem IsBinary.withoutParentheses (binary : IsBinary node left operator right) :
    node.withoutParentheses = some node :=
  withoutParentheses_of_kind_ne (by simp [binary.kind])

theorem IsBinary.not_measured (binary : IsBinary node left operator right) :
    ¬ Measured name node := by
  rintro ⟨call, reached, isCall, _⟩
  rw [binary.withoutParentheses, Option.some.injEq] at reached
  rw [← reached, binary.kind] at isCall
  cases isCall

theorem IsBinary.combines_iff (binary : IsBinary node left operator right) :
    Combines node ↔ IsCombining operator := by
  obtain ⟨token, here, text⟩ := Option.map_eq_some_iff.1 binary.operator
  simp [Combines, IsCombining, here, text]

/-- What a binary expression says, by its operands. -/
theorem IsBinary.checksLength_iff (binary : IsBinary node left operator right) :
    ChecksLength name node ↔ (Measured name left ∨ Measured name right) ∨
      IsCombining operator ∧ (ChecksLength name left ∨ ChecksLength name right) := by
  rw [← binary.combines_iff]
  constructor
  · intro checks
    cases checks with
    | parenthesized parentheses => simp [binary.kind] at parentheses
    | compared _ side here bare measures =>
      rcases side with rfl | rfl
      · obtain rfl := Option.some.inj (binary.left.symm.trans here)
        exact .inl (.inl ⟨_, bare, measures⟩)
      · obtain rfl := Option.some.inj (binary.right.symm.trans here)
        exact .inl (.inr ⟨_, bare, measures⟩)
    | combined _ combines side here checks =>
      rcases side with rfl | rfl
      · obtain rfl := Option.some.inj (binary.left.symm.trans here)
        exact .inr ⟨combines, .inl checks⟩
      · obtain rfl := Option.some.inj (binary.right.symm.trans here)
        exact .inr ⟨combines, .inr checks⟩
  · rintro ((⟨call, bare, measures⟩ | ⟨call, bare, measures⟩) | ⟨combines, checks | checks⟩)
    · exact .compared binary.kind (.inl rfl) binary.left bare measures
    · exact .compared binary.kind (.inr rfl) binary.right bare measures
    · exact .combined binary.kind combines (.inl rfl) binary.left checks
    · exact .combined binary.kind combines (.inr rfl) binary.right checks

end

/-- Two expressions that cannot be told apart, neither as a condition nor as an operand. -/
structure Interchangeable (name : String) (first second : Node) : Prop where
  checks : ChecksLength name first ↔ ChecksLength name second
  measured : Measured name first ↔ Measured name second

namespace Interchangeable

variable {name : String} {first second third : Node}

theorem symm (same : Interchangeable name first second) : Interchangeable name second first :=
  ⟨same.checks.symm, same.measured.symm⟩

theorem trans (same : Interchangeable name first second)
    (same' : Interchangeable name second third) : Interchangeable name first third :=
  ⟨same.checks.trans same'.checks, same.measured.trans same'.measured⟩

theorem of_withoutParentheses {node bare : Node}
    (reached : node.withoutParentheses = some bare) : Interchangeable name node bare :=
  ⟨checksLength_iff_of_withoutParentheses reached, measured_iff_of_withoutParentheses reached⟩

theorem of_bare (node : Node) : Interchangeable name node node.bare := by
  constructor
  · have same := checksLength_relocate (fun _ => default) (some node) name
    have whole (node : Node) : ChecksLength name node ↔ checksLength node name = true := by
      simp [checksLength_iff]
    rw [whole, whole, ← same]
    rfl
  · have reached : node.bare.withoutParentheses = node.withoutParentheses.map Node.bare :=
      Node.withoutParentheses_relocate _ node
    have same (call : Node) : Measures name call.bare ↔ Measures name call := by
      rw [← measures_iff, ← measures_iff]
      exact iff_of_eq (congrArg (· = true) (measures_relocate _ name call))
    simp [Measured, reached, same]

/-- The role of an expression does not matter, since only its kind and its children are looked
at. -/
theorem of_children (kind : second.kind = first.kind)
    (children : second.children = first.children) : Interchangeable name first second := by
  have child (role : Role) : second.child? role = first.child? role := by
    rw [Node.child?, Node.child?, children]
  have named : second.named = first.named := by rw [Node.named, Node.named, children]
  have operand : operands second = operands first := by simp only [operands, operand?, child]
  by_cases parentheses : first.kind = .parenthesizedExpression
  · have reached : second.withoutParentheses = first.withoutParentheses := by
      rw [withoutParentheses_of_kind_eq parentheses,
        withoutParentheses_of_kind_eq (kind.trans parentheses), named]
    constructor
    · rw [checksLength_iff_bare, @checksLength_iff_bare _ second, reached]
    · rw [Measured, Measured, reached]
  · have stays := withoutParentheses_of_kind_ne parentheses
    have stays' := withoutParentheses_of_kind_ne (kind.trans_ne parentheses)
    constructor
    · by_cases binary : first.kind = .binaryExpression
      · rw [checksLength_iff_of_binary binary, checksLength_iff_of_binary (kind.trans binary),
          operand, Combines, Combines, child]
      · exact iff_of_false (not_checksLength_of_kind_ne stays binary)
          (not_checksLength_of_kind_ne stays' (kind.trans_ne binary))
    · simp [Measured, stays, stays', Measures, kind, child]

theorem of_same (same : SameExpression first second) : Interchangeable name first second := by
  have children : second.bare.children = first.bare.children := by
    rw [Node.bare, Node.children_relocate, Node.bare, Node.children_relocate]
    exact same.children
  have bares : Interchangeable name first.bare second.bare :=
    of_children (by simp [same.kind]) children
  exact (of_bare first).trans (bares.trans (of_bare second).symm)

/-- Where the operands agree in pairs, in either order, so do the binary expressions. -/
theorem of_operands {left left' right right' : Node} {operator operator' : String}
    (binary : IsBinary first left operator right) (binary' : IsBinary second left' operator' right')
    (combine : IsCombining operator ↔ IsCombining operator')
    (operands : Interchangeable name left left' ∧ Interchangeable name right right' ∨
      Interchangeable name left right' ∧ Interchangeable name right left') :
    Interchangeable name first second := by
  refine ⟨?_, iff_of_false binary.not_measured binary'.not_measured⟩
  rw [binary.checksLength_iff, binary'.checksLength_iff, combine]
  rcases operands with ⟨lefts, rights⟩ | ⟨lefts, rights⟩
  · rw [lefts.checks, lefts.measured, rights.checks, rights.measured]
  · rw [lefts.checks, lefts.measured, rights.checks, rights.measured, or_comm (a := Measured _ _),
      or_comm (a := ChecksLength _ _)]

/-- A chain of combined conditions checks a length if one of its members does or measures the
container, however the chain is grouped. -/
theorem of_chain {rest rest' pair pair' a a' b b' c c' : Node} {operator operator' : String}
    (combining : IsCombining operator) (combining' : IsCombining operator')
    (outer : IsBinary first a operator rest) (bare : rest.withoutParentheses = some pair)
    (inner : IsBinary pair b operator' c) (outer' : IsBinary second rest' operator' c')
    (bare' : rest'.withoutParentheses = some pair') (inner' : IsBinary pair' a' operator b')
    (firsts : Interchangeable name a a') (seconds : Interchangeable name b b')
    (thirds : Interchangeable name c c') : Interchangeable name first second := by
  refine ⟨?_, iff_of_false outer.not_measured outer'.not_measured⟩
  have group : Interchangeable name rest pair := of_withoutParentheses bare
  have group' : Interchangeable name rest' pair' := of_withoutParentheses bare'
  rw [outer.checksLength_iff, outer'.checksLength_iff, group.checks, group.measured, group'.checks,
    group'.measured, inner.checksLength_iff, inner'.checksLength_iff, firsts.checks,
    firsts.measured, seconds.checks, seconds.measured, thirds.checks, thirds.measured]
  simp only [combining, combining', true_and, inner.not_measured, inner'.not_measured, or_false,
    false_or]
  tauto

end Interchangeable

theorem interchangeable_of_rearranged {first second : Node} (rearranged : Rearranged first second)
    (name : String) : Interchangeable name first second := by
  induction rearranged with
  | same same => exact .of_same same
  | symm _ ih => exact ih.symm
  | trans _ _ ih ih' => exact ih.trans ih'
  | @parenthesized node inner kind inside =>
    have reached : node.withoutParentheses = inner.withoutParentheses := by
      rw [withoutParentheses_of_kind_eq kind, inside, Option.bind_some]
    constructor
    · rw [checksLength_iff_bare, @checksLength_iff_bare _ inner, reached]
    · rw [Measured, Measured, reached]
  | inside binary binary' operators _ _ ih ih' =>
    refine .of_operands binary binary' ?_ (.inl ⟨ih, ih'⟩)
    rcases operators with rfl | ⟨combining, combining'⟩
    · exact Iff.rfl
    · exact iff_of_true combining combining'
  | swapped binary binary' _ _ ih ih' =>
    exact .of_operands binary binary' Iff.rfl (.inr ⟨ih, ih'⟩)
  | regrouped combining combining' outer bare inner outer' bare' inner' _ _ _ ih ih' ih'' =>
    exact .of_chain combining combining' outer bare inner outer' bare' inner' ih ih' ih''

/-- The search decides the rules, by which apart from parentheses only a binary expression checks a
length: if one of its operands measures the container, or if it combines conditions of which one
checks the length.  Rearranged conditions are decided alike. -/
theorem checksLength_by_rules :
    (∀ (condition : Option Node) (name : String), checksLength condition name = true ↔
      ∃ expression, condition = some expression ∧ ChecksLength name expression) ∧
    (∀ (name : String) (expression : Node), ChecksLength name expression ↔
      ∃ node, expression.withoutParentheses = some node ∧ node.kind = .binaryExpression ∧
        ((∃ operand ∈ operands node, Measures name operand) ∨
          Combines node ∧ ∃ operand ∈ operands node, ChecksLength name operand)) ∧
    (∀ first second : Node, Rearranged first second →
      ∀ name, checksLength first name = checksLength second name) := by
  refine ⟨fun condition name => checksLength_iff, ?_, ?_⟩
  · intro name expression
    constructor
    · intro checks
      obtain ⟨node, reached, here⟩ := checksLength_iff_bare.1 checks
      have binary : node.kind = .binaryExpression := by
        by_contra other
        exact not_checksLength_of_kind_ne reached other checks
      exact ⟨node, reached, binary, (checksLength_iff_of_binary binary).1 here⟩
    · rintro ⟨node, reached, binary, tells⟩
      exact checksLength_iff_bare.2 ⟨node, reached, (checksLength_iff_of_binary binary).2 tells⟩
  · intro first second rearranged name
    rw [Bool.eq_iff_iff, checksLength_iff, checksLength_iff]
    simpa using (interchangeable_of_rearranged rearranged name).checks

/-- A name in an expression. -/
def plainOperand (text : String) : Node :=
  .mk .identifier none default text []

def lengthOf (name : String) : Node :=
  .mk .callExpression none default ("len(" ++ name ++ ")") [
    .mk .identifier (some .function) default "len" [],
    .mk .argumentList (some .arguments) default ("(" ++ name ++ ")") [
      .mk .token none default "(" [], plainOperand name, .mk .token none default ")" []]]

def binaryOf (left : Node) (operator : String) (right : Node) : Node :=
  .mk .binaryExpression none default (left.text ++ " " ++ operator ++ " " ++ right.text) [
    left.withRole .left, .mk .token (some .operator) default operator [], right.withRole .right]

def inParentheses (inner : Node) : Node :=
  .mk .parenthesizedExpression none default ("(" ++ inner.text ++ ")") [
    .mk .token none default "(" [], inner, .mk .token none default ")" []]

/-- The condition `i < len(x) && (a || b)`. -/
def rightGrouped : Node :=
  binaryOf (binaryOf (plainOperand "i") "<" (lengthOf "x")) "&&"
    (inParentheses (binaryOf (plainOperand "a") "||" (plainOperand "b")))

/-- The condition `((len(x)) < i && a) || b`, or with another operator before `b`. -/
def leftGrouped (operator : String) : Node :=
  binaryOf (inParentheses (binaryOf (binaryOf (inParentheses (lengthOf "x")) "<" (plainOperand "i"))
    "&&" (plainOperand "a"))) operator (plainOperand "b")

/-- The comparison is turned around, the length put in parentheses, the chain grouped from the left
and its last operator exchanged. -/
theorem checksLength_leftGrouped :
    Rearranged rightGrouped (leftGrouped "==") ∧ checksLength rightGrouped "x" = true ∧
      checksLength (leftGrouped "==") "x" = true := by
  have same (text : String) (role role' : Role) :
      Rearranged ((plainOperand text).withRole role) ((plainOperand text).withRole role') :=
    .same ⟨rfl, rfl, rfl⟩
  have call : Rearranged ((lengthOf "x").withRole .right) (lengthOf "x") := .same ⟨rfl, rfl, rfl⟩
  have measured : Rearranged ((lengthOf "x").withRole .right)
      ((inParentheses (lengthOf "x")).withRole .left) :=
    .trans call (.symm (.parenthesized rfl rfl))
  have compared : Rearranged ((binaryOf (plainOperand "i") "<" (lengthOf "x")).withRole .left)
      ((binaryOf (inParentheses (lengthOf "x")) "<" (plainOperand "i")).withRole .left) :=
    .swapped ⟨rfl, rfl, rfl, rfl⟩ ⟨rfl, rfl, rfl, rfl⟩ (same _ _ _) measured
  have regrouped : Rearranged rightGrouped (leftGrouped "||") :=
    .regrouped (.inl rfl) (.inr (.inl rfl)) ⟨rfl, rfl, rfl, rfl⟩ rfl
      ⟨rfl, rfl, rfl, rfl⟩ ⟨rfl, rfl, rfl, rfl⟩ rfl ⟨rfl, rfl, rfl, rfl⟩ compared
      (same _ _ _) (same _ _ _)
  have exchanged : Rearranged (leftGrouped "||") (leftGrouped "==") :=
    .inside ⟨rfl, rfl, rfl, rfl⟩ ⟨rfl, rfl, rfl, rfl⟩
      (.inr ⟨.inr (.inl rfl), .inr (.inr rfl)⟩) (.same ⟨rfl, rfl, rfl⟩) (same _ _ _)
  have rearranged := regrouped.trans exchanged
  have checks : checksLength rightGrouped "x" = true := by decide +kernel
  exact ⟨rearranged, checks, (checksLength_by_rules.2.2 _ _ rearranged "x").symm.trans checks⟩

end SliceGuard.Check
