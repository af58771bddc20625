import SliceGuard.Syntax.Kind

/-!
# Syntax trees

A node has a kind, a role in its parent, a span in the source, a text and its children in source
order.  A site is a node together with the nodes around it, so that scopes can be looked up
outwards.
-/

namespace SliceGuard.Syntax

/-- Where a node stands: the bytes from `start` up to `stop`, and the row and column of the first
byte, both counted from zero and in bytes. -/
structure Span where
  start : Nat
  stop : Nat
  row : Nat
  column : Nat
deriving DecidableEq, Repr, Inhabited

/-- A node of a syntax tree. -/
inductive Node where
  | mk (kind : Kind) (role : Option Role) (span : Span) (text : String) (children : List Node)
deriving Repr, Inhabited

namespace Node

def kind : Node → Kind
  | mk kind _ _ _ _ => kind

def role : Node → Option Role
  | mk _ role _ _ _ => role

def span : Node → Span
  | mk _ _ span _ _ => span

def text : Node → String
  | mk _ _ _ text _ => text

def children : Node → List Node
  | mk _ _ _ _ children => children

@[simp] theorem kind_mk (k : Kind) (r : Option Role) (s : Span) (t : String) (cs : List Node) :
    (mk k r s t cs).kind = k := rfl

@[simp] theorem role_mk (k : Kind) (r : Option Role) (s : Span) (t : String) (cs : List Node) :
    (mk k r s t cs).role = r := rfl

@[simp] theorem span_mk (k : Kind) (r : Option Role) (s : Span) (t : String) (cs : List Node) :
    (mk k r s t cs).span = s := rfl

@[simp] theorem text_mk (k : Kind) (r : Option Role) (s : Span) (t : String) (cs : List Node) :
    (mk k r s t cs).text = t := rfl

@[simp] theorem children_mk (k : Kind) (r : Option Role) (s : Span) (t : String)
    (cs : List Node) : (mk k r s t cs).children = cs := rfl

/-- The same node in another role. -/
def withRole (role : Role) : Node → Node
  | mk kind _ span text children => mk kind (some role) span text children

@[simp] theorem kind_withRole (role : Role) (node : Node) :
    (node.withRole role).kind = node.kind := by
  cases node; rfl

@[simp] theorem role_withRole (role : Role) (node : Node) :
    (node.withRole role).role = some role := by
  cases node; rfl

/-- The first byte of the node. -/
def start (node : Node) : Nat :=
  node.span.start

/-- The first byte after the node. -/
def stop (node : Node) : Nat :=
  node.span.stop

/-- The line of the first byte, counted from one. -/
def line (node : Node) : Nat :=
  node.span.row + 1

/-- The column of the first byte, counted from one. -/
def column (node : Node) : Nat :=
  node.span.column + 1

/-- Nodes other than operators, keywords and punctuation. -/
def isNamed (node : Node) : Bool :=
  node.kind.isNamed

/-- The named children, comments among them. -/
def named (node : Node) : List Node :=
  node.children.filter isNamed

def plays (role : Role) (node : Node) : Bool :=
  node.role == some role

def child? (role : Role) (node : Node) : Option Node :=
  node.children.find? (plays role)

def childrenIn (role : Role) (node : Node) : List Node :=
  node.children.filter (plays role)

theorem mem_named_iff {node child : Node} :
    child ∈ node.named ↔ child ∈ node.children ∧ child.kind ≠ .token := by
  simp [named, isNamed, Kind.isNamed]

theorem mem_childrenIn_iff {node child : Node} {role : Role} :
    child ∈ node.childrenIn role ↔ child ∈ node.children ∧ child.role = some role := by
  simp [childrenIn, plays]

theorem mem_children_of_child? {node child : Node} {role : Role}
    (found : node.child? role = some child) : child ∈ node.children :=
  List.mem_of_find?_eq_some found

theorem role_of_child? {role : Role} {node child : Node} (here : node.child? role = some child) :
    child.role = some role := by
  simpa [Node.plays] using List.find?_some here

mutual

def size : Node → Nat
  | mk _ _ _ _ children => sizeAll children + 1

def sizeAll : List Node → Nat
  | [] => 0
  | node :: rest => node.size + sizeAll rest

end

theorem size_eq (node : Node) : node.size = sizeAll node.children + 1 := by
  cases node; simp [size]

theorem size_pos (node : Node) : 0 < node.size := by
  rw [size_eq]; omega

theorem size_le_sizeAll {node : Node} {nodes : List Node} (mem : node ∈ nodes) :
    node.size ≤ sizeAll nodes := by
  induction nodes with
  | nil => cases mem
  | cons first rest ih =>
    rcases List.mem_cons.1 mem with rfl | later
    · simp only [sizeAll]; omega
    · have := ih later
      simp only [sizeAll]; omega

/-- A child is smaller than its parent. -/
theorem size_lt_of_mem {node child : Node} (mem : child ∈ node.children) :
    child.size < node.size := by
  have := size_le_sizeAll mem
  rw [size_eq node]
  omega

/-- What passes from the children of a node to the node holds of every node. -/
@[elab_as_elim]
theorem childInduction {motive : Node → Prop} (node : Node)
    (step : ∀ node : Node, (∀ child ∈ node.children, motive child) → motive node) :
    motive node := by
  generalize bound : node.size = size
  induction size using Nat.strongRecOn generalizing node with
  | ind size ih =>
    subst bound
    exact step node fun child mem => ih child.size (size_lt_of_mem mem) child rfl

theorem sizeAll_append (first second : List Node) :
    sizeAll (first ++ second) = sizeAll first + sizeAll second := by
  induction first with
  | nil => simp [sizeAll]
  | cons node rest ih => simp only [List.cons_append, sizeAll, ih]; omega

/-- Two children in different roles are together smaller than their parent. -/
theorem size_add_size_lt {node first second : Node} (memFirst : first ∈ node.children)
    (memSecond : second ∈ node.children) (differ : first.role ≠ second.role) :
    first.size + second.size < node.size := by
  have both : ∀ nodes : List Node, first ∈ nodes → second ∈ nodes →
      first.size + second.size ≤ sizeAll nodes := by
    intro nodes
    induction nodes with
    | nil => intro mem; cases mem
    | cons head rest ih =>
      intro memFirst memSecond
      simp only [sizeAll]
      rcases List.mem_cons.1 memFirst with rfl | laterFirst
      · rcases List.mem_cons.1 memSecond with rfl | laterSecond
        · exact absurd rfl differ
        · have := size_le_sizeAll laterSecond
          omega
      · rcases List.mem_cons.1 memSecond with rfl | laterSecond
        · have := size_le_sizeAll laterFirst
          omega
        · have := ih laterFirst laterSecond
          omega
  have := both node.children memFirst memSecond
  rw [size_eq node]
  omega

mutual

/-- Go down while `rule` says how: from a node of a kind with a rule to its first child that
satisfies the rule, until a node of a kind without one. -/
def descend (rule : Kind → Option (Node → Bool)) : Node → Option Node
  | mk kind role span text children =>
    match rule kind with
    | none => some (mk kind role span text children)
    | some picks => descendFirst rule picks children

/-- Go down from the first node that is picked. -/
def descendFirst (rule : Kind → Option (Node → Bool)) (picks : Node → Bool) :
    List Node → Option Node
  | [] => none
  | node :: rest => if picks node then node.descend rule else descendFirst rule picks rest

end

theorem descendFirst_eq (rule : Kind → Option (Node → Bool)) (picks : Node → Bool)
    (nodes : List Node) :
    descendFirst rule picks nodes = (nodes.find? picks).bind (descend rule) := by
  induction nodes with
  | nil => simp [descendFirst]
  | cons node rest ih =>
    by_cases picked : picks node <;> simp [descendFirst, picked, ih]

/-- A node of a kind without a rule is where the descent ends. -/
theorem descend_of_rule_eq_none {rule : Kind → Option (Node → Bool)} {node : Node}
    (stops : rule node.kind = none) : node.descend rule = some node := by
  cases node
  simp_all [descend]

/-- A node of a kind with a rule is left for its first child that the rule picks. -/
theorem descend_of_rule_eq_some {rule : Kind → Option (Node → Bool)} {node : Node}
    {picks : Node → Bool} (goes : rule node.kind = some picks) :
    node.descend rule = (node.children.find? picks).bind (descend rule) := by
  cases node
  simp_all [descend, descendFirst_eq]

/-- A descent never leads to a larger tree. -/
theorem size_le_of_descend {rule : Kind → Option (Node → Bool)} {node found : Node}
    (reached : node.descend rule = some found) : found.size ≤ node.size := by
  induction node using childInduction with
  | step node ih =>
    cases picked : rule node.kind with
    | none =>
      rw [descend_of_rule_eq_none picked, Option.some.injEq] at reached
      exact Nat.le_of_eq (congrArg Node.size reached.symm)
    | some picks =>
      rw [descend_of_rule_eq_some picked] at reached
      obtain ⟨child, first, deeper⟩ := Option.bind_eq_some_iff.1 reached
      have mem := List.mem_of_find?_eq_some first
      have := size_lt_of_mem mem
      have := ih child mem deeper
      omega

/-- A descent only ends where there is no rule. -/
theorem rule_eq_none_of_descend {rule : Kind → Option (Node → Bool)} {node found : Node}
    (reached : node.descend rule = some found) : rule found.kind = none := by
  induction node using childInduction with
  | step node ih =>
    cases picked : rule node.kind with
    | none =>
      rw [descend_of_rule_eq_none picked, Option.some.injEq] at reached
      rwa [← reached]
    | some picks =>
      rw [descend_of_rule_eq_some picked] at reached
      obtain ⟨child, first, deeper⟩ := Option.bind_eq_some_iff.1 reached
      exact ih child (List.mem_of_find?_eq_some first) deeper

/-- Parentheses around an expression are left for the first child that is not a comment. -/
def parenthesesRule : Kind → Option (Node → Bool)
  | .parenthesizedExpression => some fun child => child.isNamed && child.kind != .comment
  | _ => none

/-- The expression inside all parentheses around it. -/
def withoutParentheses (node : Node) : Option Node :=
  node.descend parenthesesRule

theorem size_le_of_withoutParentheses {node found : Node}
    (reached : node.withoutParentheses = some found) : found.size ≤ node.size :=
  size_le_of_descend reached

end Node

/-- A node of a tree together with the nodes around it, the nearest one first. -/
structure Site where
  node : Node
  above : List Node
deriving Repr, Inhabited

namespace Site

def root (node : Node) : Site :=
  ⟨node, []⟩

def below (site : Site) (child : Node) : Site :=
  ⟨child, site.node :: site.above⟩

def named (site : Site) : List Site :=
  site.node.named.map site.below

def child? (role : Role) (site : Site) : Option Site :=
  (site.node.child? role).map site.below

@[simp] theorem node_root (node : Node) : (root node).node = node := rfl

@[simp] theorem node_below (site : Site) (child : Node) : (site.below child).node = child := rfl

@[simp] theorem above_below (site : Site) (child : Node) :
    (site.below child).above = site.node :: site.above := rfl

end Site

end SliceGuard.Syntax
