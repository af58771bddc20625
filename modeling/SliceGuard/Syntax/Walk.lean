import SliceGuard.Syntax.Node

/-!
# Walking a tree

A cursor stands on a node of a tree and can go to the first child, to the next sibling and to the
parent.  Going to the first child where there is one, and otherwise to the next sibling of the
nearest node around that has one, visits every node once and in source order.
-/

namespace SliceGuard.Syntax

/-- A place in a tree: the node, the siblings after it, and the nodes around it with the siblings
after them, the nearest one first. -/
structure Cursor where
  node : Node
  later : List Node
  above : List (Node × List Node)

namespace Cursor

def root (node : Node) : Cursor :=
  ⟨node, [], []⟩

def firstChild? (cursor : Cursor) : Option Cursor :=
  match cursor.node.children with
  | [] => none
  | child :: later => some ⟨child, later, (cursor.node, cursor.later) :: cursor.above⟩

def nextSibling? (cursor : Cursor) : Option Cursor :=
  match cursor.later with
  | [] => none
  | sibling :: later => some ⟨sibling, later, cursor.above⟩

def parent? (cursor : Cursor) : Option Cursor :=
  match cursor.above with
  | [] => none
  | (node, later) :: above => some ⟨node, later, above⟩

def site (cursor : Cursor) : Site :=
  ⟨cursor.node, cursor.above.map Prod.fst⟩

/-- The next sibling of the node, or of the nearest node around that has one. -/
def following? (later : List Node) : List (Node × List Node) → Option Cursor
  | [] =>
    match later with
    | [] => none
    | sibling :: rest => some ⟨sibling, rest, []⟩
  | above@((_, outer) :: farther) =>
    match later with
    | sibling :: rest => some ⟨sibling, rest, above⟩
    | [] => following? outer farther

/-- The node that comes next in source order. -/
def advance? (cursor : Cursor) : Option Cursor :=
  match cursor.firstChild? with
  | some child => some child
  | none => following? cursor.later cursor.above

/-- The number of nodes that come after the nodes around. -/
def sizeOutside : List (Node × List Node) → Nat
  | [] => 0
  | (_, later) :: above => Node.sizeAll later + sizeOutside above

/-- The number of nodes that come after the node, its own descendants included. -/
def remaining (cursor : Cursor) : Nat :=
  Node.sizeAll cursor.node.children + Node.sizeAll cursor.later + sizeOutside cursor.above

theorem remaining_following? {later : List Node} {above : List (Node × List Node)}
    {next : Cursor} (found : following? later above = some next) :
    next.remaining + 1 = Node.sizeAll later + sizeOutside above := by
  induction above generalizing later with
  | nil =>
    cases later with
    | nil => simp [following?] at found
    | cons sibling rest =>
      simp only [following?, Option.some.injEq] at found
      subst found
      simp only [remaining, Node.sizeAll, Node.size_eq sibling]
      omega
  | cons entry farther ih =>
    cases later with
    | nil =>
      simp only [following?] at found
      have := ih found
      simp only [Node.sizeAll, sizeOutside]
      omega
    | cons sibling rest =>
      simp only [following?, Option.some.injEq] at found
      subst found
      simp only [remaining, Node.sizeAll, Node.size_eq sibling, sizeOutside]
      omega

/-- Every step leaves one node less to come. -/
theorem remaining_advance? {cursor next : Cursor} (found : cursor.advance? = some next) :
    next.remaining + 1 = cursor.remaining := by
  unfold advance? firstChild? at found
  cases children : cursor.node.children with
  | nil =>
    simp only [children] at found
    have := remaining_following? found
    simp only [remaining, children, Node.sizeAll] at this ⊢
    omega
  | cons child later =>
    simp only [children, Option.some.injEq] at found
    subst found
    simp only [remaining, children, Node.sizeAll, Node.size_eq child, sizeOutside]
    omega

/-- The sites from the cursor on that satisfy `p`, after those found before, the last one
first. -/
def collect (p : Node → Bool) (cursor : Cursor) (found : List Site) : List Site :=
  let found := if p cursor.node then cursor.site :: found else found
  match _moved : cursor.advance? with
  | none => found
  | some next => next.collect p found
termination_by cursor.remaining
decreasing_by
  have := remaining_advance? _moved
  omega

end Cursor

/-- The accesses of interest: index and slice expressions. -/
def Kind.isAccess (kind : Kind) : Bool :=
  kind == .indexExpression || kind == .sliceExpression

/-- All nodes of a tree that satisfy `p`, in source order. -/
def Node.sitesWhere (p : Node → Bool) (root : Node) : List Site :=
  ((Cursor.root root).collect p []).reverse

/-- All index and slice expressions of a tree, in source order. -/
def Node.accesses (root : Node) : List Site :=
  root.sitesWhere (·.kind.isAccess)

end SliceGuard.Syntax
