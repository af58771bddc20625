import SliceGuard.Syntax.Walk

/-!
# The walk is the traversal in preorder

The recursive traversal lists a node before everything below it, child by child, and each node with
all nodes around it.  The cursor visits the same sites in the same order: what it still has to visit
is the traversal of the node it stands on, of the siblings after it, and of the siblings after the
nodes around it.
-/

namespace SliceGuard.Syntax

namespace Node

mutual

/-- The sites of a node and of all nodes below it in preorder, where `above` are the nodes around. -/
def preorder (above : List Node) : Node → List Site
  | mk kind role span text children =>
    ⟨mk kind role span text children, above⟩ ::
      preorderAll (mk kind role span text children :: above) children

/-- The sites of several nodes with the same nodes around them, one node after the other. -/
def preorderAll (above : List Node) : List Node → List Site
  | [] => []
  | node :: rest => node.preorder above ++ preorderAll above rest

end

theorem preorder_eq (above : List Node) (node : Node) :
    node.preorder above = ⟨node, above⟩ :: preorderAll (node :: above) node.children := by
  cases node
  rw [preorder, children_mk]

@[simp] theorem preorderAll_nil (above : List Node) : preorderAll above [] = [] := by
  rw [preorderAll]

@[simp] theorem preorderAll_cons (above : List Node) (node : Node) (rest : List Node) :
    preorderAll above (node :: rest) = node.preorder above ++ preorderAll above rest := by
  rw [preorderAll]

theorem preorderAll_eq (above nodes : List Node) :
    preorderAll above nodes = nodes.flatMap (preorder above) := by
  induction nodes with
  | nil => rw [preorderAll_nil, List.flatMap_nil]
  | cons node rest ih => rw [preorderAll_cons, ih, List.flatMap_cons]

def sites (root : Node) : List Site :=
  root.preorder []

/-- The nodes that are visited do not depend on the nodes around. -/
theorem map_node_preorder (node : Node) (above above' : List Node) :
    (node.preorder above).map Site.node = (node.preorder above').map Site.node := by
  induction node using childInduction generalizing above above' with
  | step node ih =>
    rw [preorder_eq, preorder_eq, preorderAll_eq, preorderAll_eq, List.map_cons, List.map_cons,
      List.map_flatMap, List.map_flatMap, List.flatMap_def, List.flatMap_def,
      List.map_congr_left fun child mem => ih child mem _ _]

end Node

namespace Cursor

/-- The nodes around a cursor, the nearest one first. -/
def around (cursor : Cursor) : List Node :=
  cursor.above.map Prod.fst

/-- The sites that come after the nodes around a place, from the inside out. -/
def comingOutside : List (Node × List Node) → List Site
  | [] => []
  | (_, later) :: above => Node.preorderAll (above.map Prod.fst) later ++ comingOutside above

/-- The sites from the cursor on. -/
def coming (cursor : Cursor) : List Site :=
  cursor.node.preorder cursor.around ++ Node.preorderAll cursor.around cursor.later ++
    comingOutside cursor.above

theorem coming_root (node : Node) : (root node).coming = node.sites := by
  simp [coming, root, around, comingOutside, Node.sites]

/-- Where nothing follows, nothing comes after the node and outside of it. -/
theorem coming_of_following?_eq_none {later : List Node} {above : List (Node × List Node)}
    (ended : following? later above = none) :
    Node.preorderAll (above.map Prod.fst) later ++ comingOutside above = [] := by
  induction above generalizing later with
  | nil =>
    cases later with
    | nil => simp [comingOutside]
    | cons sibling rest => simp [following?] at ended
  | cons entry farther ih =>
    obtain ⟨node, outer⟩ := entry
    cases later with
    | nil =>
      simp only [following?] at ended
      simpa [comingOutside] using ih ended
    | cons sibling rest => simp [following?] at ended

/-- Going back over any number of nodes that are the last ones skips nothing. -/
theorem coming_of_following?_eq_some {later : List Node} {above : List (Node × List Node)}
    {next : Cursor} (found : following? later above = some next) :
    Node.preorderAll (above.map Prod.fst) later ++ comingOutside above = next.coming := by
  induction above generalizing later with
  | nil =>
    cases later with
    | nil => simp [following?] at found
    | cons sibling rest =>
      simp only [following?, Option.some.injEq] at found
      subst found
      simp [coming, around]
  | cons entry farther ih =>
    obtain ⟨node, outer⟩ := entry
    cases later with
    | nil =>
      simp only [following?] at found
      simpa [comingOutside] using ih found
    | cons sibling rest =>
      simp only [following?, Option.some.injEq] at found
      subst found
      simp [coming, around]

/-- A cursor that cannot move has only its own site left. -/
theorem coming_of_advance?_eq_none {cursor : Cursor} (ended : cursor.advance? = none) :
    cursor.coming = [cursor.site] := by
  cases children : cursor.node.children with
  | cons child later => simp [advance?, firstChild?, children] at ended
  | nil =>
    simp only [advance?, firstChild?, children] at ended
    have outside := coming_of_following?_eq_none ended
    rw [coming, Node.preorder_eq, children, List.append_assoc, around, outside]
    simp [site]

/-- A step of the cursor takes exactly its own site off the sites to come. -/
theorem coming_of_advance?_eq_some {cursor next : Cursor} (moved : cursor.advance? = some next) :
    cursor.coming = cursor.site :: next.coming := by
  cases children : cursor.node.children with
  | nil =>
    simp only [advance?, firstChild?, children] at moved
    have outside := coming_of_following?_eq_some moved
    rw [coming, Node.preorder_eq, children, List.append_assoc, around, outside]
    simp [site]
  | cons child later =>
    simp only [advance?, firstChild?, children, Option.some.injEq] at moved
    subst moved
    rw [coming, Node.preorder_eq, children]
    simp [coming, around, comingOutside, site]

/-- A whole walk finds what the traversal finds. -/
theorem collect_eq (p : Node → Bool) (cursor : Cursor) (found : List Site) :
    cursor.collect p found = (cursor.coming.filter (p ·.node)).reverse ++ found := by
  fun_induction collect p cursor found with
  | case1 cursor found found' ended =>
    rw [coming_of_advance?_eq_none ended]
    by_cases here : p cursor.node <;> simp [found', here, site]
  | case2 cursor found found' next moved ih =>
    rw [ih, coming_of_advance?_eq_some moved]
    by_cases here : p cursor.node <;> simp [found', here, site]

end Cursor

/-- The nodes that satisfy `p` are found in preorder, each with all nodes around it. -/
theorem Node.sitesWhere_eq (p : Node → Bool) (root : Node) :
    root.sitesWhere p = root.sites.filter (p ·.node) := by
  rw [sitesWhere, Cursor.collect_eq, Cursor.coming_root]
  simp

theorem Node.accesses_eq (root : Node) :
    root.accesses = root.sites.filter (·.node.kind.isAccess) :=
  sitesWhere_eq _ root

end SliceGuard.Syntax
