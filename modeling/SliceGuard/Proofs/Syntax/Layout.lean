import SliceGuard.Proofs.Syntax.Preorder

/-!
# Trees that are laid out in order

In the tree of a source the spans of siblings follow one another without overlap, and they lie inside
the span of their parent.  So two nodes of which neither is below the other lie one before the other,
and everything below a node lies inside it.
-/

namespace SliceGuard.Syntax

namespace Node

/-- The nodes whose spans are ordered and nested, all the way down. -/
inductive LaidOut : Node → Prop
  | intro {node : Node} (proper : node.start ≤ node.stop)
      (within : ∀ child ∈ node.children, node.start ≤ child.start ∧ child.stop ≤ node.stop)
      (ordered : node.children.Pairwise fun earlier later => earlier.stop ≤ later.start)
      (below : ∀ child ∈ node.children, LaidOut child) : LaidOut node

namespace LaidOut

theorem start_le_stop {node : Node} (laid : LaidOut node) : node.start ≤ node.stop := by
  cases laid with
  | intro proper within ordered below => exact proper

theorem start_le_child {node child : Node} (laid : LaidOut node) (mem : child ∈ node.children) :
    node.start ≤ child.start := by
  cases laid with
  | intro proper within ordered below => exact (within child mem).1

theorem child_le_stop {node child : Node} (laid : LaidOut node) (mem : child ∈ node.children) :
    child.stop ≤ node.stop := by
  cases laid with
  | intro proper within ordered below => exact (within child mem).2

theorem pairwise {node : Node} (laid : LaidOut node) :
    node.children.Pairwise fun earlier later => earlier.stop ≤ later.start := by
  cases laid with
  | intro proper within ordered below => exact ordered

theorem child {node child : Node} (laid : LaidOut node) (mem : child ∈ node.children) :
    LaidOut child := by
  cases laid with
  | intro proper within ordered below => exact below child mem

/-- Of two different children one lies before the other. -/
theorem before_or_after {node first second : Node} (laid : LaidOut node)
    (memFirst : first ∈ node.children) (memSecond : second ∈ node.children)
    (differ : first ≠ second) : first.stop ≤ second.start ∨ second.stop ≤ first.start := by
  have ordered := laid.pairwise
  generalize node.children = nodes at memFirst memSecond ordered
  induction ordered with
  | nil => cases memFirst
  | cons before _ ih =>
    rcases List.mem_cons.1 memFirst with rfl | laterFirst
    · rcases List.mem_cons.1 memSecond with rfl | laterSecond
      · exact absurd rfl differ
      · exact .inl (before _ laterSecond)
    · rcases List.mem_cons.1 memSecond with rfl | laterSecond
      · exact .inr (before _ laterFirst)
      · exact ih laterFirst laterSecond

/-- A child that starts before another one ends before it. -/
theorem stop_le_of_start_lt {node first second : Node} (laid : LaidOut node)
    (memFirst : first ∈ node.children) (memSecond : second ∈ node.children)
    (starts : first.start < second.start) : first.stop ≤ second.start := by
  have differ : first ≠ second := by
    rintro rfl
    exact absurd starts (Nat.lt_irrefl _)
  rcases laid.before_or_after memFirst memSecond differ with before | after
  · exact before
  · have := (laid.child memSecond).start_le_stop
    omega

end LaidOut

theorem laidOut_mk_iff {kind : Kind} {role : Option Role} {span : Span} {text : String}
    {children : List Node} :
    LaidOut (mk kind role span text children) ↔ span.start ≤ span.stop ∧
      (∀ child ∈ children, span.start ≤ child.start ∧ child.stop ≤ span.stop) ∧
      (children.Pairwise fun earlier later => earlier.stop ≤ later.start) ∧
      ∀ child ∈ children, LaidOut child := by
  constructor
  · intro laid
    exact ⟨laid.start_le_stop, fun child mem => ⟨laid.start_le_child mem, laid.child_le_stop mem⟩,
      laid.pairwise, fun child mem => laid.child mem⟩
  · rintro ⟨proper, within, ordered, below⟩
    exact .intro proper within ordered below

end Node

/-- The sites of a tree: the root, and the child of any site with that site's node around it. -/
inductive Site.Within (root : Node) : Site → Prop
  | root : Within root ⟨root, []⟩
  | step {node child : Node} {above : List Node} (outer : Within root ⟨node, above⟩)
      (mem : child ∈ node.children) : Within root ⟨child, node :: above⟩

namespace Site.Within

/-- Everything in the traversal of a site of a tree is a site of the tree. -/
theorem of_mem_preorder {root node : Node} {above : List Node} {site : Site}
    (outer : Within root ⟨node, above⟩) (mem : site ∈ node.preorder above) : Within root site := by
  induction node using Node.childInduction generalizing above with
  | step node ih =>
    rw [Node.preorder_eq] at mem
    rcases List.mem_cons.1 mem with rfl | deeper
    · exact outer
    · have listed : ∀ nodes : List Node, (∀ child ∈ nodes, child ∈ node.children) →
          site ∈ Node.preorderAll (node :: above) nodes → Within root site := by
        intro nodes
        induction nodes with
        | nil => intro _ mem; simp at mem
        | cons child rest ihRest =>
          intro children mem
          rw [Node.preorderAll_cons, List.mem_append] at mem
          rcases mem with inChild | inRest
          · have here := children child (by simp)
            exact ih child here (.step outer here) inChild
          · exact ihRest (fun other mem => children other (by simp [mem])) inRest
      exact listed node.children (fun _ mem => mem) deeper

/-- A site of the tree together with all nodes around it is laid out in order. -/
theorem laidOut {root : Node} {site : Site} (laid : root.LaidOut) (within : Within root site) :
    site.node.LaidOut ∧ ∀ node ∈ site.above, node.LaidOut := by
  induction within with
  | root => exact ⟨laid, by simp⟩
  | step outer mem ih =>
    refine ⟨ih.1.child mem, ?_⟩
    intro node around
    rcases List.mem_cons.1 around with rfl | farther
    · exact ih.1
    · exact ih.2 node farther

end Site.Within

theorem Site.within_of_mem_sites {root : Node} {site : Site} (mem : site ∈ root.sites) :
    Site.Within root site :=
  Site.Within.of_mem_preorder .root mem

theorem Node.mem_preorder_child {root node child : Node} {above around : List Node}
    (within : ⟨node, above⟩ ∈ root.preorder around) (mem : child ∈ node.children) :
    ⟨child, node :: above⟩ ∈ root.preorder around := by
  induction root using Node.childInduction generalizing around with
  | step root ih =>
    rw [Node.preorder_eq, Node.preorderAll_eq, List.mem_cons, List.mem_flatMap] at within ⊢
    right
    rcases within with here | ⟨part, inside, deeper⟩
    · cases here
      exact ⟨child, mem, by rw [Node.preorder_eq]; exact List.mem_cons_self⟩
    · exact ⟨part, inside, ih part inside deeper⟩

theorem Node.mem_sites_child {root node child : Node} {above : List Node}
    (within : ⟨node, above⟩ ∈ root.sites) (mem : child ∈ node.children) :
    ⟨child, node :: above⟩ ∈ root.sites :=
  Node.mem_preorder_child within mem

theorem Node.mem_sites_root (root : Node) : ⟨root, []⟩ ∈ root.sites := by
  rw [Node.sites, Node.preorder_eq]
  exact List.mem_cons_self

theorem Site.Within.mem_sites {root : Node} {site : Site} (within : Site.Within root site) :
    site ∈ root.sites := by
  induction within with
  | root => exact Node.mem_sites_root root
  | step _ mem ih => exact Node.mem_sites_child ih mem

/-- What holds of the nodes of a tree from the leaves up. -/
theorem Node.sitesInduction {motive : Node → Prop} {root : Node}
    (step : ∀ site ∈ root.sites, (∀ child ∈ site.node.children, motive child) → motive site.node) :
    motive root := by
  have all (node : Node) : ∀ above, ⟨node, above⟩ ∈ root.sites → motive node := by
    induction node using Node.childInduction with
    | step node ih =>
      intro above inside
      apply step _ inside
      intro child mem
      exact ih child mem (node :: above) (Node.mem_sites_child inside mem)
  exact all root [] root.mem_sites_root

namespace Node

/-- Whether the children of a node follow one another inside of it. -/
def ordersChildren (node : Node) : Bool :=
  decide (node.start ≤ node.stop) &&
    node.children.all (fun child => decide (node.start ≤ child.start ∧ child.stop ≤ node.stop)) &&
    decide (node.children.Pairwise fun earlier later => earlier.stop ≤ later.start)

theorem laidOut_of_sites {root : Node} (ordered : ∀ site ∈ root.sites, site.node.ordersChildren) :
    root.LaidOut := by
  apply sitesInduction
  intro site inside below
  have here := ordered site inside
  simp only [ordersChildren, Bool.and_eq_true, decide_eq_true_eq, List.all_eq_true] at here
  exact .intro here.1.1 here.1.2 here.2 below

/-- Everything below a node that is laid out lies inside of it. -/
theorem LaidOut.bounds {node : Node} (laid : node.LaidOut) {above : List Node} {site : Site}
    (mem : site ∈ node.preorder above) :
    node.start ≤ site.node.start ∧ site.node.stop ≤ node.stop := by
  induction node using childInduction generalizing above with
  | step node ih =>
    rw [preorder_eq, preorderAll_eq, List.mem_cons, List.mem_flatMap] at mem
    rcases mem with rfl | ⟨child, inside, deeper⟩
    · exact ⟨Nat.le_refl _, Nat.le_refl _⟩
    · obtain ⟨starts, stops⟩ := ih child inside (laid.child inside) deeper
      exact ⟨Nat.le_trans (laid.start_le_child inside) starts,
        Nat.le_trans stops (laid.child_le_stop inside)⟩

theorem LaidOut.inner {node : Node} (laid : node.LaidOut) {above : List Node} {site : Site}
    (mem : site ∈ node.preorder above) : site.node.LaidOut := by
  induction node using childInduction generalizing above with
  | step node ih =>
    rw [preorder_eq, preorderAll_eq, List.mem_cons, List.mem_flatMap] at mem
    rcases mem with rfl | ⟨child, inside, deeper⟩
    · exact laid
    · exact ih child inside (laid.child inside) deeper

end Node

end SliceGuard.Syntax
