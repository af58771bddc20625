import SliceGuard.Proofs.Syntax.Correspondence
import SliceGuard.Proofs.Syntax.Preorder

/-!
# The walk step by step

A walk comes to a node, goes through all nodes below it and leaves it again.  On the way down it
puts each node on a stack, and on the way up it takes the last one off.  So every node is come to
once and left once, in preorder, and the stack holds at each node just the nodes around it.  In
terms of the positions of children, preorder is the lexicographic order of the ways down.
-/

namespace SliceGuard.Syntax

/-- Whether a walk has come to a node, or is done with the node and with all nodes below it. -/
inductive Phase where
  | entering | leaving
deriving DecidableEq

/-- A walk under way: the place of the cursor, and the nodes that it went down through, the
outermost one first. -/
structure Walk where
  cursor : Cursor
  stack : List Node
  phase : Phase

/-- What a step of a walk comes to. -/
inductive Turn where
  | on (walk : Walk)
  | ended
  /-- A node was to be taken off an empty stack. -/
  | failed

/-- A site as a walk shows it: the node with the nodes around it, the outermost one first. -/
def Site.shown (site : Site) : Node × List Node :=
  (site.node, site.above.reverse)

namespace Walk

def start (root : Node) : Walk :=
  ⟨.root root, [], .entering⟩

/-- Go down to the first child, or else on to the next sibling, or else up to the parent. -/
def step (walk : Walk) : Turn :=
  match walk.phase with
  | .entering =>
    match walk.cursor.firstChild? with
    | some child => .on ⟨child, walk.stack ++ [walk.cursor.node], .entering⟩
    | none => .on ⟨walk.cursor, walk.stack, .leaving⟩
  | .leaving =>
    match walk.cursor.nextSibling? with
    | some sibling => .on ⟨sibling, walk.stack, .entering⟩
    | none =>
      match walk.cursor.parent? with
      | some parent =>
        if walk.stack.isEmpty then .failed else .on ⟨parent, walk.stack.dropLast, .leaving⟩
      | none => .ended

/-- The access that a walk yields when it comes to one, with the stack at that moment. -/
def yielded (walk : Walk) : List (Node × List Node) :=
  if walk.phase = .entering ∧ walk.cursor.node.kind.isAccess then
    [(walk.cursor.node, walk.stack)]
  else []

/-- The walks that end after a number of turns, with all that they yield on the way. -/
inductive Runs : Walk → Nat → List (Node × List Node) → Prop
  | ended {walk : Walk} (ends : walk.step = .ended) : Runs walk 1 walk.yielded
  | on {walk next : Walk} {turns : Nat} {yields : List (Node × List Node)}
      (moves : walk.step = .on next) (after : Runs next turns yields) :
      Runs walk (turns + 1) (walk.yielded ++ yields)

/-- A walk has only one way to go. -/
theorem Runs.unique {walk : Walk} {turns turns' : Nat} {yields yields' : List (Node × List Node)}
    (runs : Runs walk turns yields) (runs' : Runs walk turns' yields') :
    turns' = turns ∧ yields' = yields := by
  induction runs generalizing turns' yields' with
  | ended ends =>
    cases runs' with
    | ended => exact ⟨rfl, rfl⟩
    | on moves => simp [ends] at moves
  | on moves _ ih =>
    cases runs' with
    | ended ends => simp [moves] at ends
    | on moves' after =>
      obtain rfl : _ = _ := Turn.on.inj (moves'.symm.trans moves)
      obtain ⟨rfl, rfl⟩ := ih after
      exact ⟨rfl, rfl⟩

/-- The accesses among some sites, as a walk shows them. -/
def shownAccesses (sites : List Site) : List (Node × List Node) :=
  (sites.filter (·.node.kind.isAccess)).map Site.shown

theorem shownAccesses_append (first second : List Site) :
    shownAccesses (first ++ second) = shownAccesses first ++ shownAccesses second := by
  simp [shownAccesses]

theorem yielded_leaving (cursor : Cursor) (stack : List Node) :
    yielded ⟨cursor, stack, .leaving⟩ = [] := by
  simp [yielded]

theorem shownAccesses_preorder (cursor : Cursor) (stack : List Node) :
    shownAccesses (cursor.node.preorder stack.reverse) =
      yielded ⟨cursor, stack, .entering⟩ ++
        shownAccesses (Node.preorderAll (cursor.node :: stack.reverse) cursor.node.children) := by
  rw [Node.preorder_eq]
  by_cases access : cursor.node.kind.isAccess <;>
    simp [shownAccesses, yielded, Site.shown, access]

section

variable {node : Node} {later : List Node} {above : List (Node × List Node)} {stack : List Node}
  {turns : Nat} {yields : List (Node × List Node)}

/-- From the last child a walk goes up, and its stack is what it was before the first child. -/
theorem step_leaving_last (child : Node) :
    step ⟨⟨child, [], (node, later) :: above⟩, stack ++ [node], .leaving⟩ =
      .on ⟨⟨node, later, above⟩, stack, .leaving⟩ := by
  simp [step, Cursor.nextSibling?, Cursor.parent?]

theorem step_leaving_next (child sibling : Node) :
    step ⟨⟨child, sibling :: later, above⟩, stack, .leaving⟩ =
      .on ⟨⟨sibling, later, above⟩, stack, .entering⟩ := by
  simp [step, Cursor.nextSibling?]

/-- What a walk does before it leaves a node with a given stack. -/
def Visits (node : Node) : Prop :=
  ∀ (later : List Node) (above : List (Node × List Node)) (stack : List Node) (turns : Nat)
    (yields : List (Node × List Node)),
    Runs ⟨⟨node, later, above⟩, stack, .leaving⟩ turns yields →
      Runs ⟨⟨node, later, above⟩, stack, .entering⟩ (2 * Node.sizeAll node.children + 1 + turns)
        (shownAccesses (node.preorder stack.reverse) ++ yields)

/-- From a child on, a walk visits the child and the siblings after it and leaves their parent. -/
theorem runs_siblings {child : Node} {siblings : List Node}
    (visits : ∀ part ∈ child :: siblings, Visits part)
    (after : Runs ⟨⟨node, later, above⟩, stack, .leaving⟩ turns yields) :
    Runs ⟨⟨child, siblings, (node, later) :: above⟩, stack ++ [node], .entering⟩
      (2 * Node.sizeAll (child :: siblings) + turns)
      (shownAccesses (Node.preorderAll (node :: stack.reverse) (child :: siblings)) ++ yields) := by
  have path : (stack ++ [node]).reverse = node :: stack.reverse := by simp
  induction siblings generalizing child with
  | nil =>
    have leave := Runs.on (step_leaving_last child) after
    have run := visits child (by simp) _ _ _ _ _ leave
    rw [path, yielded_leaving, List.nil_append] at run
    have count : 2 * Node.sizeAll [child] + turns =
        2 * Node.sizeAll child.children + 1 + (turns + 1) := by
      simp only [Node.sizeAll, Node.size_eq child]
      omega
    rw [count]
    simpa using run
  | cons sibling siblings ih =>
    have rest := @ih sibling fun part mem => visits part (List.mem_cons_of_mem _ mem)
    have leave := Runs.on (step_leaving_next child sibling) rest
    have run := visits child (by simp) _ _ _ _ _ leave
    rw [path, yielded_leaving, List.nil_append] at run
    have count : 2 * Node.sizeAll (child :: sibling :: siblings) + turns =
        2 * Node.sizeAll child.children + 1 +
          (2 * Node.sizeAll (sibling :: siblings) + turns + 1) := by
      simp only [Node.sizeAll, Node.size_eq child]
      omega
    rw [count, Node.preorderAll_cons, shownAccesses_append, List.append_assoc]
    exact run

end

/-- A walk that comes to a node visits it and all nodes below it and leaves it with the stack that
it came with. -/
theorem visits (node : Node) : Visits node := by
  induction node using Node.childInduction with
  | step node ih =>
    intro later above stack turns yields after
    rw [shownAccesses_preorder ⟨node, later, above⟩, List.append_assoc]
    cases children : node.children with
    | nil =>
      have moves : step ⟨⟨node, later, above⟩, stack, .entering⟩ =
          .on ⟨⟨node, later, above⟩, stack, .leaving⟩ := by
        simp [step, Cursor.firstChild?, children]
      have run := Runs.on moves after
      have count : 2 * Node.sizeAll [] + 1 + turns = turns + 1 := by
        simp only [Node.sizeAll]
        omega
      rw [count]
      simpa [children, shownAccesses] using run
    | cons child siblings =>
      have moves : step ⟨⟨node, later, above⟩, stack, .entering⟩ =
          .on ⟨⟨child, siblings, (node, later) :: above⟩, stack ++ [node], .entering⟩ := by
        simp [step, Cursor.firstChild?, children]
      have below := runs_siblings (fun part mem => ih part (children ▸ mem)) after
      have run := Runs.on moves below
      have count : 2 * Node.sizeAll (child :: siblings) + 1 + turns =
          2 * Node.sizeAll (child :: siblings) + turns + 1 := by omega
      rw [count]
      exact run

theorem runs_start (root : Node) :
    Runs (start root) (2 * root.size) (shownAccesses root.sites) := by
  have ends : step ⟨.root root, [], .leaving⟩ = .ended := by
    simp [step, Cursor.root, Cursor.nextSibling?, Cursor.parent?]
  have run := visits root [] [] [] _ _ (Runs.ended ends)
  have count : 2 * root.size = 2 * Node.sizeAll root.children + 1 + 1 := by
    rw [Node.size_eq]
    omega
  rw [count]
  simpa [start, Cursor.root, yielded_leaving, Node.sites] using run

end Walk

/-- The site at the end of a way down, which is given by the positions of children. -/
def Site.follow? (site : Site) : List Nat → Option Site
  | [] => some site
  | position :: way =>
    match site.node.children[position]? with
    | some child => (site.below child).follow? way
    | none => none

namespace Node

/-- Some ways down that lead to some sites, one by one and in lexicographic order. -/
structure Ways (follow? : List Nat → Option Site) (ways : List (List Nat)) (sites : List Site) :
    Prop where
  ordered : ways.Pairwise (· < ·)
  complete : ∀ way site, follow? way = some site → way ∈ ways
  leads : List.Forall₂ (fun way site => follow? way = some site) ways sites

/-- The site at the end of a way that starts with the position of a sibling. -/
def followAmong? (above : List Node) (nodes : List Node) (first : Nat) :
    List Nat → Option Site
  | [] => none
  | position :: way =>
    if first ≤ position then
      match nodes[position - first]? with
      | some node => (Site.mk node above).follow? way
      | none => none
    else none

theorem exists_ways_among {above nodes : List Node}
    (each : ∀ node ∈ nodes, ∃ ways, Ways (Site.mk node above).follow? ways (node.preorder above))
    (first : Nat) :
    ∃ ways, (∀ way ∈ ways, ∃ position tail, first ≤ position ∧ way = position :: tail) ∧
      Ways (followAmong? above nodes first) ways (preorderAll above nodes) := by
  induction nodes generalizing first with
  | nil =>
    refine ⟨[], by simp, .nil, ?_, .nil⟩
    intro way site leads
    cases way <;> simp [followAmong?] at leads
  | cons node rest ih =>
    obtain ⟨own, below⟩ := each node (by simp)
    obtain ⟨others, starts, beside⟩ := ih (fun part mem => each part (by simp [mem])) (first + 1)
    have here (way : List Nat) :
        followAmong? above (node :: rest) first (first :: way) =
          (Site.mk node above).follow? way := by
      simp [followAmong?]
    have there {position : Nat} (after : first + 1 ≤ position) (way : List Nat) :
        followAmong? above (node :: rest) first (position :: way) =
          followAmong? above rest (first + 1) (position :: way) := by
      have shift : position - first = position - (first + 1) + 1 := by omega
      simp only [followAmong?, after, Nat.le_of_succ_le after, if_true, shift,
        List.getElem?_cons_succ]
    refine ⟨own.map (first :: ·) ++ others, ?_, ?_, ?_, ?_⟩
    · intro way mem
      rcases List.mem_append.1 mem with mem | mem
      · obtain ⟨tail, _, rfl⟩ := List.mem_map.1 mem
        exact ⟨first, tail, Nat.le_refl _, rfl⟩
      · obtain ⟨position, tail, after, rfl⟩ := starts way mem
        exact ⟨position, tail, by omega, rfl⟩
    · rw [List.pairwise_append]
      refine ⟨?_, beside.ordered, ?_⟩
      · rw [List.pairwise_map]
        exact below.ordered.imp fun less => List.cons_lt_cons_iff.2 (.inr ⟨rfl, less⟩)
      · intro way mem way' mem'
        obtain ⟨tail, _, rfl⟩ := List.mem_map.1 mem
        obtain ⟨position, tail', after, rfl⟩ := starts way' mem'
        exact List.cons_lt_cons_iff.2 (.inl (by omega))
    · intro way site leads
      cases way with
      | nil => simp [followAmong?] at leads
      | cons position way =>
        by_cases same : position = first
        · subst same
          rw [here] at leads
          exact List.mem_append_left _ (List.mem_map_of_mem (below.complete way site leads))
        · by_cases after : first + 1 ≤ position
          · rw [there after] at leads
            exact List.mem_append_right _ (beside.complete _ site leads)
          · simp [followAmong?, show ¬ first ≤ position by omega] at leads
    · rw [preorderAll_cons]
      apply List.rel_append
      · rw [List.forall₂_map_left_iff]
        exact below.leads.imp fun way site leads => (here way).trans leads
      · refine forall₂_imp_of_mem beside.leads ?_
        intro way mem site leads
        obtain ⟨position, tail, after, rfl⟩ := starts way mem
        rw [there after, leads]

/-- Preorder is the lexicographic order of the ways down. -/
theorem exists_ways (node : Node) (above : List Node) :
    ∃ ways, Ways (Site.mk node above).follow? ways (node.preorder above) := by
  induction node using childInduction generalizing above with
  | step node ih =>
    obtain ⟨ways, starts, below⟩ :=
      exists_ways_among (fun part mem => ih part mem (node :: above)) 0
    have deeper (position : Nat) (way : List Nat) :
        (Site.mk node above).follow? (position :: way) =
          followAmong? (node :: above) node.children 0 (position :: way) := by
      simp only [Site.follow?, followAmong?, Nat.zero_le, if_true, Nat.sub_zero, Site.below]
    refine ⟨[] :: ways, ?_, ?_, ?_⟩
    · refine .cons ?_ below.ordered
      intro way mem
      obtain ⟨position, tail, _, rfl⟩ := starts way mem
      exact List.nil_lt_cons position tail
    · intro way site leads
      cases way with
      | nil => exact List.mem_cons_self
      | cons position way =>
        rw [deeper] at leads
        exact List.mem_cons_of_mem _ (below.complete _ site leads)
    · rw [preorder_eq]
      refine .cons rfl (forall₂_imp_of_mem below.leads ?_)
      intro way mem site leads
      obtain ⟨position, tail, _, rfl⟩ := starts way mem
      rw [deeper, leads]

end Node

/-- The walk of a tree ends, and it yields just the accesses of the tree, once each and in preorder,
each with a stack of the nodes around it.  These are the accesses that are checked. -/
theorem Walk.runs_iff_preorder (root : Node) :
    (∀ turns yields, Runs (start root) turns yields ↔
      turns = 2 * root.size ∧ yields = root.accesses.map Site.shown) ∧
    root.accesses = root.sites.filter (·.node.kind.isAccess) ∧
    ∃ ways : List (List Nat), ways.Pairwise (· < ·) ∧
      (∀ way, way ∈ ways ↔
        ∃ site, (Site.root root).follow? way = some site ∧ site.node.kind.isAccess) ∧
      List.Forall₂ (fun way site => (Site.root root).follow? way = some site) ways
        root.accesses := by
  refine ⟨?_, Node.accesses_eq root, ?_⟩
  · intro turns yields
    rw [Node.accesses_eq]
    constructor
    · exact (runs_start root).unique
    · rintro ⟨rfl, rfl⟩
      exact runs_start root
  · obtain ⟨ways, all⟩ := root.exists_ways []
    have leads : List.Forall₂ (fun way site => (Site.root root).follow? way = some site) ways
        root.sites := all.leads
    let isAccess (way : List Nat) : Bool :=
      ((Site.root root).follow? way).any (·.node.kind.isAccess)
    refine ⟨ways.filter isAccess, all.ordered.filter _, ?_, ?_⟩
    · intro way
      rw [List.mem_filter, Option.any_eq_true]
      constructor
      · exact And.right
      · rintro ⟨site, here, access⟩
        exact ⟨all.complete way site here, site, here, access⟩
    · rw [Node.accesses_eq]
      refine forall₂_filter ?_ leads
      intro way site here
      simp only [isAccess, here, Option.any_some]

end SliceGuard.Syntax
