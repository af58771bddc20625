import SliceGuard.Proofs.Syntax.Rewriting

/-!
# Trees without comments

A comment may stand between any two tokens, as a child of the smallest node around it.  It is a leaf
that plays no role, and whatever is found by its role or by its kind is found without the comments
as well.  A node that holds a comment is no name, and it is not read as one when the comment is
replaced by blanks.
-/

namespace SliceGuard.Syntax

section Kept

variable {α β γ δ : Type} {keep : α → Bool} {move : α → β} {xs : List α}

/-- What is found among all entries is found among those that are kept, if it is one of them. -/
theorem find?_kept {p : α → Bool} {q : β → Bool}
    (same : ∀ x ∈ xs, keep x = true → q (move x) = p x)
    (first : ∀ x, xs.find? p = some x → keep x = true) :
    ((xs.filter keep).map move).find? q = (xs.find? p).map move := by
  induction xs with
  | nil => rfl
  | cons x xs ih =>
    have later := ih fun y mem => same y (List.mem_cons_of_mem _ mem)
    cases holds : p x with
    | true =>
      rw [List.find?_cons_of_pos holds] at first ⊢
      have kept := first x rfl
      have moved : q (move x) = true := by rw [same x List.mem_cons_self kept, holds]
      rw [List.filter_cons_of_pos kept, List.map_cons, List.find?_cons_of_pos moved]
      rfl
    | false =>
      rw [List.find?_cons_of_neg (by simp [holds])] at first ⊢
      cases kept : keep x with
      | false => rw [List.filter_cons_of_neg (by simp [kept]), later first]
      | true =>
        have moved : q (move x) = false := by rw [same x List.mem_cons_self kept, holds]
        rw [List.filter_cons_of_pos kept, List.map_cons, List.find?_cons_of_neg (by simp [moved]),
          later first]

theorem filter_kept {p : α → Bool} {q : β → Bool}
    (same : ∀ x ∈ xs, keep x = true → q (move x) = p x)
    (never : ∀ x ∈ xs, keep x = false → p x = false) :
    ((xs.filter keep).map move).filter q = (xs.filter p).map move := by
  rw [List.filter_map, List.filter_filter]
  congr 1
  apply List.filter_congr
  intro x mem
  cases kept : keep x with
  | true => rw [Bool.and_true, Function.comp_apply, same x mem kept]
  | false => rw [Bool.and_false, never x mem kept]

theorem any_kept {p : α → Bool} {q : β → Bool}
    (same : ∀ x ∈ xs, keep x = true → q (move x) = p x)
    (never : ∀ x ∈ xs, keep x = false → p x = false) :
    ((xs.filter keep).map move).any q = xs.any p := by
  have first (x : α) (found : xs.find? p = some x) : keep x = true := by
    by_contra dropped
    have rejected := never x (List.mem_of_find?_eq_some found) (Bool.eq_false_iff.2 dropped)
    rw [List.find?_some found] at rejected
    cases rejected
  rw [← List.isSome_find?, ← List.isSome_find?, find?_kept same first, Option.isSome_map]

theorem flatMap_kept {f : α → List γ} {g : β → List γ}
    (same : ∀ x ∈ xs, keep x = true → g (move x) = f x)
    (never : ∀ x ∈ xs, keep x = false → f x = []) :
    ((xs.filter keep).map move).flatMap g = xs.flatMap f := by
  induction xs with
  | nil => rfl
  | cons x xs ih =>
    have later := ih (fun y mem => same y (List.mem_cons_of_mem _ mem))
      fun y mem => never y (List.mem_cons_of_mem _ mem)
    cases kept : keep x with
    | true =>
      rw [List.filter_cons_of_pos kept, List.map_cons, List.flatMap_cons, List.flatMap_cons, later,
        same x List.mem_cons_self kept]
    | false =>
      rw [List.filter_cons_of_neg (by simp [kept]), List.flatMap_cons, later,
        never x List.mem_cons_self kept, List.nil_append]

theorem forall₂_flatMap_kept {related : γ → δ → Prop} {f : α → List γ} {g : β → List δ}
    (same : ∀ x ∈ xs, keep x = true → List.Forall₂ related (f x) (g (move x)))
    (never : ∀ x ∈ xs, keep x = false → f x = []) :
    List.Forall₂ related (xs.flatMap f) (((xs.filter keep).map move).flatMap g) := by
  induction xs with
  | nil => exact .nil
  | cons x xs ih =>
    have later := ih (fun y mem => same y (List.mem_cons_of_mem _ mem))
      fun y mem => never y (List.mem_cons_of_mem _ mem)
    cases kept : keep x with
    | true =>
      have here := same x List.mem_cons_self kept
      rw [List.filter_cons_of_pos kept, List.map_cons, List.flatMap_cons, List.flatMap_cons]
      exact (forall₂_append_iff here.length_eq).2 ⟨here, later⟩
    | false =>
      rw [List.filter_cons_of_neg (by simp [kept]), List.flatMap_cons,
        never x List.mem_cons_self kept]
      exact later

theorem rel_findSome?_kept {related : γ → δ → Prop} {f : α → Option γ} {g : β → Option δ}
    (same : ∀ x ∈ xs, keep x = true → Option.Rel related (f x) (g (move x)))
    (never : ∀ x ∈ xs, keep x = false → f x = none) :
    Option.Rel related (xs.findSome? f) (((xs.filter keep).map move).findSome? g) := by
  induction xs with
  | nil => exact .none
  | cons x xs ih =>
    have later := ih (fun y mem => same y (List.mem_cons_of_mem _ mem))
      fun y mem => never y (List.mem_cons_of_mem _ mem)
    cases kept : keep x with
    | true =>
      have here := same x List.mem_cons_self kept
      rw [List.filter_cons_of_pos kept, List.map_cons, List.findSome?_cons, List.findSome?_cons]
      generalize f x = answer, g (move x) = other at here
      cases here with
      | none => exact later
      | some both => exact .some both
    | false =>
      rw [List.filter_cons_of_neg (by simp [kept]), List.findSome?_cons,
        never x List.mem_cons_self kept]
      exact later

/-- The first entry that satisfies `p` is the first of all in both lists or in none, if the first
entry is kept. -/
theorem rel_findIdx?_kept {p : α → Bool} {q : β → Bool}
    (same : ∀ x ∈ xs, keep x = true → q (move x) = p x)
    (never : ∀ x ∈ xs, keep x = false → p x = false)
    (first : ∀ x, xs.head? = some x → keep x = true) :
    Option.Rel (fun position position' => position' = 0 ↔ position = 0) (xs.findIdx? p)
      (((xs.filter keep).map move).findIdx? q) := by
  cases xs with
  | nil => exact .none
  | cons x xs =>
    have kept := first x rfl
    have found : (((xs.filter keep).map move).findIdx? q).isSome = (xs.findIdx? p).isSome := by
      rw [List.findIdx?_isSome, List.findIdx?_isSome]
      exact any_kept (fun y mem => same y (List.mem_cons_of_mem _ mem))
        fun y mem => never y (List.mem_cons_of_mem _ mem)
    rw [List.filter_cons_of_pos kept, List.map_cons, List.findIdx?_cons, List.findIdx?_cons,
      same x List.mem_cons_self kept]
    split
    · exact .some Iff.rfl
    · cases here : xs.findIdx? p with
      | none =>
        rw [here, Option.isSome_none, Option.isSome_eq_false_iff,
          Option.isNone_iff_eq_none] at found
        rw [found]
        exact .none
      | some position =>
        rw [here, Option.isSome_some, Option.isSome_iff_exists] at found
        obtain ⟨position', there⟩ := found
        rw [there]
        exact .some (by simp)

end Kept

namespace Node

/-- What holds of a node and of all nodes below it. -/
def Everywhere (p : Node → Prop) (node : Node) : Prop :=
  ∀ site ∈ node.sites, p site.node

namespace Everywhere

variable {p : Node → Prop} {node : Node}

theorem here (all : Everywhere p node) : p node :=
  all ⟨node, []⟩ node.mem_sites_root

theorem child (all : Everywhere p node) {part : Node} (mem : part ∈ node.children) :
    Everywhere p part := by
  intro site inside
  have listed : site.node ∈ (part.preorder [node]).map Site.node := by
    rw [map_node_preorder part [node] []]
    exact List.mem_map_of_mem inside
  obtain ⟨site', inside', same⟩ := List.mem_map.1 listed
  rw [← same]
  refine all site' ?_
  rw [sites, preorder_eq, preorderAll_eq]
  exact List.mem_cons_of_mem _ (List.mem_flatMap.2 ⟨part, mem, inside'⟩)

theorem imp {q : Node → Prop} (all : Everywhere p node) (finer : ∀ node, p node → q node) :
    Everywhere q node :=
  fun site inside => finer site.node (all site inside)

theorem within {root : Node} (all : Everywhere p root) {site : Site}
    (within : Site.Within root site) :
    Everywhere p site.node ∧ ∀ node ∈ site.above, Everywhere p node := by
  induction within with
  | root => exact ⟨all, by simp⟩
  | step outer mem ih =>
    refine ⟨ih.1.child mem, ?_⟩
    intro node around
    rcases List.mem_cons.1 around with rfl | farther
    · exact ih.1
    · exact ih.2 node farther

theorem everywhere (all : Everywhere p node) : Everywhere (Everywhere p) node :=
  fun _ inside => (all.within (Site.within_of_mem_sites inside)).1

theorem descend {rule : Kind → Option (Node → Bool)} (all : Everywhere p node) {found : Node}
    (reached : node.descend rule = some found) : Everywhere p found := by
  induction node using childInduction with
  | step node ih =>
    cases goes : rule node.kind with
    | none =>
      rw [descend_of_rule_eq_none goes, Option.some.injEq] at reached
      rwa [← reached]
    | some picks =>
      rw [descend_of_rule_eq_some goes] at reached
      obtain ⟨part, first, deeper⟩ := Option.bind_eq_some_iff.1 reached
      have mem := List.mem_of_find?_eq_some first
      exact ih part mem (all.child mem) deeper

end Everywhere

def isComment (node : Node) : Bool :=
  node.kind == .comment

/-- Whether a node is a comment or holds one. -/
def hasComment (node : Node) : Bool :=
  node.sites.any (·.node.isComment)

mutual

/-- A tree without its comments.  The nodes that held some are read as `texts` says. -/
def withoutComments (texts : Node → String) : Node → Node
  | mk kind role span text children =>
    let node := mk kind role span text children
    mk kind role span (if node.hasComment then texts node else text)
      (withoutCommentsAll texts children)

def withoutCommentsAll (texts : Node → String) : List Node → List Node
  | [] => []
  | node :: rest =>
    if node.isComment then withoutCommentsAll texts rest
    else node.withoutComments texts :: withoutCommentsAll texts rest

end

/-- Whether a text can be read as a name: it has neither blanks nor slashes. -/
def isWord (text : String) : Bool :=
  text.toList.all fun letter => letter != ' ' && letter != '/'

def startsWithComment (node : Node) : Bool :=
  node.named.head?.any isComment

/-- What holds of every node that is read from a source: comments are leaves without a role, what is
read as it is written is a leaf, and a node with a comment is not read as a name, neither with the
comment nor without it.  Constants are not specified among variables, and no comment stands before
the first target of a range. -/
@[mk_iff]
structure Tidy (texts : Node → String) (node : Node) : Prop where
  comment : node.isComment = true → node.role = none ∧ node.children = []
  spelled : node.isSpelled = true → node.children = []
  word : node.isName = true → isWord node.text = true
  unread : node.hasComment = true → isWord node.text = false ∧ isWord (texts node) = false
  specs : node.kind = .varDeclaration ∨ node.kind = .varSpecList →
    ∀ child ∈ node.children, child.kind ≠ .constSpec
  targets : node.kind = .rangeClause → (node.child? .left).any startsWithComment = false

instance (texts : Node → String) (node : Node) : Decidable (Tidy texts node) :=
  decidable_of_iff _ (tidy_iff texts node).symm

variable {texts : Node → String} {node : Node}

theorem withoutCommentsAll_eq (nodes : List Node) :
    withoutCommentsAll texts nodes =
      (nodes.filter (!·.isComment)).map (withoutComments texts) := by
  induction nodes with
  | nil => rw [withoutCommentsAll]; rfl
  | cons node rest ih =>
    rw [withoutCommentsAll, ih]
    cases comment : node.isComment <;> simp [comment]

@[simp] theorem kind_withoutComments : (node.withoutComments texts).kind = node.kind := by
  cases node
  rw [withoutComments]
  rfl

@[simp] theorem role_withoutComments : (node.withoutComments texts).role = node.role := by
  cases node
  rw [withoutComments]
  rfl

@[simp] theorem span_withoutComments : (node.withoutComments texts).span = node.span := by
  cases node
  rw [withoutComments]
  rfl

@[simp] theorem start_withoutComments : (node.withoutComments texts).start = node.start := by
  rw [start, start, span_withoutComments]

@[simp] theorem stop_withoutComments : (node.withoutComments texts).stop = node.stop := by
  rw [stop, stop, span_withoutComments]

@[simp] theorem isComment_withoutComments :
    (node.withoutComments texts).isComment = node.isComment := by
  rw [isComment, isComment, kind_withoutComments]

@[simp] theorem isNamed_withoutComments : (node.withoutComments texts).isNamed = node.isNamed := by
  rw [isNamed, isNamed, kind_withoutComments]

@[simp] theorem plays_withoutComments (role : Role) :
    (node.withoutComments texts).plays role = node.plays role := by
  rw [plays, plays, role_withoutComments]

theorem text_withoutComments :
    (node.withoutComments texts).text = if node.hasComment then texts node else node.text := by
  cases node
  rw [withoutComments]
  rfl

theorem children_withoutComments : (node.withoutComments texts).children =
    (node.children.filter (!·.isComment)).map (withoutComments texts) := by
  cases node
  rw [withoutComments, ← withoutCommentsAll_eq]
  rfl

section

variable (tidy : Everywhere (Tidy texts) node)

include tidy

/-- A child that plays a role is no comment. -/
theorem isComment_of_role {child : Node} (mem : child ∈ node.children) {role : Role}
    (plays : child.role = some role) : child.isComment = false := by
  by_contra comment
  rw [Bool.not_eq_false] at comment
  rw [((tidy.child mem).here.comment comment).1] at plays
  cases plays

theorem isComment_of_child? {role : Role} {child : Node} (found : node.child? role = some child) :
    child.isComment = false :=
  isComment_of_role tidy (mem_children_of_child? found) (role_of_child? found)

/-- What is read as it is written stays as it is. -/
theorem text_of_isSpelled (spelled : node.isSpelled = true) (other : node.isComment = false) :
    (node.withoutComments texts).text = node.text := by
  have none : node.hasComment = false := by
    rw [hasComment, sites, preorder_eq, tidy.here.spelled spelled, preorderAll_nil]
    simp [other]
  rw [text_withoutComments, none, if_neg Bool.false_ne_true]

theorem text_of_isName (isName : node.isName = true) :
    (node.withoutComments texts).text = node.text := by
  apply text_of_isSpelled tidy
  · rw [isSpelled, isName, Bool.true_or, Bool.true_or, Bool.true_or]
  · rw [Node.isName, Bool.or_eq_true, beq_iff_eq, beq_iff_eq] at isName
    rcases isName with kind | kind <;> simp [isComment, kind]

/-- No name tells a node from what it is without comments. -/
theorem readAlike_withoutComments :
    ReadAlike (fun name => isWord name = true) node (node.withoutComments texts) := by
  rw [ReadAlike, text_withoutComments]
  cases holds : node.hasComment with
  | false => exact .inl rfl
  | true =>
    obtain ⟨unread, unread'⟩ := tidy.here.unread holds
    rw [if_pos rfl, unread, unread']
    exact .inr ⟨Bool.false_ne_true, Bool.false_ne_true⟩

theorem child?_withoutComments (role : Role) :
    (node.withoutComments texts).child? role = (node.child? role).map (withoutComments texts) := by
  rw [child?, child?, children_withoutComments]
  apply find?_kept (fun _ _ _ => plays_withoutComments role)
  intro child found
  rw [isComment_of_child? tidy found]
  rfl

theorem childrenIn_withoutComments (role : Role) :
    (node.withoutComments texts).childrenIn role =
      (node.childrenIn role).map (withoutComments texts) := by
  rw [childrenIn, childrenIn, children_withoutComments]
  apply filter_kept (fun _ _ _ => plays_withoutComments role)
  intro child mem comment
  rw [Bool.not_eq_false'] at comment
  simp [Node.plays, ((tidy.child mem).here.comment comment).1]

end

theorem named_withoutComments :
    (node.withoutComments texts).named =
      (node.named.filter (!·.isComment)).map (withoutComments texts) := by
  rw [named, named, children_withoutComments, List.filter_map, List.filter_filter,
    List.filter_filter]
  congr 1
  apply List.filter_congr
  intro child _
  rw [Function.comp_apply, isNamed_withoutComments, Bool.and_comm]

/-- A descent that passes no comment goes the same way without the comments. -/
theorem descend_withoutComments {rule : Kind → Option (Node → Bool)}
    (blind : ∀ kind picks, rule kind = some picks →
      ∀ node : Node, picks (node.withoutComments texts) = picks node)
    (firsts : Everywhere (fun node => ∀ picks, rule node.kind = some picks →
      ∀ child, node.children.find? picks = some child → child.isComment = false) node) :
    (node.withoutComments texts).descend rule =
      (node.descend rule).map (withoutComments texts) := by
  induction node using childInduction with
  | step node ih =>
    cases goes : rule node.kind with
    | none =>
      rw [descend_of_rule_eq_none goes,
        descend_of_rule_eq_none (by rwa [kind_withoutComments]), Option.map_some]
    | some picks =>
      have again : rule (node.withoutComments texts).kind = some picks := by
        rwa [kind_withoutComments]
      have kept (child : Node) (found : node.children.find? picks = some child) :
          (!child.isComment) = true := by
        rw [firsts.here picks goes child found]
        rfl
      rw [descend_of_rule_eq_some goes, descend_of_rule_eq_some again, children_withoutComments,
        find?_kept (fun child _ _ => blind _ _ goes child) kept]
      cases found : node.children.find? picks with
      | none => rfl
      | some child =>
        have mem := List.mem_of_find?_eq_some found
        exact ih child mem (firsts.child mem)

end Node

namespace Site

variable {texts : Node → String} {site : Site}

def withoutComments (texts : Node → String) (site : Site) : Site :=
  ⟨site.node.withoutComments texts, site.above.map (Node.withoutComments texts)⟩

@[simp] theorem node_withoutComments :
    (site.withoutComments texts).node = site.node.withoutComments texts := rfl

theorem child?_withoutComments (tidy : site.node.Everywhere (Node.Tidy texts)) (role : Role) :
    (site.withoutComments texts).child? role =
      (site.child? role).map (withoutComments texts) := by
  rw [child?, child?, node_withoutComments, Node.child?_withoutComments tidy, Option.map_map,
    Option.map_map]
  rfl

theorem named_withoutComments :
    (site.withoutComments texts).named =
      (site.named.filter (!·.node.isComment)).map (withoutComments texts) := by
  rw [named, named, node_withoutComments, Node.named_withoutComments, List.filter_map,
    List.map_map, List.map_map]
  rfl

end Site

/-- Apart from the comments, the traversal passes the same nodes in the same order. -/
theorem Node.preorder_withoutComments {texts : Node → String} {node : Node}
    (tidy : node.Everywhere (Tidy texts)) (above : List Node) :
    ((node.withoutComments texts).preorder (above.map (withoutComments texts))).filter
        (!·.node.isComment) =
      ((node.preorder above).filter (!·.node.isComment)).map (Site.withoutComments texts) := by
  induction node using childInduction generalizing above with
  | step node ih =>
    have below : (preorderAll ((node :: above).map (withoutComments texts))
        (node.withoutComments texts).children).filter (!·.node.isComment) =
          ((preorderAll (node :: above) node.children).filter (!·.node.isComment)).map
            (Site.withoutComments texts) := by
      rw [preorderAll_eq, preorderAll_eq, children_withoutComments, List.filter_flatMap,
        List.filter_flatMap, List.map_flatMap]
      apply flatMap_kept
      · intro child mem _
        exact ih child mem (tidy.child mem) (node :: above)
      · intro child mem comment
        rw [Bool.not_eq_false'] at comment
        rw [preorder_eq, ((tidy.child mem).here.comment comment).2, preorderAll_nil,
          List.filter_cons_of_neg (by simp [comment]), List.filter_nil, List.map_nil]
    rw [preorder_eq, preorder_eq]
    cases comment : node.isComment with
    | true =>
      rw [List.filter_cons_of_neg (by simp [comment]), List.filter_cons_of_neg (by simp [comment])]
      exact below
    | false =>
      rw [List.filter_cons_of_pos (by simp [comment]), List.filter_cons_of_pos (by simp [comment])]
      exact congrArg₂ List.cons rfl below

theorem Node.sites_withoutComments {texts : Node → String} {root : Node}
    (tidy : root.Everywhere (Tidy texts)) :
    (root.withoutComments texts).sites.filter (!·.node.isComment) =
      (root.sites.filter (!·.node.isComment)).map (Site.withoutComments texts) :=
  preorder_withoutComments tidy []

end SliceGuard.Syntax
