import Mathlib.Data.List.Forall2
import Mathlib.Data.Option.Basic
import SliceGuard.Syntax.Node

/-!
# Trees at other places

Relocating a tree gives every node another span and leaves all else as it is.  Whatever is read off a
tree without a look at its spans commutes with that.  Scopes do compare spans, so there the relocation
has to keep their order.
-/

namespace SliceGuard.Syntax

namespace Node

/-- The name of a type, at no place of its own. -/
def typeNamed (role : Option Role) (name : String) : Node :=
  mk .typeIdentifier role default name []

mutual

/-- The same tree with every span moved. -/
def relocate (move : Span → Span) : Node → Node
  | mk kind role span text children =>
    mk kind role (move span) text (relocateAll move children)

def relocateAll (move : Span → Span) : List Node → List Node
  | [] => []
  | node :: rest => node.relocate move :: relocateAll move rest

end

theorem relocateAll_eq (move : Span → Span) (nodes : List Node) :
    relocateAll move nodes = nodes.map (relocate move) := by
  induction nodes with
  | nil => rw [relocateAll, List.map_nil]
  | cons node rest ih => rw [relocateAll, ih, List.map_cons]

section

variable (move : Span → Span)

theorem relocate_eq (node : Node) :
    node.relocate move =
      mk node.kind node.role (move node.span) node.text (node.children.map (relocate move)) := by
  cases node
  rw [relocate, relocateAll_eq]
  rfl

@[simp] theorem kind_relocate (node : Node) : (node.relocate move).kind = node.kind := by
  rw [relocate_eq, kind_mk]

@[simp] theorem role_relocate (node : Node) : (node.relocate move).role = node.role := by
  rw [relocate_eq, role_mk]

@[simp] theorem span_relocate (node : Node) : (node.relocate move).span = move node.span := by
  rw [relocate_eq, span_mk]

@[simp] theorem text_relocate (node : Node) : (node.relocate move).text = node.text := by
  rw [relocate_eq, text_mk]

@[simp] theorem children_relocate (node : Node) :
    (node.relocate move).children = node.children.map (relocate move) := by
  rw [relocate_eq, children_mk]

@[simp] theorem isNamed_relocate (node : Node) : (node.relocate move).isNamed = node.isNamed := by
  simp [isNamed]

@[simp] theorem plays_relocate (role : Role) (node : Node) :
    (node.relocate move).plays role = node.plays role := by
  simp [plays]

theorem find?_map_relocate {p q : Node → Bool} (same : ∀ node, p (node.relocate move) = q node)
    (nodes : List Node) :
    (nodes.map (relocate move)).find? p = (nodes.find? q).map (relocate move) := by
  rw [List.find?_map]
  congr 2
  funext node
  exact same node

theorem filter_map_relocate {p q : Node → Bool} (same : ∀ node, p (node.relocate move) = q node)
    (nodes : List Node) :
    (nodes.map (relocate move)).filter p = (nodes.filter q).map (relocate move) := by
  rw [List.filter_map]
  congr 2
  funext node
  exact same node

@[simp] theorem named_relocate (node : Node) :
    (node.relocate move).named = node.named.map (relocate move) := by
  rw [named, children_relocate]
  exact filter_map_relocate move (isNamed_relocate move) _

@[simp] theorem child?_relocate (role : Role) (node : Node) :
    (node.relocate move).child? role = (node.child? role).map (relocate move) := by
  rw [child?, children_relocate]
  exact find?_map_relocate move (plays_relocate move role) _

@[simp] theorem childrenIn_relocate (role : Role) (node : Node) :
    (node.relocate move).childrenIn role = (node.childrenIn role).map (relocate move) := by
  rw [childrenIn, children_relocate]
  exact filter_map_relocate move (plays_relocate move role) _

/-- A descent that looks at no span leads to the same node at its other place. -/
theorem descend_relocate {rule : Kind → Option (Node → Bool)}
    (blind : ∀ kind picks, rule kind = some picks → ∀ node, picks (relocate move node) = picks node)
    (node : Node) :
    (node.relocate move).descend rule = (node.descend rule).map (relocate move) := by
  induction node using childInduction with
  | step node ih =>
    cases picked : rule node.kind with
    | none =>
      rw [descend_of_rule_eq_none picked, descend_of_rule_eq_none (by simpa using picked)]
      rfl
    | some picks =>
      have again : rule (node.relocate move).kind = some picks := by simpa using picked
      rw [descend_of_rule_eq_some picked, descend_of_rule_eq_some again, children_relocate,
        find?_map_relocate move (blind _ _ picked)]
      cases first : node.children.find? picks with
      | none => rfl
      | some child =>
        exact ih child (List.mem_of_find?_eq_some first)

theorem withoutParentheses_relocate (node : Node) :
    (node.relocate move).withoutParentheses =
      node.withoutParentheses.map (relocate move) := by
  apply descend_relocate
  intro kind picks rule
  unfold parenthesesRule at rule
  split at rule
  · obtain rfl := Option.some.inj rule
    simp
  · cases rule

end

theorem relocate_relocate (first second : Span → Span) (node : Node) :
    (node.relocate first).relocate second = node.relocate (second ∘ first) := by
  induction node using childInduction with
  | step node ih =>
    rw [relocate_eq second, relocate_eq (second ∘ first)]
    simp only [kind_relocate, role_relocate, span_relocate, text_relocate, children_relocate,
      List.map_map, Function.comp_apply, mk.injEq, true_and]
    exact List.map_congr_left ih

@[simp] theorem relocate_id (node : Node) : node.relocate id = node := by
  induction node using childInduction with
  | step node ih =>
    have children : node.children.map (relocate id) = node.children :=
      (List.map_congr_left ih).trans (List.map_id _)
    rw [relocate_eq, children]
    cases node
    rfl

theorem map_relocate_id (nodes : List Node) : nodes.map (relocate id) = nodes :=
  (List.map_congr_left fun node _ => relocate_id node).trans (List.map_id nodes)

@[simp] theorem size_relocate (move : Span → Span) (node : Node) :
    (node.relocate move).size = node.size := by
  have all (nodes : List Node) (same : ∀ child ∈ nodes, (child.relocate move).size = child.size) :
      sizeAll (nodes.map (relocate move)) = sizeAll nodes := by
    induction nodes with
    | nil => rfl
    | cons child rest ih =>
      rw [List.map_cons, sizeAll, sizeAll, same child (by simp),
        ih fun other mem => same other (by simp [mem])]
  induction node using childInduction with
  | step node ih => rw [size_eq, size_eq node, children_relocate, all _ ih]

/-- The tree without its spans. -/
def bare (node : Node) : Node :=
  node.relocate fun _ => default

@[simp] theorem bare_relocate (move : Span → Span) (node : Node) :
    (node.relocate move).bare = node.bare :=
  relocate_relocate move _ node

@[simp] theorem bare_comp_relocate (move : Span → Span) : bare ∘ relocate move = bare := by
  funext node
  exact bare_relocate move node

@[simp] theorem kind_bare (node : Node) : node.bare.kind = node.kind := kind_relocate _ node

@[simp] theorem text_bare (node : Node) : node.bare.text = node.text := text_relocate _ node

@[simp] theorem child?_bare (role : Role) (node : Node) :
    node.bare.child? role = (node.child? role).map bare :=
  child?_relocate _ role node

/-- What is picked without a look at the spans is the same in lists that differ in their spans. -/
theorem find?_of_bares {picks : Node → Bool}
    (blind : ∀ node, picks (relocate (fun _ => default) node) = picks node)
    {nodes others : List Node} (same : others.map bare = nodes.map bare) :
    (others.find? picks).map bare = (nodes.find? picks).map bare := by
  have picked (nodes : List Node) : (nodes.find? picks).map bare = (nodes.map bare).find? picks :=
    (find?_map_relocate _ blind nodes).symm
  rw [picked, picked, same]

mutual

/-- The spans of all nodes of a tree. -/
def spans : Node → List Span
  | mk _ _ span _ children => span :: spansAll children

def spansAll : List Node → List Span
  | [] => []
  | node :: rest => node.spans ++ spansAll rest

end

theorem spansAll_eq (nodes : List Node) : spansAll nodes = nodes.flatMap spans := by
  induction nodes with
  | nil => rw [spansAll, List.flatMap_nil]
  | cons node rest ih => rw [spansAll, ih, List.flatMap_cons]

theorem spansAll_append (first second : List Node) :
    spansAll (first ++ second) = spansAll first ++ spansAll second := by
  rw [spansAll_eq, spansAll_eq, spansAll_eq, List.flatMap_append]

theorem spans_eq (node : Node) : node.spans = node.span :: node.children.flatMap spans := by
  cases node
  rw [spans, spansAll_eq]
  rfl

theorem span_mem_spans (node : Node) : node.span ∈ node.spans := by
  rw [spans_eq]
  exact List.mem_cons_self

theorem spans_subset_of_mem {node : Node} {nodes : List Node} (mem : node ∈ nodes) :
    node.spans ⊆ spansAll nodes := by
  rw [spansAll_eq]
  exact fun span inNode => List.mem_flatMap.2 ⟨node, mem, inNode⟩

theorem spans_subset_of_mem_children {node child : Node} (mem : child ∈ node.children) :
    child.spans ⊆ node.spans := by
  rw [spans_eq node, ← spansAll_eq]
  exact List.Subset.trans (spans_subset_of_mem mem) (List.subset_cons_self _ _)

end Node

/-- A relocation that keeps the order of some spans: which starts first, and which ends before
another starts. -/
def KeepsOrder (move : Span → Span) (spans : List Span) : Prop :=
  ∀ first ∈ spans, ∀ second ∈ spans,
    ((move first).start < (move second).start ↔ first.start < second.start) ∧
      ((move first).stop ≤ (move second).start ↔ first.stop ≤ second.start)

theorem keepsOrder_id (spans : List Span) : KeepsOrder id spans := by
  intro first _ second _
  exact ⟨Iff.rfl, Iff.rfl⟩

/-- Places that all go on by as many bytes keep their order. -/
theorem keepsOrder_of_shift {move : Span → Span} {spans : List Span} {old new : Nat}
    (shifts : ∀ span ∈ spans, (move span).start + old = span.start + new ∧
      (move span).stop + old = span.stop + new) : KeepsOrder move spans := by
  intro first memFirst second memSecond
  have := shifts first memFirst
  have := shifts second memSecond
  omega

end SliceGuard.Syntax
