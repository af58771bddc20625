import SliceGuard.Proofs.Syntax.Correspondence
import SliceGuard.Proofs.Syntax.Layout
import SliceGuard.Proofs.Syntax.Relocation

/-!
# Trees that differ in some places

Two versions of a tree have the same shape, apart from some edited nodes below which they may differ
in any way.  A node around an edit keeps its kind and its role, but not its text, so that only texts
that are read as they are written stay the same, as far as the names that are asked for can tell.
Sites of the two versions are twins if they are reached by the same steps, and the siblings of twins
stand in the same order.
-/

namespace SliceGuard.Syntax

def Site.children (site : Site) : List Site :=
  site.node.children.map site.below

namespace Node

def isName (node : Node) : Bool :=
  node.kind == .identifier || node.kind == .typeIdentifier

/-- The nodes that are read as they are written. -/
def isSpelled (node : Node) : Bool :=
  node.isName || node.kind == .token || node.plays .name || node.plays .operator

/-- The kinds of nodes that may be edited: lists of statements, and what declares variables. -/
def editedKinds : List Kind :=
  [.statementList, .shortVarDeclaration, .varSpec, .constSpec, .parameterDeclaration,
    .variadicParameterDeclaration, .rangeClause]

/-- The nodes that may be edited.  None of them is found by its role, except for initializers. -/
def mayDiffer (node : Node) : Bool :=
  editedKinds.contains node.kind && (node.role == none || node.role == some .initializer)

theorem mayDiffer_of_kind {node : Node} {kind : Kind} (here : node.kind = kind)
    (other : editedKinds.contains kind = false) : node.mayDiffer = false := by
  rw [mayDiffer, here, other, Bool.false_and]

theorem mayDiffer_of_role {node : Node} {role : Role} (here : node.role = some role)
    (other : role ≠ .initializer) : node.mayDiffer = false := by
  simp [mayDiffer, here, other]

/-- The nodes whose children are read as they are written, whatever these are: lists of names, and
the parts of signatures. -/
def readsChildren (node : Node) : Bool :=
  node.plays .left || node.plays .caseName || node.kind == .parameterDeclaration ||
    node.kind == .variadicParameterDeclaration || node.kind == .methodDeclaration

/-- A node in two versions, apart from its children. -/
structure Reworded (names : String → Prop) (old new : Node) : Prop where
  kind : new.kind = old.kind
  role : new.role = old.role
  text : old.isSpelled = true → new.text = old.text
  asked : old.isName = true → names old.text

/-- Nodes that no name that is asked for tells apart. -/
def ReadAlike (names : String → Prop) (old new : Node) : Prop :=
  new.text = old.text ∨ ¬ names old.text ∧ ¬ names new.text

/-- A tree all of whose names are asked for. -/
inductive Asks (names : String → Prop) : Node → Prop
  | intro {node : Node} (here : node.isName = true → names node.text)
      (children : ∀ child ∈ node.children, Asks names child) : Asks names node

/-- Two versions of a tree, which differ below the edited nodes. -/
inductive Rewritten (names : String → Prop) (edit : Node → Node → Prop) : Node → Node → Prop
  | edited {old new : Node} (head : Reworded names old new) (may : old.mayDiffer = true)
      (here : edit old new) : Rewritten names edit old new
  | spread {old new : Node} (head : Reworded names old new)
      (children : List.Forall₂ (Rewritten names edit) old.children new.children)
      (read : old.readsChildren = true →
        List.Forall₂ (ReadAlike names) old.children new.children) : Rewritten names edit old new

section

variable {names : String → Prop} {edit : Node → Node → Prop} {old new : Node}

namespace Reworded

theorem isNamed (head : Reworded names old new) : new.isNamed = old.isNamed := by
  rw [Node.isNamed, Node.isNamed, head.kind]

theorem plays (head : Reworded names old new) (role : Role) : new.plays role = old.plays role := by
  rw [Node.plays, Node.plays, head.role]

theorem text_of_kind (head : Reworded names old new)
    (kind : old.kind = .identifier ∨ old.kind = .typeIdentifier ∨ old.kind = .token) :
    new.text = old.text := by
  apply head.text
  rcases kind with kind | kind | kind <;> simp [isSpelled, isName, kind]

theorem text_of_role (head : Reworded names old new)
    (role : old.role = some .name ∨ old.role = some .operator) : new.text = old.text := by
  apply head.text
  rcases role with role | role <;> simp [isSpelled, Node.plays, role]

end Reworded

/-- A name that is asked for is found in both versions or in none. -/
theorem ReadAlike.beq_text (read : ReadAlike names old new) {name : String} (asked : names name) :
    (new.text == name) = (old.text == name) := by
  rcases read with same | ⟨unasked, unasked'⟩
  · rw [same]
  · have first : new.text ≠ name := by
      rintro rfl
      exact unasked' asked
    have second : old.text ≠ name := by
      rintro rfl
      exact unasked asked
    rw [beq_false_of_ne first, beq_false_of_ne second]

theorem text_of_bare (same : new.bare = old.bare) : new.text = old.text := by
  rw [← text_bare, same, text_bare]

theorem readAlike_of_bares {nodes others : List Node}
    (same : others.map bare = nodes.map bare) :
    List.Forall₂ (ReadAlike names) nodes others :=
  (forall₂_of_map_eq same).imp fun _ _ equal => .inl (text_of_bare equal)

theorem Asks.here {node : Node} (asks : Asks names node) :
    node.isName = true → names node.text := by
  cases asks with
  | intro here children => exact here

theorem Asks.child {node part : Node} (asks : Asks names node) (mem : part ∈ node.children) :
    Asks names part := by
  cases asks with
  | intro here children => exact children part mem

theorem asks_of_sites {root : Node}
    (asked : ∀ site ∈ root.sites, site.node.isName = true → names site.node.text) :
    Asks names root :=
  sitesInduction fun site inside below => .intro (asked site inside) below

def noEdit (_ _ : Node) : Prop :=
  False

inductive Untouched (edit : Node → Node → Prop) : Node → Prop
  | intro {node : Node} (here : ∀ new, ¬ edit node new)
      (children : ∀ child ∈ node.children, Untouched edit child) : Untouched edit node

theorem Untouched.child {node part : Node} (untouched : Untouched edit node)
    (mem : part ∈ node.children) : Untouched edit part := by
  cases untouched with
  | intro here children => exact children part mem

theorem untouched_of_sites {root : Node}
    (unedited : ∀ site ∈ root.sites, ∀ new, ¬ edit site.node new) : Untouched edit root :=
  sitesInduction fun site inside below => .intro (unedited site inside) below

theorem children_of_bare (same : new.bare = old.bare) :
    new.children.map bare = old.children.map bare := by
  have below := congrArg Node.children same
  rwa [bare, bare, children_relocate, children_relocate] at below

namespace Rewritten

theorem head (same : Rewritten names edit old new) : Reworded names old new := by
  cases same with
  | edited head _ _ => exact head
  | spread head _ _ => exact head

theorem kind (same : Rewritten names edit old new) : new.kind = old.kind :=
  same.head.kind

theorem children (same : Rewritten names edit old new) (must : old.mayDiffer = false) :
    List.Forall₂ (Rewritten names edit) old.children new.children := by
  cases same with
  | edited _ may _ => simp [may] at must
  | spread _ children _ => exact children

theorem read (same : Rewritten names edit old new) (must : old.mayDiffer = false)
    (reads : old.readsChildren = true) :
    List.Forall₂ (ReadAlike names) old.children new.children := by
  cases same with
  | edited _ may _ => simp [may] at must
  | spread _ _ read => exact read reads

theorem readNamed (same : Rewritten names edit old new) (must : old.mayDiffer = false)
    (reads : old.readsChildren = true) :
    List.Forall₂ (ReadAlike names) old.named new.named := by
  have both := forall₂_filter (fun _ _ part => part.2.1.head.isNamed)
    (forall₂_and_of_mem (same.children must) (same.read must reads))
  exact both.imp fun _ _ part => part.2.2

theorem child? (same : Rewritten names edit old new) (must : old.mayDiffer = false)
    (role : Role) :
    Option.Rel (Rewritten names edit) (old.child? role) (new.child? role) :=
  rel_find? (fun _ _ part => part.head.plays role) (same.children must)

theorem named (same : Rewritten names edit old new) (must : old.mayDiffer = false) :
    List.Forall₂ (Rewritten names edit) old.named new.named :=
  forall₂_filter (fun _ _ part => part.head.isNamed) (same.children must)

/-- A descent that looks at kinds and roles alone ends at two versions of a node. -/
theorem descend {rule : Kind → Option (Node → Bool)}
    (must : ∀ kind picks, rule kind = some picks → editedKinds.contains kind = false)
    (blind : ∀ kind picks, rule kind = some picks →
      ∀ old new, Reworded names old new → picks new = picks old)
    (same : Rewritten names edit old new) :
    Option.Rel (Rewritten names edit) (old.descend rule) (new.descend rule) := by
  induction old using childInduction generalizing new with
  | step old ih =>
    cases picked : rule old.kind with
    | none =>
      rw [descend_of_rule_eq_none picked, descend_of_rule_eq_none (by rwa [same.kind])]
      exact .some same
    | some picks =>
      have again : rule new.kind = some picks := by rwa [same.kind]
      have first := rel_find? (fun _ _ part => blind _ _ picked _ _ part.head)
        (same.children (mayDiffer_of_kind rfl (must _ _ picked)))
      rw [descend_of_rule_eq_some picked, descend_of_rule_eq_some again]
      cases found : old.children.find? picks with
      | none =>
        rw [found] at first
        rw [eq_none_of_rel_none first]
        exact .none
      | some child =>
        rw [found] at first
        obtain ⟨child', found', part⟩ := exists_of_rel_some first
        rw [found']
        exact ih child (List.mem_of_find?_eq_some found) part

theorem withoutParentheses (same : Rewritten names edit old new) :
    Option.Rel (Rewritten names edit) old.withoutParentheses new.withoutParentheses := by
  apply same.descend
  · intro kind picks rule
    unfold parenthesesRule at rule
    split at rule
    · rfl
    · cases rule
  · intro kind picks rule old new head
    unfold parenthesesRule at rule
    split at rule
    · obtain rfl := Option.some.inj rule
      simp only [head.isNamed, head.kind]
    · cases rule

theorem mono {edit' : Node → Node → Prop} (more : ∀ old new, edit old new → edit' old new)
    (same : Rewritten names edit old new) : Rewritten names edit' old new := by
  induction old using childInduction generalizing new with
  | step old ih =>
    cases same with
    | edited head may here => exact .edited head may (more old new here)
    | spread head children read =>
      exact .spread head (forall₂_imp_of_mem children fun child mem _ => ih child mem) read

theorem unedited (untouched : Untouched edit old) (same : Rewritten names edit old new) :
    Rewritten names noEdit old new := by
  induction old using childInduction generalizing new with
  | step old ih =>
    cases untouched with
    | intro unedited below =>
      cases same with
      | edited _ _ here => exact absurd here (unedited new)
      | spread head children read =>
        refine .spread head (forall₂_imp_of_mem children ?_) read
        intro child mem child' part
        exact ih child mem (below child mem) part

/-- A tree at another place is another version of it, where all its names are asked for. -/
theorem of_bare (asks : Asks names old) (same : new.bare = old.bare) :
    Rewritten names edit old new := by
  induction old using childInduction generalizing new with
  | step old ih =>
    have head : Reworded names old new := by
      have kind : new.kind = old.kind := by rw [← kind_bare, same, kind_bare]
      have role : new.role = old.role := by
        have roles := congrArg Node.role same
        simpa [bare] using roles
      exact ⟨kind, role, fun _ => text_of_bare same, asks.here⟩
    have bares := children_of_bare same
    refine .spread head (forall₂_imp_of_mem (forall₂_of_map_eq bares) ?_)
      fun _ => readAlike_of_bares bares
    intro child mem child' equal
    exact ih child mem (asks.child mem) equal

end Rewritten

end

/-- A tree whose nodes follow one another without overlap, and whose nodes are not empty, except
perhaps for the tokens that play no role. -/
inductive Solid : Node → Prop
  | intro {node : Node} (laid : node.LaidOut)
      (filled : ∀ child ∈ node.children, child.isNamed = true ∨ child.role ≠ none →
        child.start < child.stop)
      (below : ∀ child ∈ node.children, Solid child) : Solid node

namespace Solid

variable {node part child : Node}

theorem laidOut (solid : Solid node) : node.LaidOut := by
  cases solid with
  | intro laid filled below => exact laid

theorem filled (solid : Solid node) (mem : part ∈ node.children)
    (counts : part.isNamed = true ∨ part.role ≠ none) : part.start < part.stop := by
  cases solid with
  | intro laid filled below => exact filled part mem counts

theorem step (solid : Solid node) (mem : part ∈ node.children) : Solid part := by
  cases solid with
  | intro laid filled below => exact below part mem

/-- Of the children of a node, the one that stands before another starts and ends before it. -/
theorem order (solid : Solid node) {first second : Nat}
    (here : node.children[first]? = some part) (there : node.children[second]? = some child)
    (counts : part.isNamed = true ∨ part.role ≠ none) :
    (part.start < child.start ↔ first < second) ∧ (part.stop ≤ child.start ↔ first < second) := by
  have filled := solid.filled (List.mem_of_getElem? here) counts
  have proper := (solid.laidOut.child (List.mem_of_getElem? there)).start_le_stop
  have ordered := List.pairwise_iff_getElem.1 solid.laidOut.pairwise
  obtain ⟨inside, rfl⟩ := List.getElem?_eq_some_iff.1 here
  obtain ⟨inside', rfl⟩ := List.getElem?_eq_some_iff.1 there
  rcases Nat.lt_trichotomy first second with before | rfl | after
  · have := ordered first second inside inside' before
    omega
  · omega
  · have := ordered second first inside' inside after
    omega

end Solid

/-- What a solid tree has at each of its nodes. -/
def IsSolidAt (node : Node) : Prop :=
  node.start ≤ node.stop ∧
    (∀ child ∈ node.children, node.start ≤ child.start ∧ child.stop ≤ node.stop ∧
      (child.isNamed = true ∨ child.role ≠ none → child.start < child.stop)) ∧
    node.children.Pairwise fun earlier later => earlier.stop ≤ later.start

instance (node : Node) : Decidable node.IsSolidAt :=
  inferInstanceAs (Decidable (_ ∧ _ ∧ _))

theorem solid_of_sites {root : Node} (all : ∀ site ∈ root.sites, site.node.IsSolidAt) :
    Solid root := by
  apply sitesInduction
  intro site inside below
  obtain ⟨proper, nested, ordered⟩ := all site inside
  refine .intro (.intro proper (fun child mem => ?_) ordered fun child mem => ?_)
    (fun child mem => (nested child mem).2.2) below
  · exact ⟨(nested child mem).1, (nested child mem).2.1⟩
  · exact (below child mem).laidOut

end Node

open Node (Rewritten Reworded)

/-- Sites of two versions that correspond: their trees are two versions of one tree, and where they
are not edited, the sites one step further down correspond. -/
structure Matching (names : String → Prop) (edit : Node → Node → Prop)
    (related : Site → Site → Prop) : Prop where
  node : ∀ {old new : Site}, related old new → Rewritten names edit old.node new.node
  step : ∀ {old new : Site}, related old new →
    old.node.mayDiffer = true ∧ edit old.node new.node ∨
      List.Forall₂ related old.children new.children

namespace Matching

variable {names : String → Prop} {edit : Node → Node → Prop} {related : Site → Site → Prop}
  {old new : Site}

theorem head (matching : Matching names edit related) (here : related old new) :
    Reworded names old.node new.node :=
  (matching.node here).head

theorem kind (matching : Matching names edit related) (here : related old new) :
    new.node.kind = old.node.kind :=
  (matching.head here).kind

theorem text (matching : Matching names edit related) (here : related old new)
    (kind : old.node.kind = .identifier) : new.node.text = old.node.text :=
  (matching.head here).text_of_kind (.inl kind)

theorem children (matching : Matching names edit related) (here : related old new)
    (must : old.node.mayDiffer = false) :
    List.Forall₂ related old.children new.children := by
  rcases matching.step here with ⟨may, _⟩ | children
  · simp [may] at must
  · exact children

theorem child?_of_children (matching : Matching names edit related)
    (children : List.Forall₂ related old.children new.children) (role : Role) :
    Option.Rel related (old.child? role) (new.child? role) := by
  have found := rel_find? (p := fun part : Site => part.node.plays role)
    (q := fun part : Site => part.node.plays role)
    (fun _ _ part => (matching.head part).plays role) children
  unfold Site.children at found
  rw [List.find?_map, List.find?_map] at found
  exact found

theorem named_of_children (matching : Matching names edit related)
    (children : List.Forall₂ related old.children new.children) :
    List.Forall₂ related old.named new.named := by
  have found := forall₂_filter (p := fun part : Site => part.node.isNamed)
    (q := fun part : Site => part.node.isNamed)
    (fun _ _ part => (matching.head part).isNamed) children
  unfold Site.children at found
  rw [List.filter_map, List.filter_map] at found
  exact found

theorem child? (matching : Matching names edit related) (here : related old new)
    (must : old.node.mayDiffer = false) (role : Role) :
    Option.Rel related (old.child? role) (new.child? role) :=
  matching.child?_of_children (matching.children here must) role

theorem named (matching : Matching names edit related) (here : related old new)
    (must : old.node.mayDiffer = false) : List.Forall₂ related old.named new.named :=
  matching.named_of_children (matching.children here must)

theorem rewritten_of_children (matching : Matching names edit related)
    (children : List.Forall₂ related old.children new.children) :
    List.Forall₂ (Rewritten names edit) old.node.children new.node.children := by
  rw [Site.children, Site.children, List.forall₂_map_left_iff,
    List.forall₂_map_right_iff] at children
  exact children.imp fun _ _ part => matching.node part

theorem namedIn_of_children (matching : Matching names edit related)
    (children : List.Forall₂ related old.children new.children) {role : Role}
    (other : role ≠ .initializer) :
    List.Forall₂ related (((old.child? role).map Site.named).getD [])
      (((new.child? role).map Site.named).getD []) := by
  have found := matching.child?_of_children children role
  cases here : old.child? role with
  | none =>
    rw [here] at found
    rw [eq_none_of_rel_none found]
    exact .nil
  | some child =>
    rw [here] at found
    obtain ⟨child', here', part⟩ := exists_of_rel_some found
    rw [here']
    obtain ⟨node, plays, rfl⟩ := Option.map_eq_some_iff.1 here
    exact matching.named part (Node.mayDiffer_of_role (Node.role_of_child? plays) other)

theorem namedIn (matching : Matching names edit related) (here : related old new)
    (must : old.node.mayDiffer = false) {role : Role} (other : role ≠ .initializer) :
    List.Forall₂ related (((old.child? role).map Site.named).getD [])
      (((new.child? role).map Site.named).getD []) :=
  matching.namedIn_of_children (matching.children here must) other

end Matching

/-- Sites that are reached by the same steps from sites where both versions start. -/
inductive Twin (names : String → Prop) (edit : Node → Node → Prop)
    (start : Site → Site → Prop) : Site → Site → Prop
  | start {old new : Site} (here : start old new) : Twin names edit start old new
  | child {old new : Site} {child child' : Node} (outer : Twin names edit start old new)
      (spread : List.Forall₂ (Rewritten names edit) old.node.children new.node.children)
      (position : Nat) (here : old.node.children[position]? = some child)
      (here' : new.node.children[position]? = some child') :
      Twin names edit start (old.below child) (new.below child')

namespace Twin

variable {names : String → Prop} {edit : Node → Node → Prop} {start : Site → Site → Prop}
  {old new : Site}

theorem rewritten (starts : ∀ old new, start old new → Rewritten names edit old.node new.node)
    (twin : Twin names edit start old new) : Rewritten names edit old.node new.node := by
  induction twin with
  | start here => exact starts _ _ here
  | child outer spread position here here' ih =>
    have part := rel_getElem? spread position
    rw [here, here'] at part
    cases part with
    | some same => exact same

theorem children (twin : Twin names edit start old new)
    (spread : List.Forall₂ (Rewritten names edit) old.node.children new.node.children) :
    List.Forall₂ (Twin names edit start) old.children new.children := by
  rw [List.forall₂_iff_get]
  refine ⟨by simp [Site.children, spread.length_eq], ?_⟩
  intro position inside inside'
  simp only [Site.children, List.length_map] at inside inside'
  simp only [Site.children, List.get_eq_getElem, List.getElem_map]
  exact .child twin spread position (List.getElem?_eq_getElem inside)
    (List.getElem?_eq_getElem inside')

theorem matching (starts : ∀ old new, start old new → Rewritten names edit old.node new.node) :
    Matching names edit (Twin names edit start) where
  node twin := twin.rewritten starts
  step twin := by
    cases twin.rewritten starts with
    | edited _ may here => exact .inl ⟨may, here⟩
    | spread _ children _ => exact .inr (twin.children children)

theorem mono {start' : Site → Site → Prop} (more : ∀ old new, start old new → start' old new)
    (twin : Twin names edit start old new) : Twin names edit start' old new := by
  induction twin with
  | start here => exact .start (more _ _ here)
  | child _ spread position here here' ih => exact .child ih spread position here here'

/-- Twins in a part of the tree that starts at twins. -/
theorem trans {edit' : Node → Node → Prop} {site site' : Site}
    (more : ∀ old new, edit' old new → edit old new) (outer : Twin names edit start old new)
    (inner : Twin names edit' (fun first second => first = old ∧ second = new) site site') :
    Twin names edit start site site' := by
  induction inner with
  | start here =>
    obtain ⟨rfl, rfl⟩ := here
    exact outer
  | child _ spread position here here' ih =>
    exact .child ih (spread.imp fun _ _ => Node.Rewritten.mono more) position here here'

theorem solid (starts : ∀ old new, start old new → old.node.Solid ∧ new.node.Solid)
    (twin : Twin names edit start old new) : old.node.Solid ∧ new.node.Solid := by
  induction twin with
  | start here => exact starts _ _ here
  | child _ _ position here here' ih =>
    exact ⟨ih.1.step (List.mem_of_getElem? here), ih.2.step (List.mem_of_getElem? here')⟩

/-- The traversals of twins go from twin to twin, where nothing is edited. -/
theorem preorder (twin : Twin names edit start old new) (asks : old.node.Asks names)
    (same : new.node.bare = old.node.bare) :
    List.Forall₂ (Twin names edit start) (old.node.preorder old.above)
      (new.node.preorder new.above) := by
  obtain ⟨node, above⟩ := old
  induction node using Node.childInduction generalizing above new with
  | step node ih =>
    have bares := forall₂_of_map_eq (Node.children_of_bare same)
    have spread : List.Forall₂ (Rewritten names edit) node.children new.node.children :=
      forall₂_imp_of_mem bares fun child mem _ equal => .of_bare (asks.child mem) equal
    have twins := twin.children spread
    rw [Site.children, Site.children, List.forall₂_map_left_iff,
      List.forall₂_map_right_iff] at twins
    rw [Node.preorder_eq, Node.preorder_eq, Node.preorderAll_eq, Node.preorderAll_eq]
    refine .cons twin (List.rel_flatMap (forall₂_and_of_mem twins bares) ?_)
    rintro child child' ⟨mem, part, equal⟩
    exact ih child mem _ part (asks.child mem) equal

theorem preorderAll {above above' nodes nodes' : List Node}
    (all : List.Forall₂ (fun node node' => Twin names edit start ⟨node, above⟩ ⟨node', above'⟩)
      nodes nodes') (asks : ∀ node ∈ nodes, Node.Asks names node)
    (same : nodes'.map Node.bare = nodes.map Node.bare) :
    List.Forall₂ (Twin names edit start) (Node.preorderAll above nodes)
      (Node.preorderAll above' nodes') := by
  rw [Node.preorderAll_eq, Node.preorderAll_eq]
  apply List.rel_flatMap (forall₂_and_of_mem all (forall₂_of_map_eq same))
  rintro node node' ⟨mem, twin, equal⟩
  exact twin.preorder (asks node mem) equal

end Twin

end SliceGuard.Syntax
