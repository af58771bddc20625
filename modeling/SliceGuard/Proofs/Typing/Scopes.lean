import SliceGuard.Proofs.Typing.Declaration
import SliceGuard.Proofs.Typing.Versions

/-!
# Scopes in two versions of a package

A scope is asked for a name by its parts and by their places before or after the child that asks.
In two versions of a tree corresponding parts say the same of a name, if the edited ones among them
do, and siblings stand in the same order.  So the climbs from twins end at the same binding.
-/

namespace SliceGuard.Typing

open Syntax (Kind Matching Node Role Site Twin)
open Syntax.Node (ReadAlike Reworded Rewritten Solid editedKinds mayDiffer_of_kind mayDiffer_of_role
  noEdit)
open Declarations

/-- The edited declarations say the same of a name in both versions. -/
structure Tells (names : String → Prop) (edit : Node → Node → Prop)
    (related : Site → Site → Prop) (name : String) : Prop where
  short : ∀ old new : Site, edit old.node new.node → old.node.kind = .shortVarDeclaration →
    Option.Rel (Binding.Matched names edit related) (shortBinding? old name)
      (shortBinding? new name)
  spec : ∀ old new : Site, edit old.node new.node →
    old.node.kind = .varSpec ∨ old.node.kind = .constSpec → ∀ isConstant,
      Option.Rel (Binding.Matched names edit related) (specBinding? isConstant name old)
        (specBinding? isConstant name new)
  range : ∀ old new : Site, edit old.node new.node → old.node.kind = .rangeClause →
    Option.Rel (Binding.Matched names edit related) (rangeBinding? old name)
      (rangeBinding? new name)
  parameter : ∀ old new : Node, edit old new → isParameter old.kind = true →
    Option.Rel (Binding.Matched names edit related) (parameterBinding? name old)
      (parameterBinding? name new)

variable {names : String → Prop} {edit : Node → Node → Prop} {related : Site → Site → Prop}
  {name : String}

theorem tells_noEdit : Tells names noEdit related name :=
  ⟨fun _ _ never => never.elim, fun _ _ never => never.elim, fun _ _ never => never.elim,
    fun _ _ never => never.elim⟩

section Parts

variable {old new : Site}

theorem Binding.ofValues_matched {values others : List Site}
    (all : List.Forall₂ related values others) (position count : Nat) :
    Binding.Matched names edit related (.ofValues values position count)
      (.ofValues others position count) := by
  have value := assigned?_alike all position count
  unfold Binding.ofValues
  generalize assigned? values position count = first,
    assigned? others position count = second at value
  cases value with
  | none => exact .untold
  | some same => exact .initialized same

theorem declaredNames_of_children {declaration other : Node}
    (children : List.Forall₂ (Rewritten names edit) declaration.children other.children) :
    declaredNames other = declaredNames declaration := by
  have parts : List.Forall₂ (Rewritten names edit) (declaration.childrenIn .name)
      (other.childrenIn .name) :=
    forall₂_filter (fun _ _ part => part.head.plays .name) children
  apply map_eq _ (forall₂_imp_of_mem parts fun part mem other same => And.intro mem same)
  rintro part other ⟨mem, same⟩
  exact same.head.text_of_role (.inl (Node.mem_childrenIn_iff.1 mem).2)

theorem child?_of_rewritten {node other : Node}
    (children : List.Forall₂ (Rewritten names edit) node.children other.children) (role : Role) :
    Option.Rel (Rewritten names edit) (node.child? role) (other.child? role) :=
  rel_find? (fun _ _ part => part.head.plays role) children

theorem shortBinding?_matched (matching : Matching names edit related)
    (tells : Tells names edit related name) (here : related old new)
    (kind : old.node.kind = .shortVarDeclaration) :
    Option.Rel (Binding.Matched names edit related) (shortBinding? old name)
      (shortBinding? new name) := by
  -- What an edited declaration binds is told, and the parts of any other one correspond.
  rcases matching.step here with ⟨_, edited⟩ | children
  · exact tells.short old new edited kind
  have targets := matching.namedIn_of_children children (by decide : Role.left ≠ .initializer)
  have values := matching.namedIn_of_children children (by decide : Role.right ≠ .initializer)
  have position := findIdx?_eq
    (p := fun target : Site => target.node.kind == .identifier && target.node.text == name)
    (q := fun target : Site => target.node.kind == .identifier && target.node.text == name)
    (fun target other part => by
      by_cases isName : target.node.kind = .identifier
      · rw [matching.kind part, matching.text part isName]
      · rw [matching.kind part, beq_false_of_ne isName, Bool.false_and, Bool.false_and]) targets
  unfold shortBinding?
  dsimp only
  rw [position, targets.length_eq]
  cases List.findIdx? (fun target : Site =>
    target.node.kind == .identifier && target.node.text == name) _ with
  | none => exact .none
  | some position => exact .some (Binding.ofValues_matched values position _)

theorem specBinding?_matched (matching : Matching names edit related)
    (tells : Tells names edit related name) (here : related old new)
    (kind : old.node.kind = .varSpec ∨ old.node.kind = .constSpec) (isConstant : Bool) :
    Option.Rel (Binding.Matched names edit related) (specBinding? isConstant name old)
      (specBinding? isConstant name new) := by
  rcases matching.step here with ⟨_, edited⟩ | children
  · exact tells.spec old new edited kind isConstant
  have parts := matching.rewritten_of_children children
  have values := matching.namedIn_of_children children (by decide : Role.value ≠ .initializer)
  have types := child?_of_rewritten parts .type
  unfold specBinding?
  dsimp only
  rw [declaredNames_of_children parts]
  cases positionOf? name (declaredNames old.node) with
  | none => exact .none
  | some position =>
    cases isConstant with
    | true => exact .some .constant
    | false =>
      generalize old.node.child? .type = type, new.node.child? .type = type' at types
      cases types with
      | none => exact .some (Binding.ofValues_matched values position _)
      | some same => exact .some (.typed (.some same))

theorem valueSpecs_matched (matching : Matching names edit related) (here : related old new)
    (must : old.node.mayDiffer = false) :
    List.Forall₂ related (valueSpecs old) (valueSpecs new) := by
  unfold valueSpecs
  apply List.rel_flatMap (matching.named here must)
  intro child other part
  simp only [matching.kind part]
  split
  · exact .cons part .nil
  · split
    case isTrue kind =>
      have kind : child.node.kind = .varSpecList := by simpa using kind
      apply forall₂_filter _ (matching.named part (mayDiffer_of_kind kind rfl))
      intro spec another same
      rw [matching.kind same]
    case isFalse => exact .nil

/-- What passes to named children holds of the specifications of a declaration. -/
theorem of_mem_valueSpecs {holds : Site → Prop}
    (named : ∀ {site child : Site}, holds site → child ∈ site.named → holds child)
    {declaration spec : Site} (here : holds declaration) (mem : spec ∈ valueSpecs declaration) :
    holds spec := by
  obtain ⟨child, listed, inside⟩ := List.mem_flatMap.1 mem
  have below := named here listed
  split at inside
  · rw [List.mem_singleton.1 inside]
    exact below
  · split at inside
    · exact named below (List.mem_filter.1 inside).1
    · cases inside

theorem kind_of_mem_valueSpecs {declaration spec : Site} (mem : spec ∈ valueSpecs declaration) :
    spec.node.kind = .varSpec ∨ spec.node.kind = .constSpec := by
  obtain ⟨child, _, mem⟩ := List.mem_flatMap.1 mem
  split at mem
  case isTrue isSpec =>
    obtain rfl := List.mem_singleton.1 mem
    simpa using isSpec
  case isFalse =>
    split at mem
    · simpa using (List.mem_filter.1 mem).2
    · cases mem

theorem statementBinding?_matched (matching : Matching names edit related)
    (tells : Tells names edit related name) (here : related old new) :
    Option.Rel (Binding.Matched names edit related) (statementBinding? old name)
      (statementBinding? new name) := by
  have specs (isConstant : Bool) (must : old.node.mayDiffer = false) :
      Option.Rel (Binding.Matched names edit related)
        ((valueSpecs old).reverse.findSome? (specBinding? isConstant name))
        ((valueSpecs new).reverse.findSome? (specBinding? isConstant name)) := by
    have all := forall₂_imp_of_mem (valueSpecs_matched matching here must)
      fun spec mem other part => And.intro (kind_of_mem_valueSpecs mem) part
    refine rel_findSome? ?_ (List.rel_reverse all)
    rintro spec other ⟨kind, part⟩
    exact specBinding?_matched matching tells part kind isConstant
  unfold statementBinding?
  rw [matching.kind here]
  split
  case h_1 kind => exact shortBinding?_matched matching tells here kind
  case h_2 kind => exact specs false (mayDiffer_of_kind kind rfl)
  case h_3 kind => exact specs true (mayDiffer_of_kind kind rfl)
  case h_4 => exact .none

/-- The position of a name among some texts is the same in both versions. -/
theorem positionOf?_matched {nodes others : List Node} (asked : names name)
    (all : List.Forall₂ (ReadAlike names) nodes others) :
    positionOf? name (others.map Node.text) = positionOf? name (nodes.map Node.text) := by
  rw [positionOf?, positionOf?, List.findIdx?_map, List.findIdx?_map]
  exact findIdx?_eq (fun _ _ part => part.beq_text asked) all

theorem rangeBinding?_matched (matching : Matching names edit related) (asked : names name)
    (tells : Tells names edit related name) (here : related old new)
    (kind : old.node.kind = .rangeClause) :
    Option.Rel (Binding.Matched names edit related) (rangeBinding? old name)
      (rangeBinding? new name) := by
  rcases matching.step here with ⟨_, edited⟩ | children
  · exact tells.range old new edited kind
  have parts := matching.rewritten_of_children children
  have container := matching.child?_of_children children .right
  have declares := any_eq (p := fun token : Node => token.kind == .token && token.text == ":=")
    (q := fun token : Node => token.kind == .token && token.text == ":=")
    (fun token other part => by
      by_cases isToken : token.kind = .token
      · rw [part.kind, part.head.text_of_kind (.inr (.inr isToken))]
      · rw [part.kind, beq_false_of_ne isToken, Bool.false_and, Bool.false_and]) parts
  have lefts := child?_of_rewritten parts .left
  unfold rangeBinding?
  rw [declares]
  cases left : old.node.child? .left with
  | none =>
    rw [left] at lefts
    rw [eq_none_of_rel_none lefts]
    exact .none
  | some targets =>
    rw [left] at lefts
    obtain ⟨targets', left', part⟩ := exists_of_rel_some lefts
    have role := Node.role_of_child? left
    have read := part.readNamed (mayDiffer_of_role role (by decide))
      (by simp [Node.readsChildren, Node.plays, role])
    rw [left']
    simp only [Option.bind_eq_bind, Option.bind_some, positionOf?_matched asked read]
    split
    · cases positionOf? name (targets.named.map Node.text) with
      | none => exact .none
      | some position => exact .some (.ranged container position)
    · exact .none

end Parts

section Functions

variable {function other : Node}

theorem parameterBinding?_matched (tells : Tells names edit related name)
    (same : Rewritten names edit function other) (kind : isParameter function.kind = true) :
    Option.Rel (Binding.Matched names edit related) (parameterBinding? name function)
      (parameterBinding? name other) := by
  cases same with
  | edited _ _ here => exact tells.parameter function other here kind
  | spread head children _ =>
    have types := child?_of_rewritten children .type
    unfold parameterBinding?
    rw [declaredNames_of_children children, head.kind]
    split
    · split
      · exact .some (.variadic types)
      · exact .some (.typed types)
    · exact .none

theorem parameterDeclarations_matched (same : Rewritten names edit function other)
    (must : function.mayDiffer = false) :
    List.Forall₂ (fun declaration declaration' => isParameter declaration.kind = true ∧
        Rewritten names edit declaration declaration')
      (parameterDeclarations function) (parameterDeclarations other) := by
  refine forall₂_imp_of_mem (forall₂_filter ?_ (same.named must)) ?_
  · intro child child' part
    rw [part.kind]
  · intro child mem child' part
    exact ⟨(List.mem_filter.1 mem).2, part⟩

theorem functionBinding?_matched (tells : Tells names edit related name)
    (children : List.Forall₂ (Rewritten names edit) function.children other.children) :
    Option.Rel (Binding.Matched names edit related) (functionBinding? function name)
      (functionBinding? other name) := by
  unfold functionBinding?
  dsimp only
  have lists : List.Forall₂ (fun list list' : Node => list.mayDiffer = false ∧
        Rewritten names edit list list')
      ([.parameters, .receiver, .result].filterMap function.child?)
      ([.parameters, .receiver, .result].filterMap other.child?) := by
    refine List.rel_filterMap (R := fun role role' => role = role' ∧ role ≠ .initializer) ?_
      (by simp)
    rintro role _ ⟨rfl, notInitializer⟩
    dsimp only
    have found := child?_of_rewritten children role
    cases here : function.child? role with
    | none =>
      rw [here] at found
      rw [eq_none_of_rel_none found]
      exact .none
    | some list =>
      rw [here] at found
      obtain ⟨list', here', part⟩ := exists_of_rel_some found
      rw [here']
      exact .some ⟨mayDiffer_of_role (Node.role_of_child? here) notInitializer, part⟩
  refine rel_findSome? ?_ (forall₂_filter ?_ lists)
  · rintro list list' ⟨must, part⟩
    refine rel_findSome? ?_ (parameterDeclarations_matched part must)
    rintro declaration declaration' ⟨kind, same⟩
    exact parameterBinding?_matched tells same kind
  · rintro list list' ⟨_, part⟩
    rw [part.kind]

end Functions

/-- Parts on the same side of a child of their scope. -/
def SameSide (child child' part part' : Node) : Prop :=
  part.isNamed = true ∨ part.role ≠ none →
    (part'.start < child'.start ↔ part.start < child.start) ∧
      (part'.stop ≤ child'.start ↔ part.stop ≤ child.start)

/-- Corresponding parts of scopes on the same side of a child. -/
structure Aligned (related : Site → Site → Prop) (child child' : Node) (part part' : Site) :
    Prop where
  related : related part part'
  side : SameSide child child' part.node part'.node

/-- In solid trees the order of siblings is that of their positions. -/
theorem sameSide_of_solid {scope scope' child child' part part' : Node} (solid : scope.Solid)
    (solid' : scope'.Solid) {first second : Nat} (here : scope.children[second]? = some child)
    (here' : scope'.children[second]? = some child') (there : scope.children[first]? = some part)
    (there' : scope'.children[first]? = some part') (head : Reworded names part part') :
    SameSide child child' part part' := by
  intro counts
  have counts' : part'.isNamed = true ∨ part'.role ≠ none := by rwa [head.isNamed, head.role]
  have order := solid.order there here counts
  have order' := solid'.order there' here' counts'
  exact ⟨order'.1.trans order.1.symm, order'.2.trans order.2.symm⟩

section Scopes

variable {scope scope' : Site} {child child' : Node}

theorem aligned_named (matching : Matching names edit related)
    (parts : List.Forall₂ (Aligned related child child') scope.children scope'.children) :
    List.Forall₂ (fun part part' => part.node.isNamed = true ∧
      Aligned related child child' part part') scope.named scope'.named := by
  have found := forall₂_filter (p := fun part : Site => part.node.isNamed)
    (q := fun part : Site => part.node.isNamed)
    (fun _ _ aligned => (matching.head aligned.related).isNamed) parts
  unfold Site.children at found
  rw [List.filter_map, List.filter_map] at found
  refine forall₂_imp_of_mem found ?_
  intro part mem part' aligned
  obtain ⟨node, named, rfl⟩ := List.mem_map.1 mem
  exact ⟨(List.mem_filter.1 named).2, aligned⟩

theorem aligned_child? (matching : Matching names edit related)
    (parts : List.Forall₂ (Aligned related child child') scope.children scope'.children)
    (role : Role) :
    Option.Rel (fun part part' => part.node.role = some role ∧
      Aligned related child child' part part') (scope.child? role) (scope'.child? role) := by
  have found := rel_find?_and (p := fun part : Site => part.node.plays role)
    (q := fun part : Site => part.node.plays role)
    (fun _ _ aligned => (matching.head aligned.related).plays role) parts
  unfold Site.children at found
  rw [List.find?_map, List.find?_map] at found
  have finer (part part' : Site) (both : part.node.plays role = true ∧
      Aligned related child child' part part') :
      part.node.role = some role ∧ Aligned related child child' part part' :=
    ⟨by simpa [Node.plays] using both.1, both.2⟩
  exact rel_imp finer found

/-- Scopes with aligned parts bind a name alike. -/
theorem statementsBinding?_matched (matching : Matching names edit related)
    (tells : Tells names edit related name)
    (parts : List.Forall₂ (Aligned related child child') scope.children scope'.children) :
    Option.Rel (Binding.Matched names edit related) (statementsBinding? scope child name)
      (statementsBinding? scope' child' name) := by
  refine rel_findSome? ?_ (forall₂_filter ?_ (List.rel_reverse (aligned_named matching parts)))
  · rintro statement statement' ⟨_, aligned⟩
    exact statementBinding?_matched matching tells aligned.related
  · rintro statement statement' ⟨named, aligned⟩
    exact decide_eq_decide.2 (aligned.side (.inl named)).1

theorem initializerBinding?_matched (matching : Matching names edit related)
    (tells : Tells names edit related name)
    (parts : List.Forall₂ (Aligned related child child') scope.children scope'.children) :
    Option.Rel (Binding.Matched names edit related) (initializerBinding? scope child name)
      (initializerBinding? scope' child' name) := by
  have first := aligned_child? matching parts .initializer
  unfold initializerBinding?
  generalize scope.child? .initializer = initializer,
    scope'.child? .initializer = initializer' at first
  cases first with
  | none => exact .none
  | @some part part' both =>
    have stops := (both.2.side (.inr (by simp [both.1]))).2
    simp only [Option.bind_eq_bind, Option.bind_some, stops]
    split
    · exact statementBinding?_matched matching tells both.2.related
    · exact .none

theorem isAliasOf_matched (matching : Matching names edit related) (asked : names name)
    (parts : List.Forall₂ (Aligned related child child') scope.children scope'.children) :
    isAliasOf scope'.node child' name = isAliasOf scope.node child name := by
  have found := aligned_child? matching parts .caseName
  unfold Site.child? at found
  unfold isAliasOf
  generalize scope.node.child? .caseName = title, scope'.node.child? .caseName = title' at found
  cases title with
  | none =>
    cases title' with
    | none => rfl
    | some title' => cases found
  | some title =>
    cases title' with
    | none => cases found
    | some title' =>
      cases found with
      | some both =>
        obtain ⟨role, aligned⟩ := both
        rw [Site.node_below] at role
        have stops : title'.stop ≤ child'.start ↔ title.stop ≤ child.start :=
          (aligned.side (.inr (by simp [role]))).2
        have texts : title'.named.any (·.text == name) = title.named.any (·.text == name) :=
          any_eq (fun _ _ part => part.beq_text asked)
            ((matching.node aligned.related).readNamed (mayDiffer_of_role role (by decide))
              (by simp [Node.readsChildren, Node.plays, role]))
        have listed (node : Node) :
            (node.named.map Node.text).contains name = node.named.any (·.text == name) := by
          rw [List.contains_eq_any_beq, List.any_map]
          congr 1
          funext part
          exact Bool.beq_comm
        dsimp only
        rw [listed, listed, texts, decide_eq_decide.2 stops]

theorem loopBinding?_matched (matching : Matching names edit related) (asked : names name)
    (tells : Tells names edit related name) {clauses clauses' : List Site}
    (all : List.Forall₂ (fun part part' => part.node.isNamed = true ∧
      Aligned related child child' part part') clauses clauses') :
    Option.Rel (Binding.Matched names edit related) (loopBinding? child name clauses)
      (loopBinding? child' name clauses') := by
  induction all with
  | nil => exact .none
  | @cons clause clause' clauses clauses' both _ ih =>
    obtain ⟨named, aligned⟩ := both
    have starts : child'.start < clause'.node.stop ↔ child.start < clause.node.stop := by
      rw [← Nat.not_le, ← Nat.not_le, (aligned.side (.inl named)).2]
    unfold loopBinding?
    simp only [starts, matching.kind aligned.related]
    split
    · exact ih
    · split
      case h_1 kind =>
        have ranges := rangeBinding?_matched matching asked tells aligned.related kind
        generalize rangeBinding? clause name = binding,
          rangeBinding? clause' name = binding' at ranges
        cases ranges with
        | none => exact ih
        | some same => exact .some same
      case h_2 kind =>
        have first := matching.child? aligned.related (mayDiffer_of_kind kind rfl) .initializer
        generalize clause.child? .initializer = initializer,
          clause'.child? .initializer = initializer' at first
        cases first with
        | none => exact ih
        | some part => exact statementBinding?_matched matching tells part
      case h_3 => exact ih

theorem scopeBinding?_matched (matching : Matching names edit related) (asked : names name)
    (tells : Tells names edit related name) (kind : scope'.node.kind = scope.node.kind)
    (parts : List.Forall₂ (Aligned related child child') scope.children scope'.children) :
    Option.Rel (Binding.Matched names edit related) (scopeBinding? scope child name)
      (scopeBinding? scope' child' name) := by
  rw [scopeBinding?_eq, scopeBinding?_eq, kind]
  cases scopeForm scope.node.kind with
  | statements => exact statementsBinding?_matched matching tells parts
  | initializer => exact initializerBinding?_matched matching tells parts
  | typeSwitch =>
    dsimp only
    rw [isAliasOf_matched matching asked parts]
    split
    · exact .some .untold
    · exact initializerBinding?_matched matching tells parts
  | loop => exact loopBinding?_matched matching asked tells (aligned_named matching parts)
  | function =>
    exact functionBinding?_matched tells
      (matching.rewritten_of_children (parts.imp fun _ _ aligned => aligned.related))
  | none => exact .none

end Scopes

/-- What some statements of a scope say of a name; the last one that binds it counts. -/
def lastBinding? (scope : Site) (name : String) (statements : List Node) : Option Binding :=
  ((statements.filter Node.isNamed).map scope.below).reverse.findSome? (statementBinding? · name)

theorem lastBinding?_append (scope : Site) (name : String) (first second : List Node) :
    lastBinding? scope name (first ++ second) =
      (lastBinding? scope name second).or (lastBinding? scope name first) := by
  simp only [lastBinding?, List.filter_append, List.map_append, List.reverse_append,
    List.findSome?_append]

theorem lastBinding?_matched (matching : Matching names edit related)
    (tells : Tells names edit related name) {scope scope' : Site} {nodes nodes' : List Node}
    (all : List.Forall₂ (fun node node' => related (scope.below node) (scope'.below node')) nodes
      nodes') :
    Option.Rel (Binding.Matched names edit related) (lastBinding? scope name nodes)
      (lastBinding? scope' name nodes') := by
  refine rel_findSome? (fun _ _ => statementBinding?_matched matching tells)
    (List.rel_reverse ?_)
  rw [List.forall₂_map_left_iff, List.forall₂_map_right_iff]
  exact forall₂_filter (fun _ _ part => (matching.head part).isNamed) all

/-- A list of statements is asked for the last one that binds the name before the child. -/
theorem statementsBinding?_of_children {scope : Site} (solid : scope.node.Solid)
    {before after : List Node} {child : Node}
    (children : scope.node.children = before ++ child :: after) (name : String) :
    statementsBinding? scope child name = lastBinding? scope name before := by
  have here : scope.node.children[before.length]? = some child := by simp [children]
  -- Named nodes are not empty in a solid tree, so they start in the order of their positions.
  have earlier : ∀ part ∈ before, part.isNamed = true → part.start < child.start := by
    intro part mem named
    obtain ⟨position, inside, rfl⟩ := List.getElem_of_mem mem
    have there : scope.node.children[position]? = some before[position] := by
      simp [children, List.getElem?_append_left inside]
    exact ((solid.order there here (.inl named)).1).2 inside
  have later : ∀ part ∈ child :: after, part.isNamed = true → ¬ part.start < child.start := by
    intro part mem named
    obtain ⟨position, inside, rfl⟩ := List.getElem_of_mem mem
    have there : scope.node.children[before.length + position]? =
        some (child :: after)[position] := by
      rw [children, List.getElem?_append_right (by omega)]
      simp
    intro starts
    have := ((solid.order there here (.inl named)).1).1 starts
    omega
  have kept : (before.filter Node.isNamed).filter (fun part => part.start < child.start) =
      before.filter Node.isNamed := by
    rw [List.filter_eq_self]
    intro part mem
    obtain ⟨mem, named⟩ := List.mem_filter.1 mem
    exact decide_eq_true (earlier part mem named)
  have dropped : ((child :: after).filter Node.isNamed).filter
      (fun part => part.start < child.start) = [] := by
    rw [List.filter_eq_nil_iff]
    intro part mem
    obtain ⟨mem, named⟩ := List.mem_filter.1 mem
    simpa using later part mem named
  have named : scope.named.filter (fun part => part.node.start < child.start) =
      (before.filter Node.isNamed).map scope.below := by
    rw [Site.named, Node.named, children, List.filter_map]
    change List.map scope.below (((before ++ child :: after).filter Node.isNamed).filter
      (fun part => part.start < child.start)) = _
    rw [List.filter_append, List.filter_append, kept, dropped, List.append_nil]
  rw [statementsBinding?, List.filter_reverse, named, lastBinding?]

theorem climb_cons (name : String) (child scope : Node) (outer : List Node) :
    climb name child (scope :: outer) =
      (scopeBinding? ⟨scope, outer⟩ child name).or (climb name scope outer) := by
  rw [climb]
  cases scopeBinding? ⟨scope, outer⟩ child name <;> rfl

section Climbs

variable {start : Site → Site → Prop} {old new : Site}

/-- The scope around twins is asked alike. -/
theorem scopeBinding?_twin (matching : Matching names edit related)
    (twins : ∀ old new, Twin names edit start old new → related old new) (asked : names name)
    (tells : Tells names edit related name) (outer : Twin names edit start old new)
    (solid : old.node.Solid) (solid' : new.node.Solid)
    (spread : List.Forall₂ (Rewritten names edit) old.node.children new.node.children)
    {position : Nat} {child child' : Node} (here : old.node.children[position]? = some child)
    (here' : new.node.children[position]? = some child') :
    Option.Rel (Binding.Matched names edit related) (scopeBinding? old child name)
      (scopeBinding? new child' name) := by
  refine scopeBinding?_matched matching asked tells (matching.kind (twins _ _ outer)) ?_
  have parts := outer.children spread
  rw [List.forall₂_iff_get] at parts ⊢
  refine ⟨parts.1, ?_⟩
  intro other inside inside'
  have twin := parts.2 other inside inside'
  refine ⟨twins _ _ twin, ?_⟩
  simp only [Site.children, List.length_map] at inside inside'
  have there := List.getElem?_eq_getElem inside
  have there' := List.getElem?_eq_getElem inside'
  simp only [Site.children, List.get_eq_getElem, List.getElem_map] at twin ⊢
  exact sameSide_of_solid solid solid' here here' there there' (matching.head (twins _ _ twin))

/-- The climbs from twins end at the same binding, if those from the sites where both versions start
do. -/
theorem climb_twin (matching : Matching names edit related)
    (twins : ∀ old new, Twin names edit start old new → related old new) (asked : names name)
    (tells : Tells names edit related name)
    (solid : ∀ old new, start old new → old.node.Solid ∧ new.node.Solid)
    (begins : ∀ old new, start old new →
      Option.Rel (Binding.Matched names edit related) (climb name old.node old.above)
        (climb name new.node new.above))
    (twin : Twin names edit start old new) :
    Option.Rel (Binding.Matched names edit related) (climb name old.node old.above)
      (climb name new.node new.above) := by
  induction twin with
  | start here => exact begins _ _ here
  | @child old new child child' outer spread position here here' ih =>
    obtain ⟨solidOld, solidNew⟩ := outer.solid solid
    have bound := scopeBinding?_twin matching twins asked tells outer solidOld solidNew spread here
      here'
    rw [Site.above_below, Site.above_below, Site.node_below, Site.node_below, climb_cons,
      climb_cons]
    exact rel_or bound ih

end Climbs

end SliceGuard.Typing
