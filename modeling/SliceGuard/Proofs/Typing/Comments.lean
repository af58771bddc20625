import SliceGuard.Proofs.Declarations.Comments
import SliceGuard.Proofs.Typing.Carrying
import SliceGuard.Proofs.Typing.Nearest
import SliceGuard.Proofs.Typing.Symbols

/-!
# Types without comments

A package in which the comments of a file are left out is compared with the package as it was.  The
types and expressions of the other files stand for themselves, and those of the file stand for what
they are without comments.  Where no comment is counted, scopes and packages bind names alike, and
every expression has the same type.
-/

namespace SliceGuard.Typing

open Syntax (Kind Node Role Site)
open Syntax.Node (Everywhere Tidy isWord)
open Declarations

/-- The sites of trees in which no comment is counted. -/
structure NeatSite (texts : Node → String) (site : Site) : Prop where
  node : Neat texts site.node
  above : ∀ node ∈ site.above, Neat texts node

/-- A type and itself, or what it is without comments. -/
def TypeKept (texts : Node → String) (type other : Node) : Prop :=
  other = type ∨ Neat texts type ∧ other = type.withoutComments texts

/-- An expression and itself, or what it is without comments. -/
def SiteKept (texts : Node → String) (site other : Site) : Prop :=
  other = site ∨ NeatSite texts site ∧ other = site.withoutComments texts

section Sites

variable {texts : Node → String} {site : Site}

namespace NeatSite

theorem below (neat : NeatSite texts site) {child : Node} (mem : child ∈ site.node.children) :
    NeatSite texts (site.below child) := by
  refine ⟨neat.node.child mem, ?_⟩
  intro node around
  rcases List.mem_cons.1 around with rfl | farther
  · exact neat.node
  · exact neat.above node farther

theorem child? (neat : NeatSite texts site) {role : Role} {child : Site}
    (here : site.child? role = some child) : NeatSite texts child := by
  obtain ⟨node, found, rfl⟩ := Option.map_eq_some_iff.1 here
  exact neat.below (Node.mem_children_of_child? found)

theorem named (neat : NeatSite texts site) {child : Site} (mem : child ∈ site.named) :
    NeatSite texts child := by
  obtain ⟨node, listed, rfl⟩ := List.mem_map.1 mem
  exact neat.below (Node.mem_named_iff.1 listed).1

theorem kept (neat : NeatSite texts site) : SiteKept texts site (site.withoutComments texts) :=
  .inr ⟨neat, rfl⟩

theorem rel_child? (neat : NeatSite texts site) (role : Role) :
    Option.Rel (SiteKept texts) (site.child? role)
      ((site.withoutComments texts).child? role) := by
  rw [Site.child?_withoutComments neat.node.tidy]
  exact rel_map_self fun child here => (neat.child? here).kept

end NeatSite

theorem rel_child?_of_neat {node : Node} (neat : Neat texts node) (role : Role) :
    Option.Rel (TypeKept texts) (node.child? role)
      ((node.withoutComments texts).child? role) := by
  rw [Node.child?_withoutComments neat.tidy]
  exact rel_map_self fun child here => .inr ⟨neat.child? here, rfl⟩

/-- The core of a type is the same without comments, if none follows a parenthesis. -/
theorem typeCore_withoutComments {type : Node} (neat : Neat texts type) :
    typeCore (type.withoutComments texts) = (typeCore type).map (Node.withoutComments texts) := by
  apply Node.descend_withoutComments
  · intro kind picks rule part
    unfold coreRule at rule
    split at rule <;> cases rule
    · exact Node.isNamed_withoutComments
    · exact Node.plays_withoutComments .type
  · intro site inside picks rule child first
    unfold coreRule at rule
    split at rule
    case h_1 kind =>
      cases rule
      have starts := (neat site inside).2
      rw [countsComment, kind] at starts
      exact isComment_of_find?_isNamed starts first
    case h_2 kind =>
      cases rule
      exact Node.isComment_of_child? (neat.tidy.everywhere site inside) first
    case h_3 => cases rule

theorem callArguments_withoutComments (neat : NeatSite texts site) :
    callArguments (site.withoutComments texts) =
      (callArguments site).map (Site.withoutComments texts) := by
  unfold callArguments
  rw [Site.child?_withoutComments neat.node.tidy]
  cases site.child? .arguments with
  | none => rfl
  | some list =>
    simp only [Option.map_some, Option.getD_some, Site.named_withoutComments]
    apply Syntax.filter_kept
    · intro part _ _
      rw [Site.node_withoutComments, Node.kind_withoutComments]
    · intro part _ comment
      rw [Bool.not_eq_false'] at comment
      rw [bne, Bool.not_eq_false']
      exact comment

theorem neat_of_mem_callArguments (neat : NeatSite texts site) {part : Site}
    (mem : part ∈ callArguments site) : NeatSite texts part := by
  have listed := (List.mem_filter.1 mem).1
  cases here : site.child? .arguments with
  | none => simp [here] at listed
  | some list =>
    rw [here] at listed
    exact (neat.child? here).named listed

/-- From types and expressions that are kept the search goes to others that are kept. -/
theorem tracked_kept (texts : Node → String) :
    Tracked (TypeKept texts) (SiteKept texts) (fun _ => True) where
  kind := by
    rintro type _ (rfl | ⟨_, rfl⟩)
    · rfl
    · exact Node.kind_withoutComments
  name := by
    rintro type _ (rfl | ⟨neat, rfl⟩) isName
    · exact ⟨rfl, trivial⟩
    · rw [isTypeName, Bool.or_comm] at isName
      exact ⟨Node.text_of_isName neat.tidy isName, trivial⟩
  child? := by
    rintro type _ (rfl | ⟨neat, rfl⟩) role _
    · exact rel_same fun _ _ => .inl rfl
    · exact rel_child?_of_neat neat role
  core := by
    rintro type _ (rfl | ⟨neat, rfl⟩)
    · exact rel_same fun _ _ => .inl rfl
    · rw [typeCore_withoutComments neat]
      exact rel_map_self fun core reached => .inr ⟨Everywhere.descend neat reached, rfl⟩
  node := by
    rintro site _ (rfl | ⟨neat, rfl⟩)
    · exact .inl rfl
    · exact .inr ⟨neat.node, rfl⟩
  operand := by
    rintro site _ (rfl | ⟨neat, rfl⟩)
    · exact rel_same fun _ _ => .inl rfl
    · exact neat.rel_child? .operand
  inside := by
    rintro site _ (rfl | ⟨neat, rfl⟩) _
    · exact rel_same fun _ _ => .inl rfl
    · rw [Site.named_withoutComments,
        Syntax.find?_kept (p := fun part => part.node.kind != .comment)]
      · exact rel_map_self fun part first => (neat.named (List.mem_of_find?_eq_some first)).kept
      · intro part _ _
        rw [Site.node_withoutComments, Node.kind_withoutComments]
      · intro part first
        have other := List.find?_some first
        rwa [bne] at other
  argument := by
    rintro site _ (rfl | ⟨neat, rfl⟩)
    · exact rel_same fun _ _ => .inl rfl
    · rw [callArguments_withoutComments neat, List.head?_map]
      exact rel_map_self fun part first =>
        (neat_of_mem_callArguments neat (List.mem_of_head? first)).kept

end Sites

section Statements

variable {texts : Node → String} {site : Site} {name : String}

/-- The bindings of a name with and without comments. -/
abbrev Bound (texts : Node → String) : Option Binding → Option Binding → Prop :=
  Option.Rel (Binding.Carried (TypeKept texts) (SiteKept texts))

/-- The entries of a list that plays a role. -/
def entriesIn (role : Role) (site : Site) : List Site :=
  ((site.child? role).map Site.named).getD []

theorem neat_of_mem_entriesIn (neat : NeatSite texts site) {role : Role} {entry : Site}
    (mem : entry ∈ entriesIn role site) : NeatSite texts entry := by
  unfold entriesIn at mem
  cases here : site.child? role with
  | none => simp [here] at mem
  | some list =>
    rw [here] at mem
    exact (neat.child? here).named mem

theorem forall₂_entriesIn (neat : NeatSite texts site) (role : Role) :
    List.Forall₂ (SiteKept texts) (entriesIn role site)
      ((entriesIn role site).map (Site.withoutComments texts)) :=
  forall₂_map_self fun _ mem => (neat_of_mem_entriesIn neat mem).kept

/-- A list without comments has the same entries. -/
theorem entriesIn_withoutComments (neat : NeatSite texts site) {role : Role}
    (free : listsComment role site.node = false) :
    entriesIn role (site.withoutComments texts) =
      (entriesIn role site).map (Site.withoutComments texts) := by
  unfold entriesIn
  rw [Site.child?_withoutComments neat.node.tidy, Site.child?]
  cases found : site.node.child? role with
  | none => rfl
  | some list =>
    rw [listsComment, found, Option.any_some, List.any_eq_false] at free
    simp only [Option.map_some, Option.getD_some, Site.named_withoutComments]
    rw [List.filter_eq_self.2]
    intro entry mem
    obtain ⟨node, listed, rfl⟩ := List.mem_map.1 mem
    simpa using free node listed

theorem shortBinding?_eq (site : Site) (name : String) :
    shortBinding? site name = ((shortTargets site).findIdx? fun target =>
      target.node.kind == .identifier && target.node.text == name).map fun position =>
        .ofValues (shortValues site) position (shortTargets site).length := by
  rw [Option.map_eq_bind]
  rfl

theorem shortBinding?_kept (neat : NeatSite texts site)
    (kind : site.node.kind = .shortVarDeclaration) (name : String) :
    Bound texts (shortBinding? site name) (shortBinding? (site.withoutComments texts) name) := by
  have free := neat.node.uncounted
  rw [countsComment, kind, Bool.or_eq_false_iff] at free
  have targets : shortTargets (site.withoutComments texts) =
      (shortTargets site).map (Site.withoutComments texts) := entriesIn_withoutComments neat free.1
  have values : shortValues (site.withoutComments texts) =
      (shortValues site).map (Site.withoutComments texts) := entriesIn_withoutComments neat free.2
  have positions : ((shortTargets site).map (Site.withoutComments texts)).findIdx?
      (fun target => target.node.kind == .identifier && target.node.text == name) =
        (shortTargets site).findIdx?
          (fun target => target.node.kind == .identifier && target.node.text == name) := by
    refine findIdx?_eq ?_ (forall₂_map_and fun target mem => neat_of_mem_entriesIn neat mem)
    rintro target _ ⟨part, rfl⟩
    rw [Site.node_withoutComments, Node.kind_withoutComments]
    by_cases isName : target.node.kind = .identifier
    · rw [Node.text_of_isName part.node.tidy (by simp [Node.isName, isName])]
    · rw [beq_false_of_ne isName, Bool.false_and, Bool.false_and]
  rw [shortBinding?_eq, shortBinding?_eq, targets, values, List.length_map, positions]
  generalize List.findIdx? _ (shortTargets site) = position
  cases position with
  | none => exact .none
  | some position => exact .some (Binding.ofValues_carried (forall₂_entriesIn neat .right) _ _)

theorem specBinding?_eq (isConstant : Bool) (name : String) (spec : Site) :
    specBinding? isConstant name spec =
      (positionOf? name (declaredNames spec.node)).map fun position =>
        if isConstant then .constant else variableBinding spec position := by
  unfold specBinding? variableBinding
  dsimp only
  cases positionOf? name (declaredNames spec.node) with
  | none => rfl
  | some position =>
    cases isConstant <;> cases spec.node.child? .type <;> simp

theorem variableBinding_kept (neat : NeatSite texts site)
    (free : listsComment .value site.node = false) (position : Nat) :
    (variableBinding site position).Carried (TypeKept texts) (SiteKept texts)
      (variableBinding (site.withoutComments texts) position) := by
  have types := rel_child?_of_neat neat.node .type
  have values : specValues (site.withoutComments texts) =
      (specValues site).map (Site.withoutComments texts) := entriesIn_withoutComments neat free
  unfold variableBinding
  rw [values, Site.node_withoutComments, declaredNames_withoutComments neat.node]
  generalize site.node.child? .type = type,
    (site.node.withoutComments texts).child? .type = type' at types
  cases types with
  | some here => exact .typed (.some here)
  | none => exact Binding.ofValues_carried (forall₂_entriesIn neat .value) _ _

theorem specBinding?_kept {isConstant : Bool} (neat : NeatSite texts site)
    (free : isConstant = false → listsComment .value site.node = false) (name : String) :
    Bound texts (specBinding? isConstant name site)
      (specBinding? isConstant name (site.withoutComments texts)) := by
  rw [specBinding?_eq, specBinding?_eq, Site.node_withoutComments,
    declaredNames_withoutComments neat.node]
  cases positionOf? name (declaredNames site.node) with
  | none => exact .none
  | some position =>
    cases isConstant with
    | true => exact .some .constant
    | false => exact .some (variableBinding_kept neat (free rfl) position)

theorem valueSpecs_withoutComments :
    valueSpecs (site.withoutComments texts) =
      (valueSpecs site).map (Site.withoutComments texts) := by
  unfold valueSpecs
  dsimp only
  rw [Site.named_withoutComments, List.map_flatMap]
  apply Syntax.flatMap_kept
  · intro child _ _
    simp only [Site.node_withoutComments, Node.kind_withoutComments]
    split
    · rfl
    · split
      · rw [Site.named_withoutComments]
        apply Syntax.filter_kept
        · intro part _ _
          rw [Site.node_withoutComments, Node.kind_withoutComments]
        · intro part _ comment
          rw [Bool.not_eq_false'] at comment
          simp [beq_iff_eq.1 comment]
      · rfl
  · intro child _ comment
    rw [Bool.not_eq_false'] at comment
    simp [beq_iff_eq.1 comment]

theorem neat_of_mem_valueSpecs (neat : NeatSite texts site) {spec : Site}
    (mem : spec ∈ valueSpecs site) : NeatSite texts spec :=
  of_mem_valueSpecs (fun outer => outer.named) neat mem

/-- The specifications of variables list no comments. -/
theorem free_of_mem_valueSpecs (neat : NeatSite texts site)
    (kind : site.node.kind = .varDeclaration) {spec : Site} (mem : spec ∈ valueSpecs site) :
    listsComment .value spec.node = false := by
  have isVariable : spec.node.kind = .varSpec := by
    have either := kind_of_mem_valueSpecs mem
    obtain ⟨child, listed, inside⟩ := List.mem_flatMap.1 mem
    have notConstant : spec.node.kind ≠ .constSpec := by
      split at inside
      · rw [List.mem_singleton.1 inside]
        exact neat.node.tidy.here.specs (.inl kind) _ (mem_children_of_mem_named listed)
      · split at inside
        case isTrue isList =>
          have part := (List.mem_filter.1 inside).1
          exact (neat.named listed).node.tidy.here.specs (.inr (by simpa using isList)) _
            (mem_children_of_mem_named part)
        case isFalse => cases inside
    exact either.resolve_right notConstant
  have free := (neat_of_mem_valueSpecs neat mem).node.uncounted
  rwa [countsComment, isVariable] at free

theorem statementBinding?_kept (neat : NeatSite texts site) (name : String) :
    Bound texts (statementBinding? site name)
      (statementBinding? (site.withoutComments texts) name) := by
  have specs (isConstant : Bool)
      (free : isConstant = false → ∀ spec ∈ valueSpecs site,
        listsComment .value spec.node = false) :
      Bound texts ((valueSpecs site).reverse.findSome? (specBinding? isConstant name))
        ((valueSpecs (site.withoutComments texts)).reverse.findSome?
          (specBinding? isConstant name)) := by
    rw [valueSpecs_withoutComments, ← List.map_reverse]
    refine rel_findSome? ?_ (forall₂_map_and fun spec mem => List.mem_reverse.1 mem)
    rintro spec _ ⟨mem, rfl⟩
    exact specBinding?_kept (neat_of_mem_valueSpecs neat mem)
      (fun value => free value spec mem) name
  unfold statementBinding?
  rw [Site.node_withoutComments, Node.kind_withoutComments]
  split
  case h_1 kind => exact shortBinding?_kept neat kind name
  case h_2 kind => exact specs false fun _ _ mem => free_of_mem_valueSpecs neat kind mem
  case h_3 => exact specs true (by simp)
  case h_4 => exact .none

theorem statementBinding?_of_isComment (comment : site.node.isComment = true) (name : String) :
    statementBinding? site name = none := by
  rw [statementBinding?, beq_iff_eq.1 comment]

end Statements

section Scopes

variable {texts : Node → String} {scope : Site} {child : Node} {name : String}

theorem statementsBinding?_kept (neat : NeatSite texts scope) (child : Node) (name : String) :
    Bound texts (statementsBinding? scope child name)
      (statementsBinding? (scope.withoutComments texts) (child.withoutComments texts) name) := by
  have swapped : (((scope.withoutComments texts).named.reverse).filter fun statement =>
      decide (statement.node.start < (child.withoutComments texts).start)) =
        ((scope.named.reverse.filter fun statement =>
          decide (statement.node.start < child.start)).filter (!·.node.isComment)).map
            (Site.withoutComments texts) := by
    rw [Site.named_withoutComments, ← List.map_reverse, ← List.filter_reverse, List.filter_map,
      List.filter_filter, List.filter_filter]
    simp only [Function.comp_def, Site.node_withoutComments, Node.start_withoutComments,
      Bool.and_comm]
  unfold statementsBinding?
  rw [swapped]
  apply Syntax.rel_findSome?_kept
  · intro statement mem _
    have listed := List.mem_reverse.1 (List.mem_filter.1 mem).1
    exact statementBinding?_kept (neat.named listed) name
  · intro statement _ comment
    exact statementBinding?_of_isComment (by simpa using comment) name

theorem initializerBinding?_kept (neat : NeatSite texts scope) (child : Node) (name : String) :
    Bound texts (initializerBinding? scope child name)
      (initializerBinding? (scope.withoutComments texts) (child.withoutComments texts) name) := by
  unfold initializerBinding?
  rw [Site.child?_withoutComments neat.node.tidy]
  cases here : scope.child? .initializer with
  | none => exact .none
  | some first =>
    simp only [Option.map_some, Option.bind_eq_bind, Option.bind_some, Site.node_withoutComments,
      Node.stop_withoutComments, Node.start_withoutComments]
    split
    · exact statementBinding?_kept (neat.child? here) name
    · exact .none

/-- A comment is not read as a name. -/
theorem beq_text_of_isComment {node : Node} (neat : Neat texts node)
    (comment : node.isComment = true) (word : isWord name = true) :
    (node.text == name) = false := by
  have holds : node.hasComment = true := by
    rw [Node.hasComment, List.any_eq_true]
    exact ⟨_, node.mem_sites_root, comment⟩
  apply beq_false_of_ne
  rintro rfl
  rw [(neat.tidy.here.unread holds).1] at word
  cases word

/-- What is read as a name is the same without comments. -/
theorem beq_text_withoutComments {node : Node} (neat : Neat texts node)
    (word : isWord name = true) :
    ((node.withoutComments texts).text == name) = (node.text == name) :=
  (Node.readAlike_withoutComments neat.tidy).beq_text word

theorem isAliasOf_withoutComments {node : Node} (neat : Neat texts node) (child : Node)
    (word : isWord name = true) :
    isAliasOf (node.withoutComments texts) (child.withoutComments texts) name =
      isAliasOf node child name := by
  unfold isAliasOf
  rw [Node.child?_withoutComments neat.tidy]
  cases here : node.child? .caseName with
  | none => rfl
  | some names =>
    have listed : ((names.withoutComments texts).named.map Node.text).contains name =
        (names.named.map Node.text).contains name := by
      rw [List.contains_eq_any_beq, List.contains_eq_any_beq, List.any_map, List.any_map,
        Node.named_withoutComments]
      apply Syntax.any_kept
      · intro part mem _
        rw [Function.comp_apply, Function.comp_apply, BEq.comm,
          beq_text_withoutComments ((neat.child? here).named mem) word, BEq.comm]
      · intro part mem comment
        rw [Function.comp_apply, BEq.comm]
        exact beq_text_of_isComment ((neat.child? here).named mem) (by simpa using comment) word
    simp only [Option.map_some, Node.stop_withoutComments, Node.start_withoutComments, listed]

theorem declaresTargets_withoutComments {node : Node} (neat : Neat texts node) :
    declaresTargets (node.withoutComments texts) = declaresTargets node := by
  unfold declaresTargets
  rw [Node.children_withoutComments]
  apply Syntax.any_kept
  · intro part mem other
    rw [Node.kind_withoutComments]
    by_cases isToken : part.kind = .token
    · rw [Node.text_of_isSpelled (neat.child mem).tidy (by simp [Node.isSpelled, isToken])
        (by simpa using other)]
    · rw [beq_false_of_ne isToken, Bool.false_and, Bool.false_and]
  · intro part _ comment
    rw [Bool.not_eq_false'] at comment
    simp [beq_iff_eq.1 comment]

/-- A name is the first target of a range with comments or without, or none of both. -/
theorem rangeBinding?_kept (neat : NeatSite texts scope) (kind : scope.node.kind = .rangeClause)
    (word : isWord name = true) :
    Bound texts (rangeBinding? scope name) (rangeBinding? (scope.withoutComments texts) name) := by
  have positions : Option.Rel (fun position position' => position' = 0 ↔ position = 0)
      (positionOf? name (rangeTexts scope))
      (positionOf? name (rangeTexts (scope.withoutComments texts))) := by
    unfold positionOf? rangeTexts
    rw [Site.node_withoutComments, Node.child?_withoutComments neat.node.tidy]
    cases here : scope.node.child? .left with
    | none => exact .none
    | some left =>
      have free := neat.node.tidy.here.targets kind
      rw [here] at free
      rw [Option.map_some, Option.map_some, Option.map_some, Option.getD_some, Option.getD_some,
        List.findIdx?_map, List.findIdx?_map, Node.named_withoutComments]
      apply Syntax.rel_findIdx?_kept
      · intro part mem _
        exact beq_text_withoutComments ((neat.node.child? here).named mem) word
      · intro part mem comment
        exact beq_text_of_isComment ((neat.node.child? here).named mem) (by simpa using comment)
          word
      · intro part first
        rw [Option.any_some, Node.startsWithComment, first] at free
        simpa using free
  rw [rangeBinding?_eq, rangeBinding?_eq, Site.node_withoutComments,
    declaresTargets_withoutComments neat.node]
  split
  · generalize positionOf? name (rangeTexts scope) = position,
      positionOf? name (rangeTexts (scope.withoutComments texts)) = position' at positions
    cases positions with
    | none => exact .none
    | some first => exact .some (.ranged (neat.rel_child? .right) first)
  · exact .none

theorem loopBinding?_kept {clauses : List Site} (neat : ∀ clause ∈ clauses, NeatSite texts clause)
    (child : Node) (word : isWord name = true) :
    Bound texts (loopBinding? child name clauses)
      (loopBinding? (child.withoutComments texts) name
        ((clauses.filter (!·.node.isComment)).map (Site.withoutComments texts))) := by
  induction clauses with
  | nil => exact .none
  | cons clause rest ih =>
    have later := ih fun other mem => neat other (List.mem_cons_of_mem _ mem)
    have here := neat clause List.mem_cons_self
    cases comment : clause.node.isComment with
    | true =>
      have kind : clause.node.kind = .comment := beq_iff_eq.1 comment
      rw [List.filter_cons_of_neg (by simp [comment]), loopBinding?, kind]
      split <;> exact later
    | false =>
      rw [List.filter_cons_of_pos (by simp [comment]), List.map_cons, loopBinding?, loopBinding?,
        Site.node_withoutComments, Node.stop_withoutComments, Node.start_withoutComments,
        Node.kind_withoutComments]
      split
      · exact later
      · split
        case h_1 kind =>
          have bound := rangeBinding?_kept here kind word
          generalize rangeBinding? clause name = binding,
            rangeBinding? (clause.withoutComments texts) name = binding' at bound
          cases bound with
          | none => exact later
          | some same => exact .some same
        case h_2 =>
          rw [Site.child?_withoutComments here.node.tidy]
          cases first : clause.child? .initializer with
          | none => exact later
          | some first' => exact statementBinding?_kept (here.child? first) name
        case h_3 => exact later

theorem parameterBinding?_kept {declaration : Node} (neat : Neat texts declaration)
    (name : String) :
    Bound texts (parameterBinding? name declaration)
      (parameterBinding? name (declaration.withoutComments texts)) := by
  unfold parameterBinding?
  rw [declaredNames_withoutComments neat, Node.kind_withoutComments]
  split
  · split
    · exact .some (.variadic (rel_child?_of_neat neat .type))
    · exact .some (.typed (rel_child?_of_neat neat .type))
  · exact .none

theorem signatureLists_withoutComments {function : Node} (neat : Neat texts function) :
    signatureLists (function.withoutComments texts) =
      (signatureLists function).map (Node.withoutComments texts) := by
  have each : (function.withoutComments texts).child? =
      fun role => (function.child? role).map (Node.withoutComments texts) := by
    funext role
    exact Node.child?_withoutComments neat.tidy role
  unfold signatureLists
  rw [each, ← List.map_filterMap, List.filter_map]
  simp only [Function.comp_def, Node.kind_withoutComments]

theorem neat_of_mem_signatureLists {function list : Node} (neat : Neat texts function)
    (mem : list ∈ signatureLists function) : Neat texts list :=
  neat.child (mem_children_of_mem_signatureLists mem)

theorem functionBinding?_kept {function : Node} (neat : Neat texts function) (name : String) :
    Bound texts (functionBinding? function name)
      (functionBinding? (function.withoutComments texts) name) := by
  change Bound texts ((signatureLists function).findSome? (listBinding? name))
    ((signatureLists (function.withoutComments texts)).findSome? (listBinding? name))
  rw [signatureLists_withoutComments neat]
  refine rel_findSome? ?_ (forall₂_map_and fun list mem => neat_of_mem_signatureLists neat mem)
  rintro list _ ⟨part, rfl⟩
  unfold listBinding?
  rw [parameterDeclarations_withoutComments]
  refine rel_findSome? ?_
    (forall₂_map_and fun declaration mem => neat_of_mem_parameterDeclarations part mem)
  rintro declaration _ ⟨inside, rfl⟩
  exact parameterBinding?_kept inside name

theorem scopeBinding?_kept (neat : NeatSite texts scope) (child : Node)
    (word : isWord name = true) :
    Bound texts (scopeBinding? scope child name)
      (scopeBinding? (scope.withoutComments texts) (child.withoutComments texts) name) := by
  rw [scopeBinding?_eq, scopeBinding?_eq, Site.node_withoutComments, Node.kind_withoutComments]
  cases scopeForm scope.node.kind with
  | statements => exact statementsBinding?_kept neat child name
  | initializer => exact initializerBinding?_kept neat child name
  | typeSwitch =>
    dsimp only
    rw [isAliasOf_withoutComments neat.node child word]
    split
    · exact .some .untold
    · exact initializerBinding?_kept neat child name
  | loop =>
    dsimp only
    rw [Site.named_withoutComments]
    exact loopBinding?_kept (fun clause mem => neat.named mem) child word
  | function => exact functionBinding?_kept neat.node name
  | none => exact .none

/-- The climb ends at the same binding without comments. -/
theorem climb_kept {above : List Node} (neat : ∀ node ∈ above, Neat texts node) (child : Node)
    (word : isWord name = true) :
    Bound texts (climb name child above)
      (climb name (child.withoutComments texts) (above.map (Node.withoutComments texts))) := by
  induction above generalizing child with
  | nil => exact .none
  | cons scope outer ih =>
    have around (node : Node) (mem : node ∈ outer) : Neat texts node :=
      neat node (List.mem_cons_of_mem _ mem)
    rw [List.map_cons, climb_cons, climb_cons]
    exact rel_or
      (scopeBinding?_kept ⟨neat scope List.mem_cons_self, around⟩ child word)
      (ih around scope)

end Scopes

section Symbols

variable {texts : Node → String}

/-- Symbols that say the same with and without comments. -/
structure SymbolKept (texts : Node → String) (symbol other : Symbol) : Prop where
  name : other.name = symbol.name
  kind : other.kind = symbol.kind
  type : Option.Rel (TypeKept texts) symbol.type other.type
  value : symbol.kind ≠ .constant →
    Option.Rel (Initializer.Alike (SiteKept texts)) symbol.value other.value
  method : symbol.kind = .method → SameMethod symbol other

theorem symbolKept_self (symbol : Symbol) : SymbolKept texts symbol symbol where
  name := rfl
  kind := rfl
  type := rel_same fun _ _ => .inl rfl
  value _ := by
    apply rel_same
    intro value _
    cases value with
    | own value => exact .own (.inl rfl)
    | shared value position => exact .shared (.inl rfl) position
  method _ :=
    ⟨rfl, List.forall₂_same.2 fun _ _ => rel_same fun _ _ _ _ => rfl,
      List.forall₂_same.2 fun _ _ _ _ => rfl⟩

theorem sameWord_withoutComments {node : Node} (neat : Neat texts node) :
    SameWord node.text (node.withoutComments texts).text := by
  intro word mem
  apply beq_text_withoutComments neat
  simp only [List.mem_cons, List.not_mem_nil, or_false] at mem
  rcases mem with rfl | rfl <;> decide

theorem typeText_kept {declaration : Node} (neat : Neat texts declaration) :
    SameWord (typeText declaration) (typeText (declaration.withoutComments texts)) := by
  unfold typeText
  dsimp only
  rw [Node.kind_withoutComments, Node.child?_withoutComments neat.tidy]
  split
  · exact sameWord_variadic _ _
  · cases here : declaration.child? .type with
    | none => exact fun _ _ => rfl
    | some type => exact sameWord_withoutComments (neat.child? here)

theorem parameterTypes_kept {list : Option Node} (neat : ∀ node ∈ list, Neat texts node) :
    List.Forall₂ SameWord (parameterTypes list)
      (parameterTypes (list.map (Node.withoutComments texts))) := by
  cases list with
  | none => exact .nil
  | some node =>
    simp only [parameterTypes, Option.map_some, Option.getD_some,
      parameterDeclarations_withoutComments]
    refine List.rel_flatMap (forall₂_map_and fun declaration mem =>
      neat_of_mem_parameterDeclarations (neat node rfl) mem) ?_
    rintro declaration _ ⟨part, rfl⟩
    dsimp only
    rw [groupSize_withoutComments part]
    exact forall₂_replicate (typeText_kept part) _

theorem resultTypes_kept {result : Option Node} (neat : ∀ node ∈ result, Neat texts node) :
    List.Forall₂ SameWord (resultTypes result)
      (resultTypes (result.map (Node.withoutComments texts))) := by
  cases result with
  | none => exact .nil
  | some node =>
    simp only [resultTypes, Option.map_some, Node.kind_withoutComments]
    split
    · exact parameterTypes_kept neat
    · exact .cons (sameWord_withoutComments (neat node rfl)) .nil

theorem methodSymbol_kept {method : Node} (neat : Neat texts method)
    (kind : method.kind = .methodDeclaration) (file : String) :
    SameMethod (methodSymbol file method) (methodSymbol file (method.withoutComments texts)) := by
  refine ⟨?_, ?_, ?_⟩
  · simp only [methodSymbol, receiverName_withoutComments neat kind]
  · simp only [methodSymbol, types_methodParameters, Node.child?_withoutComments neat.tidy]
    rw [List.forall₂_map_left_iff, List.forall₂_map_right_iff]
    exact (parameterTypes_kept fun _ here => neat.child? here).imp fun _ _ => Option.Rel.some
  · simp only [methodSymbol, Node.child?_withoutComments neat.tidy]
    exact resultTypes_kept fun _ here => neat.child? here

theorem specSymbols_kept {spec : Site} (neat : NeatSite texts spec) {symbolKind : SymbolKind}
    (notMethod : symbolKind ≠ .method)
    (free : symbolKind ≠ .constant → listsComment .value spec.node = false) (file : String) :
    List.Forall₂ (SymbolKept texts) (specSymbols file symbolKind spec)
      (specSymbols file symbolKind (spec.withoutComments texts)) := by
  unfold specSymbols
  dsimp only
  rw [Site.node_withoutComments, Node.childrenIn_withoutComments neat.node.tidy, List.length_map,
    List.forall₂_map_left_iff, List.forall₂_map_right_iff]
  refine (forall₂_zipIdx (forall₂_map_and fun title mem => Node.mem_childrenIn_iff.1 mem) 0).imp ?_
  rintro ⟨title, position⟩ ⟨title', position'⟩ ⟨⟨⟨mem, plays⟩, same⟩, again⟩
  obtain rfl : title' = title.withoutComments texts := same
  obtain rfl : position' = position := again
  refine ⟨text_of_name neat.node mem plays, rfl, rel_child?_of_neat neat.node .type, ?_,
    fun isMethod => absurd isMethod notMethod⟩
  intro isVariable
  have values : specValues (spec.withoutComments texts) =
      (specValues spec).map (Site.withoutComments texts) :=
    entriesIn_withoutComments neat (free isVariable)
  dsimp only
  rw [values]
  exact initializer?_alike (forall₂_entriesIn neat .value) _ _

theorem typeSymbols_kept {declaration : Node} (neat : Neat texts declaration) (file : String) :
    List.Forall₂ (SymbolKept texts) (typeSymbols file declaration)
      (typeSymbols file (declaration.withoutComments texts)) := by
  unfold typeSymbols
  dsimp only
  rw [filter_named_withoutComments (p := fun kind => kind == .typeSpec || kind == .typeAlias) rfl,
    List.forall₂_map_left_iff, List.forall₂_map_right_iff, List.forall₂_map_right_iff,
    List.forall₂_same]
  intro spec mem
  have part := neat.named (List.mem_filter.1 mem).1
  exact ⟨nameText_withoutComments part, rfl, rel_child?_of_neat part .type, fun _ => .none,
    fun isMethod => by cases isMethod⟩

theorem declarationSymbols_kept {declaration : Site} (neat : NeatSite texts declaration)
    (file : String) :
    List.Forall₂ (SymbolKept texts) (declarationSymbols file declaration)
      (declarationSymbols file (declaration.withoutComments texts)) := by
  have specs (symbolKind : SymbolKind) (notMethod : symbolKind ≠ .method)
      (free : symbolKind ≠ .constant → ∀ spec ∈ valueSpecs declaration,
        listsComment .value spec.node = false) :
      List.Forall₂ (SymbolKept texts)
        ((valueSpecs declaration).flatMap (specSymbols file symbolKind))
        ((valueSpecs (declaration.withoutComments texts)).flatMap
          (specSymbols file symbolKind)) := by
    rw [valueSpecs_withoutComments]
    refine List.rel_flatMap (forall₂_map_and fun spec mem => mem) ?_
    rintro spec _ ⟨mem, rfl⟩
    exact specSymbols_kept (neat_of_mem_valueSpecs neat mem) notMethod
      (fun isVariable => free isVariable spec mem) file
  unfold declarationSymbols
  rw [Site.node_withoutComments, Node.kind_withoutComments]
  split
  case h_1 =>
    exact .cons ⟨nameText_withoutComments neat.node, rfl, rel_child?_of_neat neat.node .result,
      fun _ => .none, fun isMethod => by cases isMethod⟩ .nil
  case h_2 kind =>
    exact .cons ⟨nameText_withoutComments neat.node, rfl, rel_child?_of_neat neat.node .result,
      fun _ => .none, fun _ => methodSymbol_kept neat.node kind file⟩ .nil
  case h_3 => exact typeSymbols_kept neat.node file
  case h_4 kind =>
    exact specs .variable (by decide) fun _ _ mem => free_of_mem_valueSpecs neat kind mem
  case h_5 => exact specs .constant (by decide) fun isVariable => absurd rfl isVariable
  case h_6 => exact .nil

theorem symbols_kept {root : Node} (neat : Neat texts root) (file : String) :
    List.Forall₂ (SymbolKept texts) (symbols file root)
      (symbols file (root.withoutComments texts)) := by
  have site : NeatSite texts (Site.root root) := ⟨neat, by simp [Site.root]⟩
  unfold symbols
  change List.Forall₂ _ _ (((Site.root root).withoutComments texts).named.flatMap _)
  rw [Site.named_withoutComments]
  apply Syntax.forall₂_flatMap_kept
  · intro declaration mem _
    exact declarationSymbols_kept (site.named mem) file
  · intro declaration _ comment
    rw [Bool.not_eq_false'] at comment
    rw [declarationSymbols, beq_iff_eq.1 comment]

end Symbols

section Indexes

variable {texts : Node → String} {index index' : Index}

theorem find?_kept (all : List.Forall₂ (SymbolKept texts) index.symbols index'.symbols)
    (kinds : List SymbolKind) (name : String) :
    Option.Rel (SymbolKept texts) (index.find? kinds name) (index'.find? kinds name) := by
  apply rel_find? _ all
  intro symbol other same
  rw [same.kind, same.name]

theorem neat_of_mem_resultTypeNodes {result : Node} (neat : Neat texts result)
    {type : Node} (mem : some type ∈ resultTypeNodes (some result)) : Neat texts type := by
  unfold resultTypeNodes at mem
  dsimp only at mem
  split at mem
  · obtain ⟨declaration, listed, copies⟩ := List.mem_flatMap.1 mem
    exact (neat.named (List.mem_filter.1 listed).1).child? (List.mem_replicate.1 copies).2.symm
  · rw [Option.some.inj (List.mem_singleton.1 mem)]
    exact neat

theorem resultTypeNodes_kept {result other : Option Node}
    (same : Option.Rel (TypeKept texts) result other) :
    List.Forall₂ (Option.Rel (TypeKept texts)) (resultTypeNodes result)
      (resultTypeNodes other) := by
  cases same with
  | none => exact .nil
  | @some result other same =>
    rcases same with rfl | ⟨neat, rfl⟩
    · exact List.forall₂_same.2 fun _ _ => rel_same fun _ _ => .inl rfl
    · have inside : ∀ node ∈ some result, Neat texts node := by simpa using neat
      have whole := resultTypeNodes_withoutComments inside
      rw [Option.map_some] at whole
      rw [whole]
      apply forall₂_map_self
      intro type mem
      apply rel_map_self
      rintro type' rfl
      exact .inr ⟨neat_of_mem_resultTypeNodes neat mem, rfl⟩

/-- A package with a file without its comments carries over what is known of the package. -/
theorem carries_kept (all : List.Forall₂ (SymbolKept texts) index.symbols index'.symbols) :
    Carries (TypeKept texts) (SiteKept texts) False (fun _ => True) index index' where
  toTracked := tracked_kept texts
  type? name _ := .inl (rel_imp (fun _ _ same => same.type) (find?_kept all _ name))
  function? name _ :=
    .inl (rel_imp (fun _ _ same => resultTypeNodes_kept same.type) (find?_kept all _ name))
  binding? := by
    rintro site other kept kind
    left
    have isName : site.node.isName = true := by simp [Node.isName, kind]
    have values (name : String) :
        Bound texts ((index.value? name).map symbolBinding)
          ((index'.value? name).map symbolBinding) := by
      have found := find?_kept all [.variable, .constant] name
      unfold Index.value?
      generalize index.find? _ name = symbol, index'.find? _ name = symbol' at found
      cases found with
      | none => exact .none
      | some same => exact .some (symbolBinding_carried same.kind same.type same.value)
    rw [binding?_eq_or, binding?_eq_or]
    rcases kept with rfl | ⟨neat, rfl⟩
    · refine rel_or (rel_same fun binding _ => ?_) (values _)
      exact binding.carried_refl (fun _ => .inl rfl) fun _ => .inl rfl
    · have text := Node.text_of_isName neat.node.tidy isName
      have word := neat.node.tidy.here.word isName
      rw [localBinding?, localBinding?, Site.node_withoutComments, text]
      exact rel_or (climb_kept neat.above _ word) (values _)

end Indexes

end SliceGuard.Typing
