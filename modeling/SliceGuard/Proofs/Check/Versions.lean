import SliceGuard.Proofs.Check.Alike
import SliceGuard.Proofs.Check.Unguarded
import SliceGuard.Proofs.Typing.Symbols

/-!
# Verdicts in two versions of a package

Guards read conditions, range clauses and signatures.  Where two versions differ in lists of
statements alone, corresponding nodes guard corresponding accesses alike, and two accesses whose
operands are bound alike and that are guarded alike are both reported or none.
-/

namespace SliceGuard.Check

open Syntax (Kind Matching Node Role Site Twin)
open Syntax.Node (Rewritten mayDiffer_of_kind mayDiffer_of_role)
open Declarations
open Typing

variable {names : String → Prop} {edit : Node → Node → Prop} {related : Site → Site → Prop}

section Conditions

variable {old new : Node}

theorem plainName?_matched (same : Rewritten names edit old new) :
    plainName? new = plainName? old := by
  unfold plainName?
  rw [same.kind]
  split
  case isTrue kind => rw [same.head.text_of_kind (.inl (by simpa using kind))]
  case isFalse => rfl

theorem plainName?_eq_name {node : Node} {name : String} :
    (node.kind == .identifier && node.text == name) = (plainName? node == some name) := by
  unfold plainName?
  split
  case isTrue kind => simp [kind]
  case isFalse kind => simp [kind]

theorem isLengthCall_matched (same : Rewritten names edit old new) :
    isLengthCall new = isLengthCall old := by
  unfold isLengthCall
  rw [same.kind]
  by_cases kind : old.kind = .callExpression
  · have functions := same.child? (mayDiffer_of_kind kind rfl) .function
    congr 1
    generalize old.child? .function = function, new.child? .function = function' at functions
    cases functions with
    | none => rfl
    | @some function function' part =>
      simp only [Option.any_some, part.kind]
      by_cases isName : function.kind = .identifier
      · rw [part.head.text_of_kind (.inl isName)]
      · rw [beq_false_of_ne isName, Bool.false_and, Bool.false_and]
  · rw [beq_false_of_ne kind, Bool.false_and, Bool.false_and]

theorem hasArgument_matched (same : Rewritten names edit old new)
    (kind : old.kind = .callExpression) (name : String) :
    hasArgument new name = hasArgument old name := by
  have lists := rel_find?_and (fun _ _ part => part.head.plays .arguments)
    (same.children (mayDiffer_of_kind kind rfl))
  unfold hasArgument Node.child?
  generalize old.children.find? (Node.plays .arguments) = list,
    new.children.find? (Node.plays .arguments) = list' at lists
  cases lists with
  | none => rfl
  | @some list list' both =>
    obtain ⟨plays, part⟩ := both
    have role : list.role = some .arguments := by simpa [Node.plays] using plays
    simp only [Option.any_some, plainName?_eq_name]
    refine any_eq ?_ (part.named (mayDiffer_of_role role (by decide)))
    intro argument argument' same
    rw [plainName?_matched same]

theorem measures_matched (same : Rewritten names edit old new) (name : String) :
    measures name new = measures name old := by
  unfold measures
  rw [isLengthCall_matched same]
  by_cases kind : old.kind = .callExpression
  · rw [hasArgument_matched same kind]
  · have other : isLengthCall old = false := by
      rw [isLengthCall, beq_false_of_ne kind, Bool.false_and]
    rw [other, Bool.false_and, Bool.false_and]

theorem operand?_matched (same : Rewritten names edit old new)
    (kind : old.kind = .binaryExpression) (role : Role) :
    Option.Rel (Rewritten names edit) (operand? role old) (operand? role new) := by
  have operands := same.child? (mayDiffer_of_kind kind rfl) role
  unfold operand?
  generalize old.child? role = operand, new.child? role = operand' at operands
  cases operands with
  | none => exact .none
  | some part => exact part.withoutParentheses

theorem operands_matched (same : Rewritten names edit old new)
    (kind : old.kind = .binaryExpression) :
    List.Forall₂ (Rewritten names edit) (operands old) (operands new) := by
  have listed {operand operand' : Option Node}
      (both : Option.Rel (Rewritten names edit) operand operand') :
      List.Forall₂ (Rewritten names edit) operand.toList operand'.toList := by
    cases both with
    | none => exact .nil
    | some part => exact .cons part .nil
  exact List.rel_append (listed (operand?_matched same kind .left))
    (listed (operand?_matched same kind .right))

theorem any_measures_matched (name : String) {nodes others : List Node}
    (all : List.Forall₂ (Rewritten names edit) nodes others) :
    others.any (measures name) = nodes.any (measures name) :=
  any_eq (fun _ _ same => measures_matched same name) all

theorem isCombination_matched (same : Rewritten names edit old new)
    (kind : old.kind = .binaryExpression) : isCombination new = isCombination old := by
  have operators := rel_find?_and (fun _ _ part => part.head.plays .operator)
    (same.children (mayDiffer_of_kind kind rfl))
  unfold isCombination Node.child?
  generalize old.children.find? (Node.plays .operator) = operator,
    new.children.find? (Node.plays .operator) = operator' at operators
  cases operators with
  | none => rfl
  | some both =>
    obtain ⟨plays, part⟩ := both
    rw [Option.any_some, Option.any_some,
      part.head.text_of_role (.inr (by simpa [Node.plays] using plays))]

/-- Corresponding conditions check the same lengths. -/
theorem anyChecks_matched (name : String) {conditions others : List Node}
    (all : List.Forall₂ (Rewritten names edit) conditions others) :
    anyChecks name others = anyChecks name conditions := by
  fun_induction anyChecks name conditions generalizing others with
  | case1 =>
    cases all
    rw [anyChecks]
  | case2 condition pending reached ih =>
    obtain ⟨other, rest, here, later, rfl⟩ := List.forall₂_cons_left_iff.1 all
    have inner := here.withoutParentheses
    rw [reached] at inner
    rw [anyChecks_cons, eq_none_of_rel_none inner]
    exact ih later
  | case3 condition pending node reached binary measured =>
    obtain ⟨other, rest, here, later, rfl⟩ := List.forall₂_cons_left_iff.1 all
    have inner := here.withoutParentheses
    rw [reached] at inner
    obtain ⟨node', reached', part⟩ := exists_of_rel_some inner
    have kind : node.kind = .binaryExpression := by simpa using binary
    have measures := any_measures_matched name (operands_matched part kind)
    rw [anyChecks_cons, reached']
    simp [part.kind, kind, measures, measured]
  | case4 condition pending node reached binary measured combines ih =>
    obtain ⟨other, rest, here, later, rfl⟩ := List.forall₂_cons_left_iff.1 all
    have inner := here.withoutParentheses
    rw [reached] at inner
    obtain ⟨node', reached', part⟩ := exists_of_rel_some inner
    have kind : node.kind = .binaryExpression := by simpa using binary
    have operands := operands_matched part kind
    have measures := any_measures_matched name operands
    rw [anyChecks_cons, reached']
    simp only [part.kind, binary, ↓reduceIte, measures, measured, isCombination_matched part kind,
      combines]
    exact ih (List.rel_append operands later)
  | case5 condition pending node reached binary measured combines ih =>
    obtain ⟨other, rest, here, later, rfl⟩ := List.forall₂_cons_left_iff.1 all
    have inner := here.withoutParentheses
    rw [reached] at inner
    obtain ⟨node', reached', part⟩ := exists_of_rel_some inner
    have kind : node.kind = .binaryExpression := by simpa using binary
    have measures := any_measures_matched name (operands_matched part kind)
    rw [anyChecks_cons, reached']
    simp only [part.kind, binary, ↓reduceIte, measures, measured, isCombination_matched part kind,
      combines]
    exact ih later
  | case6 condition pending node reached other ih =>
    obtain ⟨another, rest, here, later, rfl⟩ := List.forall₂_cons_left_iff.1 all
    have inner := here.withoutParentheses
    rw [reached] at inner
    obtain ⟨node', reached', part⟩ := exists_of_rel_some inner
    rw [anyChecks_cons, reached']
    simp only [part.kind, other]
    exact ih later

theorem checksLength_matched (name : String) {condition other : Option Node}
    (same : Option.Rel (Rewritten names edit) condition other) :
    checksLength other name = checksLength condition name := by
  cases same with
  | none => rfl
  | some same => exact anyChecks_matched name (.cons same .nil)

end Conditions

section Guards

variable {old new : Node}

theorem indexName?_matched (same : Rewritten names edit old new) :
    indexName? new = indexName? old := by
  unfold indexName?
  rw [same.kind]
  split
  case isFalse => rfl
  case isTrue kind =>
    have kind : old.kind = .indexExpression := by simpa using kind
    have positions := same.child? (mayDiffer_of_kind kind rfl) .index
    generalize old.child? .index = position, new.child? .index = position' at positions
    cases positions with
    | none => rfl
    | some part => exact plainName?_matched part

theorem rangedName?_matched
    (children : List.Forall₂ (Rewritten names edit) old.children new.children) :
    rangedName? new = rangedName? old := by
  have containers := child?_of_rewritten children .right
  unfold rangedName?
  generalize old.child? .right = container, new.child? .right = container' at containers
  cases containers with
  | none => rfl
  | @some container container' part =>
    have inner := part.withoutParentheses
    rw [Option.bind_some, Option.bind_some]
    generalize container.withoutParentheses = bare, container'.withoutParentheses = bare' at inner
    cases inner with
    | none => rfl
    | some part => exact plainName?_matched part

theorem rangeKey?_matched
    (children : List.Forall₂ (Rewritten names edit) old.children new.children) :
    rangeKey? new = rangeKey? old := by
  have targets := rel_find?_and (fun _ _ part => part.head.plays .left) children
  unfold rangeKey? Node.child?
  generalize old.children.find? (Node.plays .left) = left,
    new.children.find? (Node.plays .left) = left' at targets
  cases targets with
  | none => rfl
  | @some left left' both =>
    obtain ⟨plays, part⟩ := both
    have role : left.role = some .left := by simpa [Node.plays] using plays
    have named := part.named (mayDiffer_of_role role (by decide))
    rw [Option.bind_some, Option.bind_some]
    generalize left.named = first, left'.named = second at named
    cases named with
    | nil => rfl
    | cons here _ => exact plainName?_matched here

theorem isRangeOver_matched (kept : ∀ node node', edit node node' → node.kind ≠ .rangeClause)
    (same : Rewritten names edit old new) (kind : old.kind = .forStatement) (name : String)
    {access access' : Node}
    (indexed : indexName? access' = indexName? access) :
    isRangeOver new name access' = isRangeOver old name access := by
  have clauses := rel_find?_and (p := fun clause : Node => clause.kind == .rangeClause)
    (q := fun clause : Node => clause.kind == .rangeClause)
    (fun _ _ part => by rw [part.kind]) (same.named (mayDiffer_of_kind kind rfl))
  unfold isRangeOver
  generalize old.named.find? (·.kind == .rangeClause) = clause,
    new.named.find? (·.kind == .rangeClause) = clause' at clauses
  cases clauses with
  | none => rfl
  | @some clause clause' both =>
    obtain ⟨isClause, part⟩ := both
    have isClause : clause.kind = .rangeClause := by simpa using isClause
    have children : List.Forall₂ (Rewritten names edit) clause.children clause'.children := by
      cases part with
      | edited _ _ here => exact absurd isClause (kept _ _ here)
      | spread _ children _ => exact children
    dsimp only
    rw [rangedName?_matched children, rangeKey?_matched children, indexed]

theorem parameterNames_matched (lists : OnlyLists edit)
    (children : List.Forall₂ (Rewritten names edit) old.children new.children) :
    parameterNames (new.child? .parameters) = parameterNames (old.child? .parameters) := by
  have found := rel_find?_and (fun _ _ part => part.head.plays .parameters) children
  unfold parameterNames Node.child?
  generalize old.children.find? (Node.plays .parameters) = list,
    new.children.find? (Node.plays .parameters) = list' at found
  cases found with
  | none => rfl
  | @some list list' both =>
    obtain ⟨plays, part⟩ := both
    have role : list.role = some .parameters := by simpa [Node.plays] using plays
    have declarations := parameterDeclarations_matched part (mayDiffer_of_role role (by decide))
    have listed : (parameterDeclarations list').map declaredNames =
        (parameterDeclarations list).map declaredNames := by
      apply map_eq _ declarations
      rintro declaration declaration' ⟨isDeclaration, same⟩
      apply declaredNames_of_children (lists.children same _)
      rintro kind
      simp [isParameter, kind] at isDeclaration
    simp only [Option.map_some, Option.getD_some]
    rw [List.flatMap_def, List.flatMap_def, listed]

/-- Corresponding nodes guard corresponding accesses alike. -/
theorem isGuard_matched (lists : OnlyLists edit) {index index' : Index}
    (sortable : ∀ type, names type → index'.isSortable type = index.isSortable type)
    (same : Rewritten names edit old new) (name : String) {access access' : Node}
    (indexed : indexName? access' = indexName? access) :
    isGuard index' name access' new = isGuard index name access old := by
  unfold isGuard
  rw [same.kind]
  split
  case h_1 kind =>
    exact checksLength_matched name (same.child? (mayDiffer_of_kind kind rfl) .condition)
  case h_2 kind =>
    refine isRangeOver_matched (fun node node' here isClause => ?_) same kind name indexed
    rw [lists _ _ here] at isClause
    cases isClause
  case h_3 kind =>
    have children := same.children (mayDiffer_of_kind kind rfl)
    obtain ⟨receivers, asked⟩ := receiverName_matched lists children
    have types : (receiverName old).any index'.isSortable =
        (receiverName old).any index.isSortable := by
      cases receiver : receiverName old with
      | none => rfl
      | some type => exact sortable type (asked type receiver)
    unfold isSortMethod
    rw [nameText_of_children children, receivers, parameterNames_matched lists children, indexed,
      types]
  case h_4 => rfl

theorem isGuarded_eq_any (index : Index) (name : String) (access : Site) :
    isGuarded index name access = access.above.any (isGuard index name access.node) := by
  rw [Bool.eq_iff_iff, isGuarded_iff, List.any_eq_true]

section Twins

variable {start : Site → Site → Prop} {index index' : Index} {name : String}
  {access access' : Node}

/-- Where twins guard alike, so do all nodes around them, apart from what the sites where both
versions start have around them in one version alone. -/
theorem any_isGuard_of_step
    (step : ∀ old new, Twin names edit start old new →
      isGuard index' name access' new.node = isGuard index name access old.node) (extra : Bool)
    (begins : ∀ old new, start old new → new.above.any (isGuard index' name access') =
      (old.above.any (isGuard index name access) || extra))
    {site site' : Site} (twin : Twin names edit start site site') :
    site'.above.any (isGuard index' name access') =
      (site.above.any (isGuard index name access) || extra) := by
  induction twin with
  | start here => exact begins _ _ here
  | child outer spread position here here' ih =>
    rw [Site.above_below, Site.above_below, List.any_cons, List.any_cons, ih, step _ _ outer,
      Bool.or_assoc]

theorem any_isGuard_twin (lists : OnlyLists edit)
    (starts : ∀ old new, start old new → Rewritten names edit old.node new.node)
    (sortable : ∀ type, names type → index'.isSortable type = index.isSortable type)
    (indexed : indexName? access' = indexName? access) (extra : Bool)
    (begins : ∀ old new, start old new → new.above.any (isGuard index' name access') =
      (old.above.any (isGuard index name access) || extra))
    {site site' : Site} (twin : Twin names edit start site site') :
    site'.above.any (isGuard index' name access') =
      (site.above.any (isGuard index name access) || extra) :=
  any_isGuard_of_step
    (fun _ _ outer => isGuard_matched lists sortable (outer.rewritten starts) name indexed) extra
    begins twin

end Twins

end Guards

section Verdicts

variable {index index' : Index} {old new : Site}

theorem operandName?_matched (matching : Matching names edit related) (here : related old new)
    (kind : old.node.kind.isAccess = true) :
    Option.Rel related (operandName? old) (operandName? new) := by
  have must : old.node.mayDiffer = false := by
    rcases Bool.or_eq_true_iff.1 kind with kind | kind
    · exact mayDiffer_of_kind (by simpa using kind) rfl
    · exact mayDiffer_of_kind (by simpa using kind) rfl
  have operands := matching.child? here must .operand
  unfold operandName?
  generalize old.child? .operand = operand, new.child? .operand = operand' at operands
  cases operands with
  | none => exact .none
  | some part =>
    rw [Option.filter_some, Option.filter_some, matching.kind part]
    split
    · exact .some part
    · exact .none

/-- Whether an access is checked at all, before any look at guards. -/
def isChecked (index : Index) (access operand : Site) : Bool :=
  access.node.kind == .sliceExpression || access.node.kind == .indexExpression &&
    (classOf index operand).any TypeClass.isPositional

theorem isReported_verdict_eq {access operand : Site} (named : operandName? access = some operand) :
    (verdict index access).isReported =
      (isChecked index access operand && !isGuarded index operand.node.text access) := by
  rw [verdict, named, isChecked, classOf]
  dsimp only
  cases access.node.kind == .sliceExpression with
  | true => exact isReported_guardVerdict _ _
  | false =>
    cases access.node.kind == .indexExpression with
    | false => rfl
    | true =>
      cases (typeOf index operand).typeClass?.any TypeClass.isPositional with
      | false => rfl
      | true => exact isReported_guardVerdict _ _

theorem isReported_of_not_isAccess {access : Site} (kind : access.node.kind.isAccess = false) :
    (verdict index access).isReported = false := by
  obtain ⟨slices, indexes⟩ := Bool.or_eq_false_iff.1 kind
  unfold verdict
  cases operandName? access with
  | none => rfl
  | some operand => simp [slices, indexes, Verdict.isReported]

theorem isGuard_of_isSortable (same : index'.isSortable = index.isSortable) :
    isGuard index' = isGuard index := by
  funext name access node
  unfold isGuard isSortMethod
  rw [same]

/-- An access whose operand has the same class in two indexes is reported in both or in none, if the
same types are sortable. -/
theorem isReported_of_classOf {access : Site} (sortable : index'.isSortable = index.isSortable)
    (classes : ∀ operand, operandName? access = some operand →
      classOf index' operand = classOf index operand) :
    (verdict index' access).isReported = (verdict index access).isReported := by
  cases named : operandName? access with
  | none => simp [verdict, named]
  | some operand =>
    rw [isReported_verdict_eq named, isReported_verdict_eq named, isChecked, isChecked,
      classes operand named, isGuarded_eq_any, isGuarded_eq_any, isGuard_of_isSortable sortable]

/-- Corresponding accesses whose operands have the same class: one is reported if the other one is,
apart from the guards that only one of them has. -/
theorem isReported_matched (matching : Matching names edit related) (here : related old new)
    (classes : ∀ operand operand', operandName? old = some operand → related operand operand' →
      classOf index' operand' = classOf index operand) (extra : String → Bool)
    (guards : ∀ operand, operandName? old = some operand →
      isGuarded index' operand.node.text new =
        (isGuarded index operand.node.text old || extra operand.node.text)) :
    (verdict index' new).isReported =
      ((verdict index old).isReported && !(operandName? old).any (extra ·.node.text)) := by
  cases access : old.node.kind.isAccess with
  | false =>
    have access' : new.node.kind.isAccess = false := by rw [matching.kind here, access]
    rw [isReported_of_not_isAccess access, isReported_of_not_isAccess access', Bool.false_and]
  | true =>
    have operands := operandName?_matched matching here access
    cases named : operandName? old with
    | none =>
      rw [named] at operands
      have named' := eq_none_of_rel_none operands
      simp [verdict, named, named', Verdict.isReported]
    | some operand =>
      rw [named] at operands
      obtain ⟨operand', named', part⟩ := exists_of_rel_some operands
      have isName := (operandName?_eq_some_iff.1 named).2
      rw [isReported_verdict_eq named, isReported_verdict_eq named', isChecked, isChecked,
        classes operand operand' named part, matching.kind here, matching.text part isName,
        guards operand named, Bool.not_or, Option.any_some, Bool.and_assoc]

end Verdicts

end SliceGuard.Check
