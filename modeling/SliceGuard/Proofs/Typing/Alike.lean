import SliceGuard.Proofs.Declarations.Alike
import SliceGuard.Proofs.Typing.Declaration
import SliceGuard.Typing.Expression

/-!
# Types in packages with the same declarations

Where two sites stand for one another, and the scopes around them bind names alike, an expression has
the same type in both, apart from the places of the type nodes.  The induction is on the number of
values that are followed: every step leads from two sites that stand for one another to two others.
-/

namespace SliceGuard.Typing

open Syntax (Kind Node Role Site Span)
open Declarations

/-- What is known of a type, without the places of its parts. -/
def TypeInfo.bare (info : TypeInfo) : TypeInfo :=
  { info with element := info.element.map Node.bare, key := info.key.map Node.bare }

def Knowledge.bare (knowledge : Knowledge) : Knowledge :=
  knowledge.map TypeInfo.bare

@[simp] theorem Knowledge.bare_error (cause : Unknown) :
    Knowledge.bare (.error cause) = .error cause := rfl

@[simp] theorem Knowledge.bare_ok (info : TypeInfo) :
    Knowledge.bare (.ok info) = .ok info.bare := rfl

theorem Knowledge.typeClass?_eq_of_bare {knowledge other : Knowledge}
    (same : other.bare = knowledge.bare) : other.typeClass? = knowledge.typeClass? := by
  cases knowledge with
  | error cause =>
    cases other with
    | error cause' => rfl
    | ok info => simp at same
  | ok info =>
    cases other with
    | error cause => simp at same
    | ok info' =>
      simp only [bare_ok, Except.ok.injEq] at same
      have classes := congrArg TypeInfo.typeClass same
      exact congrArg some classes

/-- Computations that agree up to places go on to agree. -/
theorem Knowledge.bare_bind {knowledge other : Knowledge} {f g : TypeInfo → Knowledge}
    (same : other.bare = knowledge.bare)
    (after : ∀ info info' : TypeInfo, info'.bare = info.bare → (g info').bare = (f info).bare) :
    Knowledge.bare (other >>= g) = Knowledge.bare (knowledge >>= f) := by
  cases knowledge with
  | error cause =>
    cases other with
    | error cause' =>
      simp only [bare_error, Except.error.injEq] at same
      subst same
      rfl
    | ok info => simp at same
  | ok info =>
    cases other with
    | error cause => simp at same
    | ok info' =>
      simp only [bare_ok, Except.ok.injEq] at same
      exact after info info' same

/-- What is picked does not depend on the places of the nodes. -/
theorem blind_of_coreRule {kind : Kind} {picks : Node → Bool} (rule : coreRule kind = some picks)
    (node : Node) : picks (Node.relocate (fun _ => default) node) = picks node := by
  unfold coreRule at rule
  split at rule <;> cases rule
  · exact Node.isNamed_relocate _ node
  · exact Node.plays_relocate _ .type node

theorem typeCore_bare (type : Option Node) :
    (type.map Node.bare).bind typeCore = (type.bind typeCore).map Node.bare := by
  cases type with
  | none => rfl
  | some type => exact Node.descend_relocate _ (fun _ _ => blind_of_coreRule) type

theorem writtenOut_bare (core : Node) : (writtenOut core).bare = writtenOut core.bare := by
  unfold writtenOut
  rw [Node.kind_bare]
  split <;> simp [TypeInfo.bare, TypeInfo.plain]

section

variable {related : Site → Site → Prop} {old new : Index}

theorem rel_of_map_bare {node other : Option Node}
    (same : other.map Node.bare = node.map Node.bare) :
    Option.Rel (fun node other : Node => other.bare = node.bare) node other := by
  cases node with
  | none =>
    cases other with
    | none => exact .none
    | some _ => simp at same
  | some node =>
    cases other with
    | none => simp at same
    | some other => exact .some (Option.some.inj same)

theorem core_alike {type other : Option Node} (same : other.map Node.bare = type.map Node.bare) :
    Option.Rel (fun core core' : Node => core'.bare = core.bare) (type.bind typeCore)
      (other.bind typeCore) := by
  apply rel_of_map_bare
  rw [← typeCore_bare, ← typeCore_bare, same]

theorem kind_of_bare {node other : Node} (same : other.bare = node.bare) :
    other.kind = node.kind := by
  rw [← Node.kind_bare, same, Node.kind_bare]

theorem isTypeName_of_bare {core other : Node} (same : other.bare = core.bare) :
    isTypeName other = isTypeName core := by
  rw [isTypeName, isTypeName, kind_of_bare same]

theorem text_of_bare {node other : Node} (same : other.bare = node.bare) :
    other.text = node.text := by
  rw [← Node.text_bare, same, Node.text_bare]

theorem writtenOut_of_bare {core other : Node} (same : other.bare = core.bare) :
    (writtenOut other).bare = (writtenOut core).bare := by
  rw [writtenOut_bare, same, writtenOut_bare]

theorem undeclared_alike (alike : Index.Alike related old new) {name : String}
    (undeclared : old.type? name = none) : new.type? name = none := by
  have symbols := alike.find? [.type] name
  rw [← Index.type?, undeclared] at symbols
  exact eq_none_of_rel_none symbols

theorem declared_alike (alike : Index.Alike related old new) {name : String} {symbol : Symbol}
    (declared : old.type? name = some symbol) :
    ∃ other, new.type? name = some other ∧
      Option.Rel (fun core core' : Node => core'.bare = core.bare) (symbol.type.bind typeCore)
        (other.type.bind typeCore) := by
  have symbols := alike.find? [.type] name
  rw [← Index.type?, declared] at symbols
  obtain ⟨other, found, same⟩ := exists_of_rel_some symbols
  exact ⟨other, found, core_alike same.type⟩

/-- A declared name stands for the same type. -/
theorem followName_alike (alike : Index.Alike related old new) (fresh : List String)
    (name : String) : (followName new fresh name).bare = (followName old fresh name).bare := by
  -- The branch that the old index takes is also the one of the new index.
  fun_induction followName old fresh name with
  | case1 fresh name undeclared =>
    rw [followName, undeclared_alike alike undeclared]
  | case2 fresh name symbol declared isFresh coreless =>
    obtain ⟨other, found, cores⟩ := declared_alike alike declared
    rw [coreless] at cores
    rw [followName, found]
    simp [isFresh, eq_none_of_rel_none cores]
  | case3 fresh name symbol declared isFresh core reached isName ih =>
    obtain ⟨other, found, cores⟩ := declared_alike alike declared
    rw [reached] at cores
    obtain ⟨core', reached', same⟩ := exists_of_rel_some cores
    rw [followName, found]
    simp only [isFresh, ↓reduceIte, reached', isTypeName_of_bare same, isName, text_of_bare same]
    exact ih
  | case4 fresh name symbol declared isFresh core reached notName =>
    obtain ⟨other, found, cores⟩ := declared_alike alike declared
    rw [reached] at cores
    obtain ⟨core', reached', same⟩ := exists_of_rel_some cores
    rw [followName, found]
    simp only [isFresh, ↓reduceIte, reached', isTypeName_of_bare same, notName]
    exact writtenOut_of_bare same
  | case5 fresh name symbol declared notFresh =>
    obtain ⟨other, found, _⟩ := declared_alike alike declared
    rw [followName, found]
    simp [notFresh]

theorem namedType_alike (alike : Index.Alike related old new) (name : String) :
    (namedType new name).bare = (namedType old name).bare := by
  rw [namedType, namedType, alike.typeNames]
  exact followName_alike alike _ name

/-- A type that is the same apart from its places has the same underlying type. -/
theorem underlying_alike (alike : Index.Alike related old new) {type other : Option Node}
    (same : other.map Node.bare = type.map Node.bare) :
    (underlying new other).bare = (underlying old type).bare := by
  have cores := core_alike same
  unfold underlying
  cases reached : type.bind typeCore with
  | none =>
    rw [reached] at cores
    rw [eq_none_of_rel_none cores]
  | some core =>
    rw [reached] at cores
    obtain ⟨core', reached', bares⟩ := exists_of_rel_some cores
    rw [reached']
    dsimp only
    rw [isTypeName_of_bare bares, text_of_bare bares]
    split
    · exact namedType_alike alike core.text
    · exact writtenOut_of_bare bares

end

/-- Bindings that say the same of a name. -/
inductive Binding.Alike (related : Site → Site → Prop) : Binding → Binding → Prop
  | constant : Alike related .constant .constant
  | typed {type other : Option Node} (same : other.map Node.bare = type.map Node.bare) :
      Alike related (.typed type) (.typed other)
  | variadic {element other : Option Node} (same : other.map Node.bare = element.map Node.bare) :
      Alike related (.variadic element) (.variadic other)
  | initialized {value other : Initializer} (same : Initializer.Alike related value other) :
      Alike related (.initialized value) (.initialized other)
  | ranged {container other : Option Site} (same : Option.Rel related container other)
      (position : Nat) : Alike related (.ranged container position) (.ranged other position)
  | untold : Alike related .untold .untold

section

variable {related : Site → Site → Prop} {old new : Site}

theorem Binding.ofValues_alike {values others : List Site}
    (all : List.Forall₂ related values others) (position count : Nat) :
    Binding.Alike related (.ofValues values position count) (.ofValues others position count) := by
  have value := assigned?_alike all position count
  unfold Binding.ofValues
  generalize assigned? values position count = first,
    assigned? others position count = second at value
  cases value with
  | none => exact .untold
  | some same => exact .initialized same

theorem shortBinding?_alike (parallel : Parallel related) (here : related old new)
    (name : String) :
    Option.Rel (Binding.Alike related) (shortBinding? old name) (shortBinding? new name) := by
  have targets := parallel.namedIn here .left
  have values := parallel.namedIn here .right
  have position := findIdx?_eq
    (p := fun target : Site => target.node.kind == .identifier && target.node.text == name)
    (q := fun target : Site => target.node.kind == .identifier && target.node.text == name)
    (fun target other same => by rw [parallel.kind same, parallel.text same]) targets
  unfold shortBinding?
  dsimp only
  rw [position, targets.length_eq]
  cases List.findIdx? (fun target : Site =>
    target.node.kind == .identifier && target.node.text == name) _ with
  | none => exact .none
  | some position => exact .some (Binding.ofValues_alike values position _)

theorem specBinding?_alike (parallel : Parallel related) (here : related old new)
    (isConstant : Bool) (name : String) :
    Option.Rel (Binding.Alike related) (specBinding? isConstant name old)
      (specBinding? isConstant name new) := by
  obtain ⟨move, moved, _⟩ := parallel old new here
  unfold specBinding?
  dsimp only
  rw [moved, declaredNames_relocate, Node.child?_relocate]
  cases positionOf? name (declaredNames old.node) with
  | none => exact .none
  | some position =>
    cases isConstant with
    | true => exact .some .constant
    | false =>
      cases old.node.child? .type with
      | none => exact .some (Binding.ofValues_alike (parallel.specValues here) position _)
      | some type => exact .some (.typed (by simp))

/-- Statements that stand for one another bind a name alike. -/
theorem statementBinding?_alike (parallel : Parallel related) (here : related old new)
    (name : String) :
    Option.Rel (Binding.Alike related) (statementBinding? old name)
      (statementBinding? new name) := by
  have specs := List.rel_reverse (parallel.valueSpecs here)
  unfold statementBinding?
  rw [parallel.kind here]
  split
  · exact shortBinding?_alike parallel here name
  · exact rel_findSome? (fun _ _ same => specBinding?_alike parallel same false name) specs
  · exact rel_findSome? (fun _ _ same => specBinding?_alike parallel same true name) specs
  · exact .none

theorem rangeBinding?_alike (parallel : Parallel related) (here : related old new)
    (name : String) :
    Option.Rel (Binding.Alike related) (rangeBinding? old name) (rangeBinding? new name) := by
  obtain ⟨move, moved, _⟩ := parallel old new here
  have container := parallel.child? here .right
  unfold rangeBinding?
  rw [moved, Node.child?_relocate, Node.children_relocate]
  cases old.node.child? .left with
  | none => exact .none
  | some left =>
    simp only [Option.map_some, Option.bind_eq_bind, Option.bind_some, List.any_map,
      Function.comp_def, Node.kind_relocate, Node.text_relocate, Node.named_relocate, List.map_map]
    split
    · cases positionOf? name (left.named.map Node.text) with
      | none => exact .none
      | some position => exact .some (.ranged container position)
    · exact .none

theorem parameterBinding?_alike {declaration other : Node} (same : other.bare = declaration.bare)
    (name : String) :
    Option.Rel (Binding.Alike related) (parameterBinding? name declaration)
      (parameterBinding? name other) := by
  have names : declaredNames other = declaredNames declaration := by
    rw [← declaredNames_relocate (fun _ => default) other, ← Node.bare, same, Node.bare,
      declaredNames_relocate]
  have types := SameHead.of_bare same .type (by decide)
  unfold parameterBinding?
  rw [names, kind_of_bare same]
  split
  · split
    · exact .some (.variadic types)
    · exact .some (.typed types)
  · exact .none

/-- A function binds its parameters alike whatever its body is. -/
theorem functionBinding?_alike {function other : Node} (head : SameHead function other)
    (name : String) :
    Option.Rel (Binding.Alike related) (functionBinding? function name)
      (functionBinding? other name) := by
  unfold functionBinding?
  dsimp only
  have lists : List.Forall₂ (fun list list' : Node => list'.bare = list.bare)
      ([.parameters, .receiver, .result].filterMap function.child?)
      ([.parameters, .receiver, .result].filterMap other.child?) := by
    refine List.rel_filterMap (R := fun role role' => role = role' ∧ role ≠ .body) ?_ (by simp)
    rintro role _ ⟨rfl, notBody⟩
    exact rel_of_map_bare (head role notBody)
  refine rel_findSome? ?_ (forall₂_filter ?_ lists)
  · intro list list' same
    refine rel_findSome? (fun _ _ same => parameterBinding?_alike same name) ?_
    have declarations (list : Node) :
        (parameterDeclarations list).map Node.bare = parameterDeclarations list.bare :=
      (parameterDeclarations_relocate _ list).symm
    apply forall₂_of_map_eq
    rw [declarations, declarations, same]
  · intro list list' same
    rw [kind_of_bare same]

end

/-- Parts of scopes that stand for one another, each on the same side of a child of its scope. -/
structure Placed (related : Site → Site → Prop) (child child' : Node) (part other : Site) : Prop where
  alike : related part other
  start : other.node.start < child'.start ↔ part.node.start < child.start
  stop : other.node.stop ≤ child'.start ↔ part.node.stop ≤ child.start

/-- Scopes that stand for one another, asked for children that stand for one another. -/
structure ScopeAlike (related : Site → Site → Prop) (move : Span → Span) (child child' : Node)
    (scope other : Site) : Prop where
  moved : other.node = scope.node.relocate move
  part : ∀ part ∈ scope.node.children,
    Placed related child child' (scope.below part) (other.below (part.relocate move))

namespace ScopeAlike

variable {related : Site → Site → Prop} {move : Span → Span} {child child' : Node}
  {scope other : Site}

theorem named (alike : ScopeAlike related move child child' scope other) :
    List.Forall₂ (Placed related child child') scope.named other.named :=
  named_of_children alike.moved alike.part

theorem child? (alike : ScopeAlike related move child child' scope other) (role : Role) :
    Option.Rel (Placed related child child') (scope.child? role) (other.child? role) :=
  child?_of_children alike.moved alike.part role

theorem statementsBinding? (parallel : Parallel related)
    (alike : ScopeAlike related move child child' scope other) (name : String) :
    Option.Rel (Binding.Alike related) (statementsBinding? scope child name)
      (statementsBinding? other child' name) := by
  refine rel_findSome? (fun _ _ placed => statementBinding?_alike parallel placed.alike name)
    (forall₂_filter ?_ (List.rel_reverse alike.named))
  intro statement statement' placed
  exact decide_eq_decide.2 placed.start

theorem initializerBinding? (parallel : Parallel related)
    (alike : ScopeAlike related move child child' scope other) (name : String) :
    Option.Rel (Binding.Alike related) (initializerBinding? scope child name)
      (initializerBinding? other child' name) := by
  have first := alike.child? .initializer
  unfold Typing.initializerBinding?
  generalize scope.child? .initializer = initializer,
    other.child? .initializer = initializer' at first
  cases first with
  | none => exact .none
  | some placed =>
    simp only [Option.bind_eq_bind, Option.bind_some, placed.stop]
    split
    · exact statementBinding?_alike parallel placed.alike name
    · exact .none

theorem isAliasOf (alike : ScopeAlike related move child child' scope other) (name : String) :
    isAliasOf other.node child' name = isAliasOf scope.node child name := by
  unfold Typing.isAliasOf
  rw [alike.moved, Node.child?_relocate]
  cases found : scope.node.child? .caseName with
  | none => rfl
  | some names =>
    have placed := alike.part names (Node.mem_children_of_child? found)
    simp only [Option.map_some, Node.named_relocate, List.map_map, Function.comp_def,
      Node.text_relocate]
    congr 1
    exact decide_eq_decide.2 placed.stop

theorem loopBinding? (parallel : Parallel related) {clauses others : List Site}
    (all : List.Forall₂ (Placed related child child') clauses others) (name : String) :
    Option.Rel (Binding.Alike related) (loopBinding? child name clauses)
      (loopBinding? child' name others) := by
  induction all with
  | nil => exact .none
  | @cons clause clause' clauses others placed _ ih =>
    have starts : child'.start < clause'.node.stop ↔ child.start < clause.node.stop := by
      rw [← Nat.not_le, ← Nat.not_le, placed.stop]
    have ranges := rangeBinding?_alike parallel placed.alike name
    have first := parallel.child? placed.alike .initializer
    unfold Typing.loopBinding?
    simp only [starts, parallel.kind placed.alike]
    split
    · exact ih
    · split
      · generalize rangeBinding? clause name = binding,
          rangeBinding? clause' name = binding' at ranges
        cases ranges with
        | none => exact ih
        | some same => exact .some same
      · generalize clause.child? .initializer = initializer,
          clause'.child? .initializer = initializer' at first
        cases first with
        | none => exact ih
        | some same => exact statementBinding?_alike parallel same name
      · exact ih

/-- Scopes that stand for one another bind a name alike. -/
theorem scopeBinding? (parallel : Parallel related)
    (alike : ScopeAlike related move child child' scope other) (name : String) :
    Option.Rel (Binding.Alike related) (scopeBinding? scope child name)
      (scopeBinding? other child' name) := by
  have kind : other.node.kind = scope.node.kind := by rw [alike.moved, Node.kind_relocate]
  have head : SameHead scope.node other.node :=
    .of_bare (by rw [alike.moved, Node.bare_relocate])
  rw [scopeBinding?_eq, scopeBinding?_eq, kind]
  cases scopeForm scope.node.kind with
  | statements => exact alike.statementsBinding? parallel name
  | initializer => exact alike.initializerBinding? parallel name
  | typeSwitch =>
    dsimp only
    rw [alike.isAliasOf name]
    split
    · exact .some .untold
    · exact alike.initializerBinding? parallel name
  | loop => exact loopBinding? parallel alike.named name
  | function => exact functionBinding?_alike head name
  | none => exact .none

end ScopeAlike

theorem symbolBinding_alike {related : Site → Site → Prop} {symbol other : Symbol}
    (same : Symbol.Alike related symbol other) :
    Binding.Alike related (symbolBinding symbol) (symbolBinding other) := by
  have type := rel_of_map_bare same.type
  have value := same.value
  unfold symbolBinding
  rw [same.kind]
  split
  · exact .constant
  · generalize symbol.type = first, other.type = second at type
    cases type with
    | some same => exact .typed (congrArg some same)
    | none =>
      generalize symbol.value = first, other.value = second at value
      cases value with
      | none => exact .untold
      | some same => exact .initialized same

/-- Sites that stand for one another, with scopes around them that bind names alike. -/
structure Simulates (related : Site → Site → Prop) : Prop where
  parallel : Parallel related
  resolved : ∀ old new, related old new →
    Option.Rel (Binding.Alike related) (localBinding? old) (localBinding? new)

/-- Ways to follow a value that agree on sites that stand for one another. -/
def Follow.Alike (related : Site → Site → Prop) (follow other : Follow) : Prop :=
  ∀ old new, related old new → (other new).bare = (follow old).bare

section

variable {related : Site → Site → Prop} {index index' : Index} {follow follow' : Follow}
  {old new : Site}

theorem Simulates.binding? (simulates : Simulates related)
    (indexes : Index.Alike related index index') (here : related old new) :
    Option.Rel (Binding.Alike related) (binding? index old) (binding? index' new) := by
  have bound := simulates.resolved old new here
  have symbols := indexes.find? [.variable, .constant] old.node.text
  unfold Typing.binding? Index.value?
  rw [simulates.parallel.text here]
  generalize localBinding? old = first, localBinding? new = second at bound
  cases bound with
  | some same => exact .some same
  | none =>
    generalize index.find? _ _ = first, index'.find? _ _ = second at symbols
    cases symbols with
    | none => exact .none
    | some same => exact .some (symbolBinding_alike same)

theorem Follow.Alike.maybe (follows : Follow.Alike related follow follow') {site other : Option Site}
    (same : Option.Rel related site other) :
    (follow'.maybe other).bare = (follow.maybe site).bare := by
  cases same with
  | none => rfl
  | some here => exact follows _ _ here

theorem sliceOf_bare (info : TypeInfo) : (sliceOf info).bare = sliceOf info.bare := by
  unfold sliceOf
  split <;> simp_all [TypeInfo.bare, TypeInfo.plain]

theorem typeClass_of_bare {info other : TypeInfo} (same : other.bare = info.bare) :
    other.typeClass = info.typeClass := by
  have := congrArg TypeInfo.typeClass same
  simpa [TypeInfo.bare] using this

theorem element_of_bare {info other : TypeInfo} (same : other.bare = info.bare) :
    other.element.map Node.bare = info.element.map Node.bare := by
  have := congrArg TypeInfo.element same
  simpa [TypeInfo.bare] using this

theorem key_of_bare {info other : TypeInfo} (same : other.bare = info.bare) :
    other.key.map Node.bare = info.key.map Node.bare := by
  have := congrArg TypeInfo.key same
  simpa [TypeInfo.bare] using this

theorem elementOf_alike (indexes : Index.Alike related index index') {info other : TypeInfo}
    (same : other.bare = info.bare) :
    (elementOf index' other).bare = (elementOf index info).bare := by
  unfold elementOf
  rw [typeClass_of_bare same]
  split
  · exact underlying_alike indexes (element_of_bare same)
  · rfl

theorem rangeTarget_alike (indexes : Index.Alike related index index') {info other : TypeInfo}
    (same : other.bare = info.bare) (position : Nat) :
    (rangeTarget index' other position).bare = (rangeTarget index info position).bare := by
  unfold rangeTarget
  rw [typeClass_of_bare same]
  split
  · split
    · exact underlying_alike indexes (key_of_bare same)
    all_goals rfl
  · split
    · exact underlying_alike indexes (element_of_bare same)
    · rfl

theorem resultTypeNodes_alike {result other : Option Node}
    (same : other.map Node.bare = result.map Node.bare) :
    List.Forall₂ (fun type type' : Option Node => type'.map Node.bare = type.map Node.bare)
      (resultTypeNodes result) (resultTypeNodes other) := by
  have bares (node : Option Node) :
      (resultTypeNodes node).map (Option.map Node.bare) = resultTypeNodes (node.map Node.bare) :=
    (resultTypeNodes_relocate _ node).symm
  apply forall₂_of_map_eq
  rw [bares, bares, same]

theorem onlyResult_alike (indexes : Index.Alike related index index') (name : String) :
    (onlyResult index' name).bare = (onlyResult index name).bare := by
  have symbols := indexes.find? [.function] name
  unfold onlyResult Index.function?
  generalize index.find? _ _ = symbol, index'.find? _ _ = symbol' at symbols
  cases symbols with
  | none => rfl
  | @some symbol symbol' same =>
    have types := resultTypeNodes_alike same.type
    simp only [Option.map_some]
    generalize resultTypeNodes symbol.type = first,
      resultTypeNodes symbol'.type = second at types
    cases types with
    | nil => rfl
    | cons here rest =>
      cases rest with
      | nil => exact underlying_alike indexes here
      | cons _ _ => rfl

theorem resultAt_alike (indexes : Index.Alike related index index') {call other : Node}
    (head : SameHead call other) (position : Nat) :
    (resultAt index' other position).bare = (resultAt index call position).bare := by
  have functions := rel_of_map_bare (head .function (by decide))
  unfold resultAt
  generalize call.child? .function = function, other.child? .function = function' at functions
  cases functions with
  | none => rfl
  | @some function function' same =>
    dsimp only
    rw [kind_of_bare same, text_of_bare same]
    split
    · have symbols := indexes.find? [.function] function.text
      unfold Index.function?
      generalize index.find? _ _ = symbol, index'.find? _ _ = symbol' at symbols
      cases symbols with
      | none => rfl
      | @some symbol symbol' same =>
        have types := rel_getElem? (resultTypeNodes_alike same.type) position
        dsimp only
        generalize (resultTypeNodes symbol.type)[position]? = first,
          (resultTypeNodes symbol'.type)[position]? = second at types
        cases types with
        | none => rfl
        | some here => exact underlying_alike indexes here
    · rfl

theorem Parallel.callArguments (parallel : Parallel related) (here : related old new) :
    List.Forall₂ related (callArguments old) (callArguments new) := by
  apply forall₂_filter _ (parallel.namedIn here .arguments)
  intro argument other same
  rw [parallel.kind same]

theorem namedCallType_alike (parallel : Parallel related)
    (indexes : Index.Alike related index index') (follows : Follow.Alike related follow follow')
    (name : String) {arguments others : List Site}
    (all : List.Forall₂ related arguments others) :
    (namedCallType index' follow' name others).bare =
      (namedCallType index follow name arguments).bare := by
  have first : Option.Rel related arguments.head? others.head? := by
    cases all with
    | nil => exact .none
    | cons here _ => exact .some here
  unfold namedCallType
  split
  · apply underlying_alike indexes
    generalize arguments.head? = argument, others.head? = argument' at first
    cases first with
    | none => rfl
    | some here => exact congrArg some (parallel.bare here)
  · rfl
  · exact follows.maybe first
  · rfl
  · rfl
  · rfl
  · cases declared : index.type? name with
    | none =>
      rw [undeclared_alike indexes declared]
      exact onlyResult_alike indexes name
    | some symbol =>
      obtain ⟨other, found, _⟩ := declared_alike indexes declared
      rw [found]
      exact namedType_alike indexes name

theorem callType_alike (parallel : Parallel related)
    (indexes : Index.Alike related index index') (follows : Follow.Alike related follow follow')
    (here : related old new) :
    (callType index' follow' new).bare = (callType index follow old).bare := by
  have arguments := Parallel.callArguments parallel here
  have functions := rel_of_map_bare
    (SameHead.of_bare (parallel.bare here) .function (by decide))
  unfold callType
  generalize old.node.child? .function = function,
    new.node.child? .function = function' at functions
  cases functions with
  | none => rfl
  | @some function function' same =>
    dsimp only
    rw [kind_of_bare same, text_of_bare same]
    split
    · exact namedCallType_alike parallel indexes follows function.text arguments
    · split
      · exact underlying_alike indexes (congrArg some same)
      · rfl

theorem innerSite_alike (parallel : Parallel related) (here : related old new) (limit : Nat) :
    Option.Rel related (innerSite old limit) (innerSite new limit) := by
  induction limit generalizing old new with
  | zero => exact .none
  | succ limit ih =>
    have inside : Option.Rel related (old.named.find? (·.node.kind != .comment))
        (new.named.find? (·.node.kind != .comment)) := by
      apply rel_find? _ (parallel.named here)
      intro part other same
      rw [parallel.kind same]
    unfold innerSite
    rw [parallel.kind here]
    split
    · generalize old.named.find? _ = first, new.named.find? _ = second at inside
      cases inside with
      | none => exact .none
      | some same => exact ih same
    · exact .some here

theorem shareType_alike (parallel : Parallel related)
    (indexes : Index.Alike related index index') (follows : Follow.Alike related follow follow')
    (here : related old new) (position : Nat) :
    (shareType index' follow' new position).bare = (shareType index follow old position).bare := by
  have size : new.node.size = old.node.size := by
    obtain ⟨move, moved, _⟩ := parallel old new here
    rw [moved, Node.size_relocate]
  have values := innerSite_alike parallel here old.node.size
  unfold shareType
  rw [size]
  generalize innerSite old old.node.size = value, innerSite new old.node.size = value' at values
  cases values with
  | none => rfl
  | @some value value' same =>
    have head := SameHead.of_bare (parallel.bare same)
    dsimp only
    rw [parallel.kind same]
    split
    · exact resultAt_alike indexes head position
    · split
      · exact follows _ _ same
      all_goals rfl
    · split
      · exact follows _ _ same
      all_goals rfl
    · split <;> rfl
    · rfl

/-- Bindings that say the same give the same type. -/
theorem bindingType_alike (parallel : Parallel related)
    (indexes : Index.Alike related index index') (follows : Follow.Alike related follow follow')
    {binding other : Binding} (same : Binding.Alike related binding other) :
    (bindingType index' follow' other).bare = (bindingType index follow binding).bare := by
  cases same with
  | constant => rfl
  | typed type => exact underlying_alike indexes type
  | variadic element => exact congrArg Except.ok (by simpa [TypeInfo.bare] using element)
  | initialized value =>
    cases value with
    | own here => exact follows _ _ here
    | shared here position => exact shareType_alike parallel indexes follows here position
  | ranged container position =>
    exact Knowledge.bare_bind (follows.maybe container)
      fun _ _ same => rangeTarget_alike indexes same position
  | untold => rfl

/-- One step from sites that stand for one another. -/
theorem expressionType_alike (simulates : Simulates related)
    (indexes : Index.Alike related index index') (follows : Follow.Alike related follow follow')
    (here : related old new) :
    (expressionType index' follow' new).bare = (expressionType index follow old).bare := by
  have parallel := simulates.parallel
  have head := SameHead.of_bare (parallel.bare here)
  have operand := follows.maybe (parallel.child? here .operand)
  have inside := rel_find? (p := fun part : Site => part.node.kind != .comment)
    (q := fun part : Site => part.node.kind != .comment)
    (fun part other same => by rw [parallel.kind same]) (parallel.named here)
  unfold expressionType
  rw [parallel.kind here]
  split
  · have bound := simulates.binding? indexes here
    rw [parallel.text here]
    generalize binding? index old = binding, binding? index' new = binding' at bound
    cases bound with
    | none => rfl
    | some same => exact bindingType_alike parallel indexes follows same
  · exact follows.maybe inside
  · rfl
  · rfl
  · exact underlying_alike indexes (head .type (by decide))
  · exact underlying_alike indexes (head .type (by decide))
  · exact underlying_alike indexes (head .type (by decide))
  · refine Knowledge.bare_bind operand fun info info' same => ?_
    exact congrArg Except.ok (by rw [sliceOf_bare, same, sliceOf_bare])
  · exact Knowledge.bare_bind operand fun _ _ same => elementOf_alike indexes same
  · exact callType_alike parallel indexes follows here
  · rfl

/-- Any number of steps from sites that stand for one another. -/
theorem typeWithin_alike (simulates : Simulates related)
    (indexes : Index.Alike related index index') (steps : Nat) (here : related old new) :
    (typeWithin index' steps new).bare = (typeWithin index steps old).bare := by
  induction steps generalizing old new with
  | zero => rfl
  | succ steps ih => exact expressionType_alike simulates indexes (fun _ _ here => ih here) here

end

end SliceGuard.Typing
