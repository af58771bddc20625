import SliceGuard.Proofs.Declarations.Alike
import SliceGuard.Typing.Binding

/-!
# What declarations declare

A declaration is a statement, the name of a switch on a type, a range clause or a list of
parameters.  Which names it declares, and what it says of each of them, is stated here without any
order of search.  What is found by search is one of these declarations, and the only one where no
name is declared twice.
-/

namespace SliceGuard.Typing

open Syntax (Kind Node Role Site)
open Declarations

/-- A part of a tree that declares names. -/
inductive Declaration where
  | statement (site : Site)
  | caseName (names : Node)
  | range (clause : Site)
  | parameters (list : Node)

def shortTargets (statement : Site) : List Site :=
  ((statement.child? .left).map Site.named).getD []

def shortValues (statement : Site) : List Site :=
  ((statement.child? .right).map Site.named).getD []

/-- What a specification of variables says of the name at a position. -/
def variableBinding (spec : Site) (position : Nat) : Binding :=
  match spec.node.child? .type with
  | some type => .typed type
  | none => .ofValues (specValues spec) position (declaredNames spec.node).length

/-- What a declaration of parameters says of its names. -/
def parameterBinding (declaration : Node) : Binding :=
  if declaration.kind == .variadicParameterDeclaration then .variadic (declaration.child? .type)
  else .typed (declaration.child? .type)

/-- The texts on the left of a range clause. -/
def rangeTexts (clause : Site) : List String :=
  ((clause.node.child? .left).map fun left => left.named.map Node.text).getD []

namespace Declaration

/-- The node that declares. -/
def node : Declaration → Node
  | statement site => site.node
  | caseName names => names
  | range clause => clause.node
  | parameters list => list

/-- All names that are declared, a name as often as it is declared. -/
def names : Declaration → List String
  | statement site =>
    match site.node.kind with
    | .shortVarDeclaration =>
      ((shortTargets site).filter (·.node.kind == .identifier)).map (·.node.text)
    | .varDeclaration | .constDeclaration =>
      (valueSpecs site).flatMap fun spec => declaredNames spec.node
    | _ => []
  | caseName names => names.named.map Node.text
  | range clause => rangeTexts clause
  | parameters list => (parameterDeclarations list).flatMap declaredNames

/-- What a declaration says of a name. -/
inductive Declares : Declaration → String → Binding → Prop
  | short {site target : Site} {position : Nat} {name : String}
      (kind : site.node.kind = .shortVarDeclaration)
      (here : (shortTargets site)[position]? = some target)
      (plain : target.node.kind = .identifier) (titled : target.node.text = name) :
      Declares (statement site) name
        (.ofValues (shortValues site) position (shortTargets site).length)
  | value {site spec : Site} {position : Nat} {name : String}
      (kind : site.node.kind = .varDeclaration) (mem : spec ∈ valueSpecs site)
      (here : (declaredNames spec.node)[position]? = some name) :
      Declares (statement site) name (variableBinding spec position)
  | constant {site spec : Site} {name : String} (kind : site.node.kind = .constDeclaration)
      (mem : spec ∈ valueSpecs site) (here : name ∈ declaredNames spec.node) :
      Declares (statement site) name .constant
  | caseName {names : Node} {name : String} (mem : name ∈ names.named.map Node.text) :
      Declares (caseName names) name .untold
  | range {clause : Site} {position : Nat} {name : String}
      (here : (rangeTexts clause)[position]? = some name) :
      Declares (range clause) name (.ranged (clause.child? .right) position)
  | parameter {list declaration : Node} {name : String}
      (mem : declaration ∈ parameterDeclarations list)
      (here : name ∈ declaredNames declaration) :
      Declares (parameters list) name (parameterBinding declaration)

end Declaration

/-- A name of a declaration is assigned the value that initializes the symbol at its place, although
the numbers of names and values are compared in another order. -/
theorem assigned?_eq_initializer? {values : List Site} {position count : Nat}
    (inside : position < count) :
    assigned? values position count = initializer? values position count := by
  unfold assigned? initializer?
  by_cases each : values.length = count
  · rw [if_pos each, if_neg (by omega), if_pos each]
  · rw [if_neg each, if_neg each]
    match values with
    | [] => rfl
    | [value] =>
      -- The only value is not one for each, so there are several names.
      have several : 1 < count := by
        rw [List.length_singleton] at each
        omega
      rw [if_pos ⟨rfl, several⟩]
      rfl
    | _ :: _ :: _ => rfl

theorem assigned?_alike {related : Site → Site → Prop} {values others : List Site}
    (all : List.Forall₂ related values others) (position count : Nat) :
    Option.Rel (Initializer.Alike related) (assigned? values position count)
      (assigned? others position count) := by
  unfold assigned?
  rw [all.length_eq]
  split
  · exact own_alike all position
  · cases all with
    | nil => exact .none
    | cons here rest =>
      cases rest with
      | nil => exact .some (.shared here position)
      | cons _ _ => exact .none

/-- Where at most one element satisfies `p`, there is one position of such an element. -/
theorem position_unique {α : Type} {p : α → Bool} {l : List α} (once : l.countP p ≤ 1)
    {i j : Nat} {x y : α} (atFirst : l[i]? = some x) (holdsFirst : p x = true)
    (atSecond : l[j]? = some y) (holdsSecond : p y = true) : i = j := by
  induction l generalizing i j with
  | nil => simp at atFirst
  | cons head rest ih =>
    have found {k : Nat} {z : α} (at' : rest[k]? = some z) (holds : p z = true) :
        0 < rest.countP p :=
      List.countP_pos_iff.2 ⟨z, List.mem_of_getElem? at', holds⟩
    cases i with
    | zero =>
      obtain rfl : head = x := by simpa using atFirst
      rw [List.countP_cons_of_pos holdsFirst] at once
      cases j with
      | zero => rfl
      | succ j =>
        have := found (by simpa using atSecond) holdsSecond
        omega
    | succ i =>
      cases j with
      | zero =>
        obtain rfl : head = y := by simpa using atSecond
        rw [List.countP_cons_of_pos holdsSecond] at once
        have := found (by simpa using atFirst) holdsFirst
        omega
      | succ j =>
        have fewer : rest.countP p ≤ 1 :=
          Nat.le_trans (List.Sublist.countP_le (List.sublist_cons_self head rest)) once
        exact congrArg Nat.succ (ih fewer (by simpa using atFirst) (by simpa using atSecond))

/-- Where a name stands at most once in several lists together, it stands in one of them. -/
theorem source_unique {α : Type} {f : α → List String} {l : List α} {name : String}
    (once : (l.flatMap f).count name ≤ 1) {x y : α} (memFirst : x ∈ l) (memSecond : y ∈ l)
    (inFirst : name ∈ f x) (inSecond : name ∈ f y) : x = y := by
  induction l with
  | nil => cases memFirst
  | cons head rest ih =>
    rw [List.flatMap_cons, List.count_append] at once
    have later {z : α} (mem : z ∈ rest) (inside : name ∈ f z) :
        0 < (rest.flatMap f).count name :=
      List.count_pos_iff.2 (List.mem_flatMap.2 ⟨z, mem, inside⟩)
    rcases List.mem_cons.1 memFirst with rfl | laterFirst
    · rcases List.mem_cons.1 memSecond with rfl | laterSecond
      · rfl
      · have := later laterSecond inSecond
        have := List.count_pos_iff.2 inFirst
        omega
    · rcases List.mem_cons.1 memSecond with rfl | laterSecond
      · have := later laterFirst inFirst
        have := List.count_pos_iff.2 inSecond
        omega
      · exact ih (by omega) laterFirst laterSecond

theorem count_le_of_mem_flatMap {α : Type} {f : α → List String} {l : List α} {x : α}
    (mem : x ∈ l) (name : String) : (f x).count name ≤ (l.flatMap f).count name := by
  obtain ⟨before, after, rfl⟩ := List.append_of_mem mem
  rw [List.flatMap_append, List.flatMap_cons, List.count_append, List.count_append]
  omega

namespace Declaration

theorem names_of_short {site : Site} (kind : site.node.kind = .shortVarDeclaration) :
    (statement site).names =
      ((shortTargets site).filter (·.node.kind == .identifier)).map (·.node.text) := by
  simp only [names, kind]

theorem names_of_specs {site : Site}
    (kind : site.node.kind = .varDeclaration ∨ site.node.kind = .constDeclaration) :
    (statement site).names = (valueSpecs site).flatMap fun spec => declaredNames spec.node := by
  rcases kind with kind | kind <;> simp only [names, kind]

theorem Declares.mem_names {declaration : Declaration} {name : String} {binding : Binding}
    (tells : declaration.Declares name binding) : name ∈ declaration.names := by
  cases tells with
  | short kind here plain titled =>
    rw [names_of_short kind]
    exact List.mem_map.2 ⟨_, List.mem_filter.2 ⟨List.mem_of_getElem? here, by simp [plain]⟩, titled⟩
  | value kind mem here =>
    rw [names_of_specs (.inl kind)]
    exact List.mem_flatMap.2 ⟨_, mem, List.mem_of_getElem? here⟩
  | constant kind mem here =>
    rw [names_of_specs (.inr kind)]
    exact List.mem_flatMap.2 ⟨_, mem, here⟩
  | caseName mem => exact mem
  | range here => exact List.mem_of_getElem? here
  | parameter mem here => exact List.mem_flatMap.2 ⟨_, mem, here⟩

/-- A declaration that declares a name once says one thing of it. -/
theorem Declares.unique {declaration : Declaration} {name : String} {first second : Binding}
    (once : declaration.names.count name ≤ 1) (tells : declaration.Declares name first)
    (tellsToo : declaration.Declares name second) : first = second := by
  cases tells with
  | short kind here plain titled =>
    cases tellsToo with
    | value kind' => simp [kind] at kind'
    | constant kind' => simp [kind] at kind'
    | short _ here' plain' titled' =>
      rw [names_of_short kind, List.count, List.countP_map, List.countP_filter] at once
      rw [position_unique once here (by simp [plain, titled]) here' (by simp [plain', titled'])]
  | value kind mem here =>
    cases tellsToo with
    | short kind' => simp [kind] at kind'
    | constant kind' => simp [kind] at kind'
    | value _ mem' here' =>
      rw [names_of_specs (.inl kind)] at once
      obtain rfl := source_unique once mem mem' (List.mem_of_getElem? here)
        (List.mem_of_getElem? here')
      have inside := Nat.le_trans (count_le_of_mem_flatMap mem name) once
      rw [position_unique inside here (by simp) here' (by simp)]
  | constant kind mem here =>
    cases tellsToo with
    | short kind' => simp [kind] at kind'
    | value kind' => simp [kind] at kind'
    | constant => rfl
  | caseName mem =>
    cases tellsToo with
    | caseName => rfl
  | range here =>
    cases tellsToo with
    | range here' => rw [position_unique once here (by simp) here' (by simp)]
  | parameter mem here =>
    cases tellsToo with
    | parameter mem' here' => rw [source_unique once mem mem' here here']

end Declaration

theorem getElem?_of_positionOf? {name : String} {texts : List String} {position : Nat}
    (found : positionOf? name texts = some position) : texts[position]? = some name := by
  obtain ⟨bound, here, _⟩ := List.findIdx?_eq_some_iff_getElem.1 found
  rw [List.getElem?_eq_getElem bound, beq_iff_eq.1 here]

theorem positionOf?_isSome_iff {name : String} {texts : List String} :
    (positionOf? name texts).isSome = true ↔ name ∈ texts := by
  simp [positionOf?, List.findIdx?_isSome]

theorem exists_of_shortBinding? {site : Site} {name : String} {binding : Binding}
    (found : shortBinding? site name = some binding) :
    ∃ position target, (shortTargets site)[position]? = some target ∧
      target.node.kind = .identifier ∧ target.node.text = name ∧
      binding = .ofValues (shortValues site) position (shortTargets site).length := by
  obtain ⟨position, first, tells⟩ := Option.bind_eq_some_iff.1 found
  obtain rfl := Option.some.inj tells
  obtain ⟨bound, here, _⟩ := List.findIdx?_eq_some_iff_getElem.1 first
  rw [Bool.and_eq_true, beq_iff_eq, beq_iff_eq] at here
  exact ⟨position, _, List.getElem?_eq_getElem bound, here.1, here.2, rfl⟩

theorem exists_of_specBinding? {isConstant : Bool} {spec : Site} {name : String}
    {binding : Binding} (found : specBinding? isConstant name spec = some binding) :
    ∃ position, (declaredNames spec.node)[position]? = some name ∧
      binding = if isConstant then .constant else variableBinding spec position := by
  obtain ⟨position, first, tells⟩ := Option.bind_eq_some_iff.1 found
  refine ⟨position, getElem?_of_positionOf? first, ?_⟩
  unfold variableBinding
  cases isConstant <;> cases typed : spec.node.child? .type <;> simp_all

/-- What is found in a statement is declared by it. -/
theorem declares_of_statementBinding? {site : Site} {name : String} {binding : Binding}
    (found : statementBinding? site name = some binding) :
    (Declaration.statement site).Declares name binding := by
  unfold statementBinding? at found
  split at found
  · obtain ⟨position, target, here, plain, titled, rfl⟩ := exists_of_shortBinding? found
    exact .short ‹_› here plain titled
  · obtain ⟨spec, mem, tells⟩ := List.exists_of_findSome?_eq_some found
    obtain ⟨position, here, rfl⟩ := exists_of_specBinding? tells
    exact .value ‹_› (List.mem_reverse.1 mem) here
  · obtain ⟨spec, mem, tells⟩ := List.exists_of_findSome?_eq_some found
    obtain ⟨position, here, rfl⟩ := exists_of_specBinding? tells
    exact .constant ‹_› (List.mem_reverse.1 mem) (List.mem_of_getElem? here)
  · contradiction

theorem specBinding?_isSome {isConstant : Bool} {spec : Site} {name : String}
    (declares : name ∈ declaredNames spec.node) :
    (specBinding? isConstant name spec).isSome = true := by
  obtain ⟨position, first⟩ := Option.isSome_iff_exists.1 (positionOf?_isSome_iff.2 declares)
  cases isConstant <;> cases typed : spec.node.child? .type <;> simp [specBinding?, first, typed]

/-- A name that a statement declares is found in it. -/
theorem statementBinding?_isSome {site : Site} {name : String} {binding : Binding}
    (tells : (Declaration.statement site).Declares name binding) :
    (statementBinding? site name).isSome = true := by
  unfold statementBinding?
  cases tells with
  | short kind here plain titled =>
    rw [kind]
    have found : ((shortTargets site).findIdx? fun target =>
        target.node.kind == .identifier && target.node.text == name).isSome = true := by
      rw [List.findIdx?_isSome, List.any_eq_true]
      exact ⟨_, List.mem_of_getElem? here, by simp [plain, titled]⟩
    obtain ⟨position, first⟩ := Option.isSome_iff_exists.1 found
    unfold shortTargets at first
    simp [shortBinding?, first]
  | value kind mem here =>
    rw [kind]
    simp only [List.findSome?_isSome_iff, List.mem_reverse]
    exact ⟨_, mem, specBinding?_isSome (List.mem_of_getElem? here)⟩
  | constant kind mem here =>
    rw [kind]
    simp only [List.findSome?_isSome_iff, List.mem_reverse]
    exact ⟨_, mem, specBinding?_isSome here⟩

theorem parameterBinding?_eq_some_iff {name : String} {declaration : Node} {binding : Binding} :
    parameterBinding? name declaration = some binding ↔
      name ∈ declaredNames declaration ∧ binding = parameterBinding declaration := by
  have tells : parameterBinding? name declaration =
      if name ∈ declaredNames declaration then some (parameterBinding declaration) else none := by
    unfold parameterBinding? parameterBinding
    by_cases variadic : declaration.kind = .variadicParameterDeclaration <;> simp [variadic]
  rw [tells]
  by_cases declares : name ∈ declaredNames declaration
  · simp only [declares, if_true, Option.some.injEq, true_and]
    exact eq_comm
  · simp [declares]

/-- What a list of parameters says of a name. -/
def listBinding? (name : String) (list : Node) : Option Binding :=
  (parameterDeclarations list).findSome? (parameterBinding? name)

theorem declares_of_listBinding? {name : String} {list : Node} {binding : Binding}
    (found : listBinding? name list = some binding) :
    (Declaration.parameters list).Declares name binding := by
  obtain ⟨declaration, mem, tells⟩ := List.exists_of_findSome?_eq_some found
  obtain ⟨here, rfl⟩ := parameterBinding?_eq_some_iff.1 tells
  exact .parameter mem here

theorem listBinding?_isSome {name : String} {list : Node} {binding : Binding}
    (tells : (Declaration.parameters list).Declares name binding) :
    (listBinding? name list).isSome = true := by
  cases tells with
  | parameter mem here =>
    rw [listBinding?, List.findSome?_isSome_iff]
    exact ⟨_, mem, by rw [parameterBinding?_eq_some_iff.2 ⟨here, rfl⟩]; rfl⟩

/-- The forms of scopes, by where their declarations stand. -/
inductive ScopeForm where
  | statements | initializer | typeSwitch | loop | function | none
deriving DecidableEq

def scopeForm : Kind → ScopeForm
  | .block | .statementList | .expressionCase | .defaultCase | .typeCase | .communicationCase =>
    .statements
  | .ifStatement | .expressionSwitchStatement | .forClause => .initializer
  | .typeSwitchStatement => .typeSwitch
  | .forStatement => .loop
  | .functionDeclaration | .methodDeclaration | .funcLiteral => .function
  | _ => .none

/-- A scope is asked by its form. -/
theorem scopeBinding?_eq (scope : Site) (child : Node) (name : String) :
    scopeBinding? scope child name =
      match scopeForm scope.node.kind with
      | .statements => statementsBinding? scope child name
      | .initializer => initializerBinding? scope child name
      | .typeSwitch =>
        if isAliasOf scope.node child name then some .untold
        else initializerBinding? scope child name
      | .loop => loopBinding? child name scope.named
      | .function => functionBinding? scope.node name
      | .none => none := by
  unfold scopeBinding?
  cases scope.node.kind <;> rfl

end SliceGuard.Typing
