import SliceGuard.Proofs.Typing.Carrying
import SliceGuard.Proofs.Typing.Nearest
import SliceGuard.Proofs.Typing.Scopes

/-!
# Names that are mentioned

A name in a file is introduced where a declaration, a parameter or a target of an assignment gives
it, and mentioned everywhere else.  The search for the type of an expression only ever asks for
names that are mentioned: it goes from expressions and types to others, and where it follows a
declaration, it goes on with the type or the value that stands there and not with the name.  So an
index is known from its answers for these names.
-/

namespace SliceGuard.Typing

open Syntax (Kind Node Role Site)
open Declarations

/-- The declarations that introduce the children they have as names. -/
def introducesNames (declaration : Node) : Bool :=
  declaration.role == none && [.functionDeclaration, .methodDeclaration, .typeSpec, .typeAlias,
    .varSpec, .constSpec, .parameterDeclaration, .variadicParameterDeclaration,
    .typeParameterDeclaration].contains declaration.kind

/-- The lists of names that are declared, or assigned to as a whole. -/
def isTargetList (list : Node) : Bool :=
  list.kind == .expressionList && (list.plays .left || list.plays .caseName)

/-- Whether a name at a site is introduced and not mentioned there. -/
def isIntroduced (site : Site) : Bool :=
  match site.above with
  | [] => false
  | parent :: _ =>
    introducesNames parent && site.node.plays .name || isTargetList parent && site.node.role == none

/-- The names that expressions and types of some files mention. -/
def Mentioned (files : List SourceFile) (name : String) : Prop :=
  ∃ file ∈ files, ∃ site ∈ file.root.sites,
    site.node.isName = true ∧ isIntroduced site = false ∧ site.node.text = name

instance (files : List SourceFile) (name : String) : Decidable (Mentioned files name) :=
  inferInstanceAs (Decidable (∃ file ∈ files, ∃ site ∈ file.root.sites,
    site.node.isName = true ∧ isIntroduced site = false ∧ site.node.text = name))

/-- The sites of some files. -/
def Stands (files : List SourceFile) (site : Site) : Prop :=
  ∃ file ∈ files, Site.Within file.root site

/-- The sites of some files where a name would be mentioned. -/
structure Used (files : List SourceFile) (site : Site) : Prop where
  stands : Stands files site
  mentions : isIntroduced site = false

/-- The types and other nodes that are used, each one related to itself. -/
def SameType (files : List SourceFile) (type other : Node) : Prop :=
  other = type ∧ ∃ site, Used files site ∧ site.node = type

/-- The expressions that are used, each one related to itself. -/
def SameSite (files : List SourceFile) (site other : Site) : Prop :=
  other = site ∧ Used files site

section Sites

variable {files : List SourceFile} {site : Site}

theorem Used.mentioned (used : Used files site) (isName : site.node.isName = true) :
    Mentioned files site.node.text := by
  obtain ⟨file, mem, within⟩ := used.stands
  refine ⟨file, mem, site, ?_, isName, used.mentions, rfl⟩
  clear used isName
  induction within with
  | root => exact file.root.mem_sites_root
  | step _ child ih => exact Node.mem_sites_child ih child

theorem Stands.below (stands : Stands files site) {child : Node}
    (mem : child ∈ site.node.children) : Stands files (site.below child) := by
  obtain ⟨file, listed, within⟩ := stands
  exact ⟨file, listed, .step within mem⟩

theorem Stands.child? (stands : Stands files site) {role : Role} {child : Site}
    (here : site.child? role = some child) : Stands files child := by
  obtain ⟨node, found, rfl⟩ := Option.map_eq_some_iff.1 here
  exact stands.below (Node.mem_children_of_child? found)

theorem Stands.named (stands : Stands files site) {child : Site} (mem : child ∈ site.named) :
    Stands files child := by
  obtain ⟨node, listed, rfl⟩ := List.mem_map.1 mem
  exact stands.below (Node.mem_named_iff.1 listed).1

theorem Stands.outer {node child : Node} {above : List Node}
    (stands : Stands files ⟨child, node :: above⟩) : Stands files ⟨node, above⟩ := by
  obtain ⟨file, mem, within⟩ := stands
  cases within with
  | step outer _ => exact ⟨file, mem, outer⟩

/-- A child in any other role than that of a name is used. -/
theorem Stands.used_child? (stands : Stands files site) {role : Role} (other : role ≠ .name)
    {child : Site} (here : site.child? role = some child) : Used files child := by
  refine ⟨stands.child? here, ?_⟩
  obtain ⟨node, found, rfl⟩ := Option.map_eq_some_iff.1 here
  simp [isIntroduced, Node.plays, Node.role_of_child? found, other]

/-- The parts of something that plays a role are used, if it is no list of targets. -/
theorem Stands.used_named_of_role (stands : Stands files site) {role : Role}
    (plays : site.node.role = some role) (others : role ≠ .left ∧ role ≠ .caseName) {child : Site}
    (mem : child ∈ site.named) : Used files child := by
  refine ⟨stands.named mem, ?_⟩
  obtain ⟨node, _, rfl⟩ := List.mem_map.1 mem
  simp [isIntroduced, introducesNames, isTargetList, Node.plays, plays, others]

/-- What stands in parentheses is used. -/
theorem Stands.used_inside (stands : Stands files site)
    (kind : site.node.kind = .parenthesizedExpression ∨ site.node.kind = .parenthesizedType)
    {child : Site} (mem : child ∈ site.named) : Used files child := by
  refine ⟨stands.named mem, ?_⟩
  obtain ⟨node, _, rfl⟩ := List.mem_map.1 mem
  rcases kind with kind | kind <;> simp [isIntroduced, introducesNames, isTargetList, kind]

theorem Used.sameType (used : Used files site) : SameType files site.node site.node :=
  ⟨rfl, site, used, rfl⟩

theorem Used.sameSite (used : Used files site) : SameSite files site site :=
  ⟨rfl, used⟩

theorem Stands.sameType_child? (stands : Stands files site) (role : Role) (other : role ≠ .name) :
    Option.Rel (SameType files) (site.node.child? role) (site.node.child? role) := by
  apply rel_same
  intro child here
  have found : site.child? role = some (site.below child) := by
    rw [Site.child?, here]
    rfl
  exact (stands.used_child? other found).sameType

theorem Stands.sameSite_child? (stands : Stands files site) {role : Role} (other : role ≠ .name) :
    Option.Rel (SameSite files) (site.child? role) (site.child? role) :=
  rel_same fun _ here => (stands.used_child? other here).sameSite

/-- The values in a list that plays a role are used. -/
theorem Stands.used_values (stands : Stands files site) {role : Role}
    (others : role ≠ .left ∧ role ≠ .caseName) {value : Site}
    (mem : value ∈ ((site.child? role).map Site.named).getD []) : Used files value := by
  cases here : site.child? role with
  | none => simp [here] at mem
  | some list =>
    rw [here] at mem
    obtain ⟨node, found, rfl⟩ := Option.map_eq_some_iff.1 here
    exact (stands.child? here).used_named_of_role (Node.role_of_child? found) others mem

/-- The core of a type that is used is used. -/
theorem Used.core (used : Used files site) {core : Node}
    (reached : typeCore site.node = some core) : SameType files core core := by
  obtain ⟨node, above⟩ := site
  induction node using Node.childInduction generalizing above with
  | step node ih =>
    have deeper {child : Node} (mem : child ∈ node.children)
        (part : Used files ⟨child, node :: above⟩) (next : typeCore child = some core) :
        SameType files core core :=
      ih child mem _ part next
    unfold typeCore at reached deeper
    cases rule : coreRule node.kind with
    | none =>
      rw [Node.descend_of_rule_eq_none rule, Option.some.injEq] at reached
      rw [← reached]
      exact used.sameType
    | some picks =>
      rw [Node.descend_of_rule_eq_some rule] at reached
      obtain ⟨child, first, next⟩ := Option.bind_eq_some_iff.1 reached
      have mem := List.mem_of_find?_eq_some first
      refine deeper mem ?_ next
      unfold coreRule at rule
      split at rule
      · cases rule
        refine used.stands.used_inside (.inr ‹_›) (List.mem_map.2 ⟨child, ?_, rfl⟩)
        exact List.mem_filter.2 ⟨mem, List.find?_some first⟩
      · cases rule
        have found : Site.child? .type ⟨node, above⟩ = some ⟨child, node :: above⟩ := by
          rw [Site.child?, Node.child?, first]
          rfl
        exact used.stands.used_child? (by decide) found
      · cases rule

/-- From expressions and types that are used the search goes to others that are used. -/
theorem tracked_used (files : List SourceFile) :
    Tracked (SameType files) (SameSite files) (Mentioned files) where
  kind := by rintro type _ ⟨rfl, _⟩; rfl
  name := by
    rintro type _ ⟨rfl, site, used, rfl⟩ isName
    refine ⟨rfl, used.mentioned ?_⟩
    rw [isTypeName, Bool.or_comm] at isName
    exact isName
  child? := by
    rintro type _ ⟨rfl, site, used, rfl⟩ role other
    exact used.stands.sameType_child? role other
  core := by
    rintro type _ ⟨rfl, site, used, rfl⟩
    exact rel_same fun core reached => used.core reached
  node := by
    rintro site _ ⟨rfl, used⟩
    exact used.sameType
  operand := by
    rintro site _ ⟨rfl, used⟩
    exact used.stands.sameSite_child? (by decide)
  inside := by
    rintro site _ ⟨rfl, used⟩ kind
    apply rel_same
    intro part first
    exact (used.stands.used_inside (.inl kind) (List.mem_of_find?_eq_some first)).sameSite
  argument := by
    rintro site _ ⟨rfl, used⟩
    apply rel_same
    intro part first
    have listed := (List.mem_filter.1 (List.mem_of_head? first)).1
    exact (used.stands.used_values ⟨by decide, by decide⟩ listed).sameSite

end Sites

section Bindings

variable {files : List SourceFile}

theorem forall₂_used {values : List Site} (used : ∀ value ∈ values, Used files value) :
    List.Forall₂ (SameSite files) values values :=
  List.forall₂_same.2 fun value mem => (used value mem).sameSite

theorem stands_of_mem_valueSpecs {declaration spec : Site} (stands : Stands files declaration)
    (mem : spec ∈ valueSpecs declaration) : Stands files spec :=
  of_mem_valueSpecs (fun outer => outer.named) stands mem

/-- The declarations that stand in some files. -/
def Declaration.Stands (files : List SourceFile) : Declaration → Prop
  | .statement site | .range site => Typing.Stands files site
  | .caseName _ => True
  | .parameters list => ∃ above, Typing.Stands files ⟨list, above⟩

/-- What a declaration says of a name leads to types and values that are used. -/
theorem carried_of_declares {declaration : Declaration} (stands : declaration.Stands files)
    {name : String} {binding : Binding} (tells : declaration.Declares name binding) :
    binding.Carried (SameType files) (SameSite files) binding := by
  cases tells with
  | short kind here plain titled =>
    exact Binding.ofValues_carried
      (forall₂_used fun value mem => stands.used_values ⟨by decide, by decide⟩ mem) _ _
  | @value site spec position name kind mem here =>
    have inside := stands_of_mem_valueSpecs stands mem
    have types := inside.sameType_child? .type (by decide)
    unfold variableBinding
    cases typed : spec.node.child? .type with
    | some type =>
      rw [typed] at types
      exact .typed types
    | none =>
      exact Binding.ofValues_carried
        (forall₂_used fun value mem => inside.used_values ⟨by decide, by decide⟩ mem) _ _
  | constant kind mem here => exact .constant
  | caseName mem => exact .untold
  | range here => exact .ranged (stands.sameSite_child? (by decide)) Iff.rfl
  | @parameter list declaration name mem here =>
    obtain ⟨above, inside⟩ := stands
    have listed := (Node.mem_named_iff.1 (List.mem_filter.1 mem).1).1
    have types := (inside.below listed).sameType_child? .type (by decide)
    unfold parameterBinding
    split
    · exact .variadic types
    · exact .typed types

/-- What is found in a scope is said by one of its declarations. -/
theorem declares_of_scopeBinding? {scope : Site} {child : Node} {name : String} {binding : Binding}
    (found : scopeBinding? scope child name = some binding) :
    ∃ declaration, InScope scope child declaration ∧ declaration.Declares name binding := by
  have initial (answer : initializerBinding? scope child name = some binding) :
      ∃ declaration, InitializerSeen scope child declaration ∧
        declaration.Declares name binding := by
    obtain ⟨first, here, tells⟩ := Option.bind_eq_some_iff.1 answer
    split at tells
    · exact ⟨.statement first, ⟨first, here, ‹_›, rfl⟩, declares_of_statementBinding? tells⟩
    · cases tells
  rw [scopeBinding?_eq] at found
  unfold InScope
  cases form : scopeForm scope.node.kind with
  | statements =>
    rw [form] at found
    obtain ⟨statement, mem, tells⟩ := List.exists_of_findSome?_eq_some found
    obtain ⟨listed, before⟩ := List.mem_filter.1 mem
    have declares := declares_of_statementBinding? tells
    exact ⟨.statement statement, ⟨statement, List.mem_reverse.1 listed,
      isDeclaration_of_declares declares, of_decide_eq_true before, rfl⟩, declares⟩
  | initializer =>
    rw [form] at found
    exact initial found
  | typeSwitch =>
    rw [form] at found
    dsimp only at found
    split at found
    · obtain rfl := Option.some.inj found
      obtain ⟨names, here, before, listed⟩ := isAliasOf_iff.1 ‹_›
      exact ⟨.caseName names, .inr ⟨names, here, before, rfl⟩, .caseName listed⟩
    · obtain ⟨declaration, seen, declares⟩ := initial found
      exact ⟨declaration, .inl seen, declares⟩
  | loop =>
    rw [form] at found
    obtain ⟨clause, mem, before, tells⟩ := exists_of_loopBinding? found
    obtain ⟨declaration, inClause, declares⟩ := declares_of_clauseBinding? tells
    exact ⟨declaration, ⟨clause, mem, before, inClause⟩, declares⟩
  | function =>
    rw [form] at found
    obtain ⟨list, mem, tells⟩ := List.exists_of_findSome?_eq_some found
    exact ⟨.parameters list, ⟨list, mem, rfl⟩, declares_of_listBinding? tells⟩
  | none =>
    rw [form] at found
    cases found

theorem stands_of_inScope {scope : Site} {child : Node} {declaration : Declaration}
    (stands : Stands files scope) (inScope : InScope scope child declaration) :
    declaration.Stands files := by
  unfold InScope at inScope
  split at inScope
  · obtain ⟨statement, mem, _, _, rfl⟩ := inScope
    exact stands.named mem
  · obtain ⟨first, here, _, rfl⟩ := inScope
    exact stands.child? here
  · rcases inScope with ⟨first, here, _, rfl⟩ | ⟨names, _, _, rfl⟩
    · exact stands.child? here
    · exact trivial
  · obtain ⟨clause, mem, _, ⟨_, _, rfl⟩ | ⟨_, first, here, rfl⟩⟩ := inScope
    · exact stands.named mem
    · exact (stands.named mem).child? here
  · obtain ⟨list, mem, rfl⟩ := inScope
    exact ⟨_, stands.below (mem_children_of_mem_signatureLists mem)⟩
  · exact inScope.elim

/-- Whatever a climb ends at leads to types and values that are used. -/
theorem carried_of_climb {name : String} {child : Node} {above : List Node}
    (stands : Stands files ⟨child, above⟩) {binding : Binding}
    (found : climb name child above = some binding) :
    binding.Carried (SameType files) (SameSite files) binding := by
  induction above generalizing child with
  | nil => cases found
  | cons scope outer ih =>
    rw [climb_cons, Option.or_eq_some_iff] at found
    rcases found with here | ⟨_, farther⟩
    · obtain ⟨declaration, inScope, tells⟩ := declares_of_scopeBinding? here
      exact carried_of_declares (stands_of_inScope stands.outer inScope) tells
    · exact ih stands.outer farther

end Bindings

section Symbols

variable {files : List SourceFile}

/-- What a symbol says leads to types and values that are used. -/
structure SymbolUsed (files : List SourceFile) (symbol : Symbol) : Prop where
  type : Option.Rel (SameType files) symbol.type symbol.type
  value : Option.Rel (Initializer.Alike (SameSite files)) symbol.value symbol.value

theorem symbolUsed_of_mem_declarationSymbols {path : String} {declaration : Site}
    (stands : Stands files declaration) {symbol : Symbol}
    (mem : symbol ∈ declarationSymbols path declaration) : SymbolUsed files symbol := by
  have specs {kind : SymbolKind} (listed : symbol ∈
      (valueSpecs declaration).flatMap (specSymbols path kind)) : SymbolUsed files symbol := by
    obtain ⟨spec, inside, part⟩ := List.mem_flatMap.1 listed
    have here := stands_of_mem_valueSpecs stands inside
    obtain ⟨⟨name, position⟩, _, rfl⟩ := List.mem_map.1 part
    exact ⟨here.sameType_child? .type (by decide), initializer?_alike
      (forall₂_used fun value mem => here.used_values ⟨by decide, by decide⟩ mem) _ _⟩
  unfold declarationSymbols at mem
  split at mem
  · rw [List.mem_singleton.1 mem]
    exact ⟨stands.sameType_child? .result (by decide), .none⟩
  · rw [List.mem_singleton.1 mem]
    exact ⟨stands.sameType_child? .result (by decide), .none⟩
  · obtain ⟨spec, listed, rfl⟩ := List.mem_map.1 mem
    have inside := (Node.mem_named_iff.1 (List.mem_filter.1 listed).1).1
    exact ⟨(stands.below inside).sameType_child? .type (by decide), .none⟩
  · exact specs mem
  · exact specs mem
  · cases mem

theorem symbolUsed_of_mem {symbol : Symbol} (mem : symbol ∈ (Index.ofFiles files).symbols) :
    SymbolUsed files symbol := by
  obtain ⟨file, listed, inside⟩ := List.mem_flatMap.1 mem
  obtain ⟨declaration, part, here⟩ := List.mem_flatMap.1 inside
  have root : Stands files (Site.root file.root) := ⟨file, listed, .root⟩
  exact symbolUsed_of_mem_declarationSymbols (root.named part) here

theorem symbolUsed_of_find? {kinds : List SymbolKind} {name : String} {symbol : Symbol}
    (found : (Index.ofFiles files).find? kinds name = some symbol) : SymbolUsed files symbol :=
  symbolUsed_of_mem (List.mem_of_find?_eq_some found)

/-- The results of a function are used if its result is. -/
theorem resultTypeNodes_used {result : Option Node}
    (used : Option.Rel (SameType files) result result) :
    List.Forall₂ (Option.Rel (SameType files)) (resultTypeNodes result)
      (resultTypeNodes result) := by
  cases result with
  | none => exact .nil
  | some node =>
    cases used with
    | some same =>
      obtain ⟨_, site, here, rfl⟩ := same
      unfold resultTypeNodes
      dsimp only
      split
      · rw [List.forall₂_same]
        intro type mem
        obtain ⟨declaration, listed, copies⟩ := List.mem_flatMap.1 mem
        rw [(List.mem_replicate.1 copies).2]
        have inside := (Node.mem_named_iff.1 (List.mem_filter.1 listed).1).1
        exact (here.stands.below inside).sameType_child? .type (by decide)
      · exact .cons (.some here.sameType) .nil

/-- An index that answers as the files do for all names that they mention carries over what is known
of them. -/
theorem carries_of_mentioned {index : Index}
    (type? : ∀ name, Mentioned files name → index.type? name = (Index.ofFiles files).type? name)
    (value? : ∀ name, Mentioned files name → index.value? name = (Index.ofFiles files).value? name)
    (function? : ∀ name, Mentioned files name →
      index.function? name = (Index.ofFiles files).function? name) :
    Carries (SameType files) (SameSite files) False (Mentioned files) (Index.ofFiles files)
      index where
  toTracked := tracked_used files
  type? name asked := by
    rw [type? name asked]
    exact .inl (rel_same fun symbol found => (symbolUsed_of_find? found).type)
  function? name asked := by
    rw [function? name asked]
    exact .inl (rel_same fun symbol found => resultTypeNodes_used (symbolUsed_of_find? found).type)
  binding? := by
    rintro _ site ⟨rfl, used⟩ kind
    have asked := used.mentioned (by simp [Node.isName, kind])
    left
    rw [binding?_eq_or, binding?_eq_or, value? _ asked]
    refine rel_or (rel_same fun binding locally => carried_of_climb used.stands locally) ?_
    apply rel_same
    intro binding found
    obtain ⟨symbol, declared, rfl⟩ := Option.map_eq_some_iff.1 found
    have here := symbolUsed_of_find? declared
    exact symbolBinding_carried rfl here.type fun _ => here.value

end Symbols

end SliceGuard.Typing
