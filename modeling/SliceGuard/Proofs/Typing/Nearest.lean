import SliceGuard.Proofs.Syntax.Layout
import SliceGuard.Proofs.Typing.Declaration
import SliceGuard.Typing.Expression

/-!
# The nearest declaration decides

Which declarations can be seen where a name is used is stated for every kind of scope by itself.  The
climb through the scopes asks them from the inside out and takes the first answer.  In a tree that is
laid out in order this is the answer of the declaration that stands last in the text, of all those
that can be seen and that declare the name.
-/

namespace SliceGuard.Typing

open Syntax (Kind Node Role Site)
open Declarations

/-- The statements that declare names. -/
def isDeclaration (kind : Kind) : Bool :=
  kind == .shortVarDeclaration || kind == .varDeclaration || kind == .constDeclaration

def isClause (kind : Kind) : Bool :=
  kind == .rangeClause || kind == .forClause

/-- Whether a range clause declares its targets and does not only assign to them. -/
def declaresTargets (clause : Node) : Bool :=
  clause.children.any fun token => token.kind == .token && token.text == ":="

/-- The lists of parameters, receivers and named results of a function. -/
def signatureLists (function : Node) : List Node :=
  ([.parameters, .receiver, .result].filterMap function.child?).filter (·.kind == .parameterList)

/-- The initializer of a statement, seen after its end. -/
def InitializerSeen (scope : Site) (child : Node) (declaration : Declaration) : Prop :=
  ∃ first, scope.child? .initializer = some first ∧ first.node.stop ≤ child.start ∧
    declaration = .statement first

/-- The targets of a clause that declares them, or the initializer of a clause. -/
def InClause (clause : Site) (declaration : Declaration) : Prop :=
  clause.node.kind = .rangeClause ∧ declaresTargets clause.node = true ∧
      declaration = .range clause ∨
    clause.node.kind = .forClause ∧
      ∃ first, clause.child? .initializer = some first ∧ declaration = .statement first

/-- The declarations of a scope that can be seen inside one of its children. -/
def InScope (scope : Site) (child : Node) (declaration : Declaration) : Prop :=
  match scopeForm scope.node.kind with
  | .statements =>
    -- The statements that start before the child.
    ∃ statement ∈ scope.named, isDeclaration statement.node.kind = true ∧
      statement.node.start < child.start ∧ declaration = .statement statement
  | .initializer => InitializerSeen scope child declaration
  | .typeSwitch =>
    InitializerSeen scope child declaration ∨
      ∃ names, scope.node.child? .caseName = some names ∧ names.stop ≤ child.start ∧
        declaration = .caseName names
  | .loop =>
    -- What the clause declares, seen after the whole clause.
    ∃ clause ∈ scope.named, clause.node.stop ≤ child.start ∧ InClause clause declaration
  | .function => ∃ list ∈ signatureLists scope.node, declaration = .parameters list
  | .none => False

/-- The declarations that can be seen inside a child from the scopes around it. -/
inductive SeenFrom : Node → List Node → Declaration → Prop
  | here {child scope : Node} {outer : List Node} {declaration : Declaration}
      (inScope : InScope ⟨scope, outer⟩ child declaration) :
      SeenFrom child (scope :: outer) declaration
  | outward {child scope : Node} {outer : List Node} {declaration : Declaration}
      (seen : SeenFrom scope outer declaration) : SeenFrom child (scope :: outer) declaration

/-- The declarations that can be seen where a name is used. -/
def Visible (use : Site) (declaration : Declaration) : Prop :=
  SeenFrom use.node use.above declaration

/-- A use inside the parameters, the receiver or the results of a function around it. -/
inductive InSignature : Node → List Node → Prop
  | here {child function : Node} {outer : List Node} (kind : scopeForm function.kind = .function)
      (mem : child ∈ signatureLists function) : InSignature child (function :: outer)
  | outward {child scope : Node} {outer : List Node} (inside : InSignature scope outer) :
      InSignature child (scope :: outer)

/-- How the heads of statements are built: a loop has one clause, and the name of a switch on a type
follows the initializer. -/
structure HeadShaped (node : Node) : Prop where
  oneClause : scopeForm node.kind = .loop → ∀ first ∈ node.named, ∀ second ∈ node.named,
    isClause first.kind = true → isClause second.kind = true → first = second
  aliasLast : scopeForm node.kind = .typeSwitch → ∀ first names,
    node.child? .initializer = some first → node.child? .caseName = some names →
      first.stop ≤ names.start

/-- No declaration that can be seen declares the name twice, nor does a function around the use. -/
structure DeclaredOnce (use : Site) (name : String) : Prop where
  declaration : ∀ declaration, Visible use declaration → declaration.names.count name ≤ 1
  signature : ∀ function ∈ use.above, scopeForm function.kind = .function →
    ((signatureLists function).flatMap fun list => (Declaration.parameters list).names).count name ≤ 1

/-- Of the declarations of a name that can be seen, the one that stands last; only what stands after
the place of the use, from `limit` on, may follow it. -/
structure StandsLast (seen : Declaration → Prop) (limit : Nat) (name : String)
    (declaration : Declaration) : Prop where
  isSeen : seen declaration
  last : ∀ other binding, seen other → other.Declares name binding →
    other = declaration ∨ other.node.stop ≤ declaration.node.start ∨ limit ≤ other.node.start

/-- An answer is right if it is that of the last declaration, or if there is none and nothing that
can be seen declares the name. -/
def Answers (seen : Declaration → Prop) (limit : Nat) (name : String) : Option Binding → Prop
  | some binding => ∃ declaration, StandsLast seen limit name declaration ∧
      declaration.Declares name binding
  | none => ∀ declaration binding, seen declaration → ¬ declaration.Declares name binding

theorem isDeclaration_of_declares {site : Site} {name : String} {binding : Binding}
    (tells : (Declaration.statement site).Declares name binding) :
    isDeclaration site.node.kind = true := by
  cases tells with
  | short kind => simp [isDeclaration, kind]
  | value kind => simp [isDeclaration, kind]
  | constant kind => simp [isDeclaration, kind]

theorem not_declares_of_statementBinding? {site : Site} {name : String}
    (nothing : statementBinding? site name = none) (binding : Binding) :
    ¬ (Declaration.statement site).Declares name binding := by
  intro tells
  have found := statementBinding?_isSome tells
  simp [nothing] at found

theorem pairwise_named {scope : Site} (laid : scope.node.LaidOut) :
    scope.named.Pairwise fun earlier later => earlier.node.stop ≤ later.node.start := by
  rw [Site.named, List.pairwise_map]
  exact laid.pairwise.filter _

/-- In a list of statements the last one before the child decides. -/
theorem answers_statements {scope : Site} {child : Node} (laid : scope.node.LaidOut)
    (name : String) (limit : Nat) :
    Answers (fun declaration => ∃ statement ∈ scope.named,
        isDeclaration statement.node.kind = true ∧ statement.node.start < child.start ∧
          declaration = .statement statement)
      limit name (statementsBinding? scope child name) := by
  cases found : statementsBinding? scope child name with
  | none =>
    rintro _ binding ⟨statement, mem, _, before, rfl⟩
    have nothing := List.findSome?_eq_none_iff.1 found statement
      (List.mem_filter.2 ⟨List.mem_reverse.2 mem, by simpa using before⟩)
    exact not_declares_of_statementBinding? nothing binding
  | some binding =>
    obtain ⟨later, statement, earlier, split, here, silent⟩ := List.findSome?_eq_some_iff.1 found
    have tells := declares_of_statementBinding? here
    have listed : ∀ other, other ∈ scope.named ∧ other.node.start < child.start ↔
        other ∈ later ++ statement :: earlier := by
      intro other
      rw [← split, List.mem_filter, List.mem_reverse, decide_eq_true_eq]
    have ordered : (later ++ statement :: earlier).Pairwise
        fun second first => first.node.stop ≤ second.node.start := by
      rw [← split]
      exact (List.pairwise_reverse.2 (pairwise_named laid)).filter _
    have mem := (listed statement).2 (by simp)
    refine ⟨.statement statement, ⟨⟨statement, mem.1, isDeclaration_of_declares tells, mem.2, rfl⟩,
      ?_⟩, tells⟩
    rintro _ otherBinding ⟨other, memOther, _, before, rfl⟩ tellsOther
    rcases List.mem_append.1 ((listed other).1 ⟨memOther, before⟩) with inLater | notLater
    · exact absurd tellsOther (not_declares_of_statementBinding? (silent other inLater) _)
    rcases List.mem_cons.1 notLater with rfl | inEarlier
    · exact .inl rfl
    · exact .inr (.inl ((List.pairwise_cons.1 (List.pairwise_append.1 ordered).2.1).1 _ inEarlier))

/-- Where only one declaration can be seen, its answer is right. -/
theorem answers_of_only {seen : Declaration → Prop} {only : Declaration} {name : String}
    {answer : Option Binding} (limit : Nat) (isSeen : seen only)
    (single : ∀ other, seen other → other = only)
    (sound : ∀ binding, answer = some binding → only.Declares name binding)
    (complete : answer = none → ∀ binding, ¬ only.Declares name binding) :
    Answers seen limit name answer := by
  cases answer with
  | none =>
    intro other binding seenOther
    rw [single other seenOther]
    exact complete rfl binding
  | some binding =>
    exact ⟨only, ⟨isSeen, fun other _ seenOther _ => .inl (single other seenOther)⟩,
      sound binding rfl⟩

theorem answers_of_unseen {seen : Declaration → Prop} (unseen : ∀ declaration, ¬ seen declaration)
    (limit : Nat) (name : String) : Answers seen limit name none :=
  fun declaration _ isSeen => absurd isSeen (unseen declaration)

/-- An initializer is the only declaration of its statement. -/
theorem answers_initializer {scope : Site} {child : Node} (name : String) (limit : Nat) :
    Answers (InitializerSeen scope child) limit name (initializerBinding? scope child name) := by
  cases first : scope.child? .initializer with
  | none =>
    simp only [initializerBinding?, first]
    apply answers_of_unseen
    rintro _ ⟨other, here, _⟩
    simp [first] at here
  | some initializer =>
    by_cases before : initializer.node.stop ≤ child.start
    · have asks : initializerBinding? scope child name = statementBinding? initializer name := by
        simp [initializerBinding?, first, before]
      rw [asks]
      apply answers_of_only limit ⟨initializer, first, before, rfl⟩
      · rintro _ ⟨other, here, _, rfl⟩
        rw [Option.some.inj (first.symm.trans here)]
      · exact fun binding => declares_of_statementBinding?
      · exact not_declares_of_statementBinding?
    · have asks : initializerBinding? scope child name = none := by
        simp [initializerBinding?, first, before]
      rw [asks]
      apply answers_of_unseen
      rintro _ ⟨other, here, beforeToo, _⟩
      rw [Option.some.inj (first.symm.trans here)] at before
      exact before beforeToo

theorem isAliasOf_iff {scope child : Node} {name : String} :
    isAliasOf scope child name = true ↔ ∃ names, scope.child? .caseName = some names ∧
      names.stop ≤ child.start ∧ name ∈ names.named.map Node.text := by
  unfold isAliasOf
  cases scope.child? .caseName with
  | none => simp
  | some names =>
    simp only [Bool.and_eq_true, decide_eq_true_eq, List.contains_iff_mem, Option.some.injEq,
      exists_eq_left']

/-- In a switch on a type the name of the value comes after the initializer and decides before
it. -/
theorem answers_typeSwitch {scope : Site} {child : Node} (shaped : HeadShaped scope.node)
    (kind : scopeForm scope.node.kind = .typeSwitch) (name : String) (limit : Nat) :
    Answers (fun declaration => InitializerSeen scope child declaration ∨
        ∃ names, scope.node.child? .caseName = some names ∧ names.stop ≤ child.start ∧
          declaration = .caseName names)
      limit name
      (if isAliasOf scope.node child name then some .untold
        else initializerBinding? scope child name) := by
  by_cases aliased : isAliasOf scope.node child name = true
  · rw [if_pos aliased]
    obtain ⟨names, here, before, mem⟩ := isAliasOf_iff.1 aliased
    refine ⟨.caseName names, ⟨.inr ⟨names, here, before, rfl⟩, ?_⟩, .caseName mem⟩
    rintro _ binding (⟨first, initial, _, rfl⟩ | ⟨others, again, _, rfl⟩) _
    · obtain ⟨node, found, rfl⟩ := Option.map_eq_some_iff.1 initial
      exact .inr (.inl (shaped.aliasLast kind node names found here))
    · rw [Option.some.inj (here.symm.trans again)]
      exact .inl rfl
  · rw [if_neg aliased]
    have silent (names : Node) (here : scope.node.child? .caseName = some names)
        (before : names.stop ≤ child.start) (binding : Binding) :
        ¬ (Declaration.caseName names).Declares name binding := by
      intro tells
      cases tells with
      | caseName mem => exact aliased (isAliasOf_iff.2 ⟨names, here, before, mem⟩)
    have initial : Answers (InitializerSeen scope child) limit name
      (initializerBinding? scope child name) := answers_initializer name limit
    cases found : initializerBinding? scope child name with
    | none =>
      rw [found] at initial
      rintro _ binding (first | ⟨names, here, before, rfl⟩)
      · exact initial _ binding first
      · exact silent names here before binding
    | some binding =>
      rw [found] at initial
      obtain ⟨declaration, stands, tells⟩ := initial
      refine ⟨declaration, ⟨.inl stands.isSeen, ?_⟩, tells⟩
      rintro other otherBinding (first | ⟨names, here, before, rfl⟩) tellsOther
      · exact stands.last other otherBinding first tellsOther
      · exact absurd tellsOther (silent names here before otherBinding)

/-- What one clause of a loop says of a name. -/
def clauseBinding? (clause : Site) (name : String) : Option Binding :=
  match clause.node.kind with
  | .rangeClause => rangeBinding? clause name
  | .forClause => (clause.child? .initializer).bind (statementBinding? · name)
  | _ => none

theorem rangeBinding?_eq (clause : Site) (name : String) :
    rangeBinding? clause name =
      if declaresTargets clause.node then
        (positionOf? name (rangeTexts clause)).map (.ranged (clause.child? .right))
      else none := by
  unfold rangeBinding? rangeTexts declaresTargets
  cases clause.node.child? .left with
  | none => simp [positionOf?]
  | some left =>
    simp only [Option.bind_eq_bind, Option.bind_some, Option.map_eq_bind]
    rfl

theorem declares_of_clauseBinding? {clause : Site} {name : String} {binding : Binding}
    (found : clauseBinding? clause name = some binding) :
    ∃ declaration, InClause clause declaration ∧ declaration.Declares name binding := by
  unfold clauseBinding? at found
  split at found
  · rw [rangeBinding?_eq] at found
    split at found
    · obtain ⟨position, first, rfl⟩ := Option.map_eq_some_iff.1 found
      exact ⟨.range clause, .inl ⟨‹_›, ‹_›, rfl⟩, .range (getElem?_of_positionOf? first)⟩
    · contradiction
  · obtain ⟨first, here, tells⟩ := Option.bind_eq_some_iff.1 found
    exact ⟨.statement first, .inr ⟨‹_›, first, here, rfl⟩, declares_of_statementBinding? tells⟩
  · contradiction

theorem clauseBinding?_isSome {clause : Site} {declaration : Declaration} {name : String}
    {binding : Binding} (inClause : InClause clause declaration)
    (tells : declaration.Declares name binding) : (clauseBinding? clause name).isSome = true := by
  unfold clauseBinding?
  rcases inClause with ⟨kind, declares, rfl⟩ | ⟨kind, first, here, rfl⟩
  · cases tells with
    | range here =>
      rw [kind, rangeBinding?_eq, if_pos declares, Option.isSome_map, positionOf?_isSome_iff]
      exact List.mem_of_getElem? here
  · rw [kind]
    simpa only [here, Option.bind_some] using statementBinding?_isSome tells

/-- What is found in a loop is said by one of its clauses before the child. -/
theorem exists_of_loopBinding? {child : Node} {name : String} {clauses : List Site}
    {binding : Binding} (found : loopBinding? child name clauses = some binding) :
    ∃ clause ∈ clauses, clause.node.stop ≤ child.start ∧
      clauseBinding? clause name = some binding := by
  have later {head : Site} {rest : List Site} (inRest : ∃ clause ∈ rest,
      clause.node.stop ≤ child.start ∧ clauseBinding? clause name = some binding) :
      ∃ clause ∈ head :: rest,
        clause.node.stop ≤ child.start ∧ clauseBinding? clause name = some binding := by
    obtain ⟨clause, mem, asked⟩ := inRest
    exact ⟨clause, List.mem_cons_of_mem _ mem, asked⟩
  fun_induction loopBinding? child name clauses with
  | case1 => contradiction
  | case2 clause rest after ih => exact later (ih found)
  | case3 clause rest before kind said tells =>
    refine ⟨clause, by simp, Nat.le_of_not_lt before, ?_⟩
    rw [clauseBinding?, kind]
    exact tells.trans found
  | case4 clause rest before kind tells ih => exact later (ih found)
  | case5 clause rest before kind first here =>
    refine ⟨clause, by simp, Nat.le_of_not_lt before, ?_⟩
    rw [clauseBinding?, kind]
    simpa only [here, Option.bind_some] using found
  | case6 clause rest before kind here ih => exact later (ih found)
  | case7 clause rest before notRange notFor ih => exact later (ih found)

/-- At most one of the children of a loop is a clause. -/
def SingleClause (clauses : List Site) : Prop :=
  ∀ first ∈ clauses, ∀ second ∈ clauses, isClause first.node.kind = true →
    isClause second.node.kind = true → first = second

theorem SingleClause.tail {head : Site} {rest : List Site} (single : SingleClause (head :: rest)) :
    SingleClause rest := fun first memFirst second memSecond =>
  single first (List.mem_cons_of_mem _ memFirst) second (List.mem_cons_of_mem _ memSecond)

theorem singleClause_named {scope : Site} (shaped : HeadShaped scope.node)
    (kind : scopeForm scope.node.kind = .loop) : SingleClause scope.named := by
  intro first memFirst second memSecond headsFirst headsSecond
  obtain ⟨node, memNode, rfl⟩ := List.mem_map.1 memFirst
  obtain ⟨other, memOther, rfl⟩ := List.mem_map.1 memSecond
  rw [shaped.oneClause kind node memNode other memOther headsFirst headsSecond]

theorem clauseBinding?_of_not_isClause {site : Site} (other : isClause site.node.kind ≠ true)
    (name : String) : clauseBinding? site name = none := by
  unfold clauseBinding?
  split
  · simp [isClause, *] at other
  · simp [isClause, *] at other
  · rfl

/-- Where a loop has one clause, nothing is found only if no clause before the child says
anything. -/
theorem clauseBinding?_of_loopBinding? {child : Node} {name : String} {clauses : List Site}
    (single : SingleClause clauses)
    (nothing : loopBinding? child name clauses = none) (clause : Site) (mem : clause ∈ clauses)
    (before : clause.node.stop ≤ child.start) : clauseBinding? clause name = none := by
  fun_induction loopBinding? child name clauses with
  | case1 => cases mem
  | case2 head rest after ih =>
    rcases List.mem_cons.1 mem with rfl | inRest
    · omega
    · exact ih single.tail nothing inRest
  | case3 head rest _ kind said tells => contradiction
  | case4 head rest _ kind tells ih =>
    rcases List.mem_cons.1 mem with rfl | inRest
    · rw [clauseBinding?, kind]
      exact tells
    · exact ih single.tail nothing inRest
  | case5 head rest _ kind first here =>
    -- The search ends here, and every other clause would be this one again.
    have silent : clauseBinding? head name = none := by
      rw [clauseBinding?, kind]
      simpa only [here, Option.bind_some] using nothing
    by_cases heads : isClause clause.node.kind = true
    · rw [single clause mem head (by simp) heads (by simp [isClause, kind])]
      exact silent
    · exact clauseBinding?_of_not_isClause heads name
  | case6 head rest _ kind here ih =>
    rcases List.mem_cons.1 mem with rfl | inRest
    · rw [clauseBinding?, kind]
      simp only [here, Option.bind_none]
    · exact ih single.tail nothing inRest
  | case7 head rest _ notRange notFor ih =>
    rcases List.mem_cons.1 mem with rfl | inRest
    · apply clauseBinding?_of_not_isClause
      simp only [isClause, ne_eq, Bool.or_eq_true, beq_iff_eq]
      rintro (isRange | isFor)
      · exact notRange isRange
      · exact notFor isFor
    · exact ih single.tail nothing inRest

theorem inClause_unique {clause : Site} {first second : Declaration}
    (inFirst : InClause clause first) (inSecond : InClause clause second) : first = second := by
  rcases inFirst with ⟨kind, _, rfl⟩ | ⟨kind, init, here, rfl⟩
  · rcases inSecond with ⟨_, _, rfl⟩ | ⟨kindToo, _⟩
    · rfl
    · simp [kind] at kindToo
  · rcases inSecond with ⟨kindToo, _⟩ | ⟨_, other, hereToo, rfl⟩
    · simp [kind] at kindToo
    · rw [Option.some.inj (here.symm.trans hereToo)]

theorem isClause_of_inClause {clause : Site} {declaration : Declaration}
    (inClause : InClause clause declaration) : isClause clause.node.kind = true := by
  rcases inClause with ⟨kind, _⟩ | ⟨kind, _⟩ <;> simp [isClause, kind]

/-- The clause of a loop decides after its end. -/
theorem answers_loop {scope : Site} {child : Node} (shaped : HeadShaped scope.node)
    (kind : scopeForm scope.node.kind = .loop) (name : String) (limit : Nat) :
    Answers (fun declaration => ∃ clause ∈ scope.named, clause.node.stop ≤ child.start ∧
      InClause clause declaration) limit name (loopBinding? child name scope.named) := by
  have single := singleClause_named shaped kind
  cases found : loopBinding? child name scope.named with
  | none =>
    rintro declaration binding ⟨clause, mem, before, inClause⟩ tells
    have silent := clauseBinding?_of_loopBinding? single found clause mem before
    have heard := clauseBinding?_isSome inClause tells
    simp [silent] at heard
  | some binding =>
    obtain ⟨clause, mem, before, said⟩ := exists_of_loopBinding? found
    obtain ⟨declaration, inClause, tells⟩ := declares_of_clauseBinding? said
    refine ⟨declaration, ⟨⟨clause, mem, before, inClause⟩, ?_⟩, tells⟩
    rintro other _ ⟨clauseToo, memToo, _, inClauseToo⟩ _
    obtain rfl := single clause mem clauseToo memToo (isClause_of_inClause inClause)
      (isClause_of_inClause inClauseToo)
    exact .inl (inClause_unique inClauseToo inClause)

/-- The lists of a function decide together, as a name stands in at most one of them. -/
theorem answers_function {function : Node} {name : String}
    (once : ((signatureLists function).flatMap fun list =>
      (Declaration.parameters list).names).count name ≤ 1) (limit : Nat) :
    Answers (fun declaration => ∃ list ∈ signatureLists function, declaration = .parameters list)
      limit name (functionBinding? function name) := by
  have asks : functionBinding? function name =
      (signatureLists function).findSome? (listBinding? name) := rfl
  rw [asks]
  cases found : (signatureLists function).findSome? (listBinding? name) with
  | none =>
    rintro _ binding ⟨list, mem, rfl⟩ tells
    have heard := listBinding?_isSome tells
    simp [List.findSome?_eq_none_iff.1 found list mem] at heard
  | some binding =>
    obtain ⟨list, mem, said⟩ := List.exists_of_findSome?_eq_some found
    have tells := declares_of_listBinding? said
    refine ⟨.parameters list, ⟨⟨list, mem, rfl⟩, ?_⟩, tells⟩
    rintro _ otherBinding ⟨other, memOther, rfl⟩ tellsOther
    rw [source_unique once memOther mem tellsOther.mem_names tells.mem_names]
    exact .inl rfl

/-- Every scope answers with the last of its declarations that can be seen inside the child. -/
theorem answers_scope {scope : Site} {child : Node} {name : String}
    (laid : scope.node.LaidOut) (shaped : HeadShaped scope.node)
    (once : scopeForm scope.node.kind = .function →
      ((signatureLists scope.node).flatMap fun list =>
        (Declaration.parameters list).names).count name ≤ 1) (limit : Nat) :
    Answers (InScope scope child) limit name (scopeBinding? scope child name) := by
  rw [scopeBinding?_eq]
  unfold InScope
  cases form : scopeForm scope.node.kind with
  | statements => exact answers_statements laid name limit
  | initializer => exact answers_initializer name limit
  | typeSwitch => exact answers_typeSwitch shaped form name limit
  | loop => exact answers_loop shaped form name limit
  | function => exact answers_function (once form) limit
  | none => exact answers_of_unseen (fun _ unseen => unseen) limit name

theorem mem_children_of_mem_named {scope child : Site} (mem : child ∈ scope.named) :
    child.node ∈ scope.node.children := by
  obtain ⟨node, memNode, rfl⟩ := List.mem_map.1 mem
  exact (Node.mem_named_iff.1 memNode).1

theorem mem_children_of_child? {scope child : Site} {role : Role}
    (here : scope.child? role = some child) : child.node ∈ scope.node.children := by
  obtain ⟨node, found, rfl⟩ := Option.map_eq_some_iff.1 here
  exact Node.mem_children_of_child? found

theorem mem_children_of_mem_signatureLists {function list : Node}
    (mem : list ∈ signatureLists function) : list ∈ function.children := by
  obtain ⟨role, _, here⟩ := List.mem_filterMap.1 (List.mem_filter.1 mem).1
  exact Node.mem_children_of_child? here

/-- What can be seen of a scope lies inside it, and before the child or, if it is a list of a
function, after the child. -/
theorem position_of_inScope {scope : Site} {child : Node} {declaration : Declaration}
    (laid : scope.node.LaidOut) (mem : child ∈ scope.node.children)
    (outside : ¬ (scopeForm scope.node.kind = .function ∧ child ∈ signatureLists scope.node))
    (inScope : InScope scope child declaration) :
    scope.node.start ≤ declaration.node.start ∧
      (declaration.node.stop ≤ child.start ∨ child.stop ≤ declaration.node.start) := by
  have initial (seen : InitializerSeen scope child declaration) :
      scope.node.start ≤ declaration.node.start ∧ declaration.node.stop ≤ child.start := by
    obtain ⟨first, here, before, rfl⟩ := seen
    exact ⟨laid.start_le_child (mem_children_of_child? here), before⟩
  unfold InScope at inScope
  cases form : scopeForm scope.node.kind with
  | statements =>
    rw [form] at inScope
    obtain ⟨statement, listed, _, before, rfl⟩ := inScope
    have memStatement := mem_children_of_mem_named listed
    exact ⟨laid.start_le_child memStatement,
      .inl (laid.stop_le_of_start_lt memStatement mem before)⟩
  | initializer =>
    rw [form] at inScope
    exact ⟨(initial inScope).1, .inl (initial inScope).2⟩
  | typeSwitch =>
    rw [form] at inScope
    rcases inScope with seen | ⟨names, here, before, rfl⟩
    · exact ⟨(initial seen).1, .inl (initial seen).2⟩
    · exact ⟨laid.start_le_child (Node.mem_children_of_child? here), .inl before⟩
  | loop =>
    rw [form] at inScope
    obtain ⟨clause, listed, before, ⟨_, _, rfl⟩ | ⟨_, first, here, rfl⟩⟩ := inScope
    · exact ⟨laid.start_le_child (mem_children_of_mem_named listed), .inl before⟩
    · have memClause := mem_children_of_mem_named listed
      have memFirst := mem_children_of_child? here
      have laidClause := laid.child memClause
      exact ⟨Nat.le_trans (laid.start_le_child memClause) (laidClause.start_le_child memFirst),
        .inl (Nat.le_trans (laidClause.child_le_stop memFirst) before)⟩
  | function =>
    rw [form] at inScope
    obtain ⟨list, listed, rfl⟩ := inScope
    have memList := mem_children_of_mem_signatureLists listed
    have differ : list ≠ child := by
      rintro rfl
      exact outside ⟨form, listed⟩
    exact ⟨laid.start_le_child memList, laid.before_or_after memList mem differ⟩
  | none =>
    rw [form] at inScope
    exact inScope.elim

/-- What can be seen from the scopes around a node lies before the node or after it. -/
theorem position_of_seenFrom {root child : Node} {above : List Node} {declaration : Declaration}
    (laid : root.LaidOut) (within : Site.Within root ⟨child, above⟩)
    (outside : ¬ InSignature child above) (seen : SeenFrom child above declaration) :
    declaration.node.stop ≤ child.start ∨ child.stop ≤ declaration.node.start := by
  induction seen with
  | here inScope =>
    cases within with
    | step outer mem =>
      exact (position_of_inScope (outer.laidOut laid).1 mem
        (fun inside => outside (.here inside.1 inside.2)) inScope).2
  | outward _ ih =>
    cases within with
    | step outer mem =>
      have laidScope := (outer.laidOut laid).1
      rcases ih outer (fun inside => outside (.outward inside)) with before | after
      · exact .inl (Nat.le_trans before (laidScope.start_le_child mem))
      · exact .inr (Nat.le_trans (laidScope.child_le_stop mem) after)

/-- The climb answers with the last of all declarations that can be seen. -/
theorem answers_climb {root child : Node} {above : List Node} {name : String}
    (laid : root.LaidOut) (within : Site.Within root ⟨child, above⟩)
    (shaped : ∀ node ∈ above, HeadShaped node) (outside : ¬ InSignature child above)
    (once : ∀ function ∈ above, scopeForm function.kind = .function →
      ((signatureLists function).flatMap fun list =>
        (Declaration.parameters list).names).count name ≤ 1) :
    Answers (SeenFrom child above) child.stop name (climb name child above) := by
  induction above generalizing child with
  | nil =>
    intro declaration binding seen
    cases seen
  | cons scope outer ih =>
    cases within with
    | step around mem =>
      have laidScope := (around.laidOut laid).1
      have here : Answers (InScope ⟨scope, outer⟩ child) child.stop name
          (scopeBinding? ⟨scope, outer⟩ child name) :=
        answers_scope laidScope (shaped scope (by simp)) (once scope (by simp)) child.stop
      have outsideScope : ¬ InSignature scope outer := fun inside => outside (.outward inside)
      have farther := ih around (fun node memNode => shaped node (by simp [memNode])) outsideScope
        (fun function memFunction => once function (by simp [memFunction]))
      cases found : scopeBinding? ⟨scope, outer⟩ child name with
      | some binding =>
        -- The scope answers: what the outer scopes declare lies outside of it.
        rw [found] at here
        rw [climb, found]
        obtain ⟨declaration, stands, tells⟩ := here
        have inside := (position_of_inScope laidScope mem
          (fun inside => outside (.here inside.1 inside.2)) stands.isSeen).1
        refine ⟨declaration, ⟨.here stands.isSeen, ?_⟩, tells⟩
        intro other otherBinding seen tellsOther
        cases seen with
        | here inScope => exact stands.last other otherBinding inScope tellsOther
        | outward seen =>
          rcases position_of_seenFrom laid around outsideScope seen with before | after
          · exact .inr (.inl (Nat.le_trans before inside))
          · exact .inr (.inr (Nat.le_trans (laidScope.child_le_stop mem) after))
      | none =>
        -- The scope is silent, so that the answer from outside stands.
        rw [found] at here
        rw [climb, found]
        cases answer : climb name scope outer with
        | none =>
          rw [answer] at farther
          intro other otherBinding seen
          cases seen with
          | here inScope => exact here other otherBinding inScope
          | outward seen => exact farther other otherBinding seen
        | some binding =>
          rw [answer] at farther
          obtain ⟨declaration, stands, tells⟩ := farther
          refine ⟨declaration, ⟨.outward stands.isSeen, ?_⟩, tells⟩
          intro other otherBinding seen tellsOther
          cases seen with
          | here inScope => exact absurd tellsOther (here other otherBinding inScope)
          | outward seen =>
            rcases stands.last other otherBinding seen tellsOther with same | before | after
            · exact .inl same
            · exact .inr (.inl before)
            · exact .inr (.inr (Nat.le_trans (laidScope.child_le_stop mem) after))

/-- A name has the type that is given by the last of the declarations of the name that can be seen
where it is used, if there is one, and otherwise by the package.  No other declaration of the name
that can be seen stands between that one and the use. -/
theorem typeWithin_eq_of_nearest {root : Node} {use : Site} (laid : root.LaidOut)
    (mem : use ∈ root.sites) (shaped : ∀ node ∈ use.above, HeadShaped node)
    (plain : use.node.kind = .identifier) (outside : ¬ InSignature use.node use.above)
    (once : DeclaredOnce use use.node.text) (index : Index) (steps : Nat) :
    (∃ declaration binding, Visible use declaration ∧
        declaration.Declares use.node.text binding ∧
        (∀ other, declaration.Declares use.node.text other → other = binding) ∧
        (∀ other otherBinding, Visible use other → other.Declares use.node.text otherBinding →
          other = declaration ∨ other.node.stop ≤ declaration.node.start ∨
            use.node.stop ≤ other.node.start) ∧
        typeWithin index (steps + 1) use = bindingType index (typeWithin index steps) binding) ∨
      (∀ declaration binding, Visible use declaration →
          ¬ declaration.Declares use.node.text binding) ∧
        typeWithin index (steps + 1) use =
          match index.value? use.node.text with
          | some symbol => bindingType index (typeWithin index steps) (symbolBinding symbol)
          | none => .error (.undeclared use.node.text) := by
  have answer := answers_climb laid (Site.within_of_mem_sites mem) shaped outside once.signature
  cases found : climb use.node.text use.node use.above with
  | some binding =>
    rw [found] at answer
    obtain ⟨declaration, stands, tells⟩ := answer
    refine .inl ⟨declaration, binding, stands.isSeen, tells, ?_, stands.last, ?_⟩
    · intro other tellsOther
      exact tellsOther.unique (once.declaration declaration stands.isSeen) tells
    · simp [typeWithin, expressionType, plain, binding?, localBinding?, found]
  | none =>
    rw [found] at answer
    refine .inr ⟨answer, ?_⟩
    cases declared : index.value? use.node.text <;>
      simp [typeWithin, expressionType, plain, binding?, localBinding?, found, declared]

/-- The parameter `x` in `func (x T) { x := y; x }`. -/
def shadowedList : Node :=
  .mk .parameterList (some .parameters) ⟨5, 10, 0, 5⟩ "(x T)"
    [.mk .parameterDeclaration none ⟨6, 9, 0, 6⟩ "x T"
      [.mk .identifier (some .name) ⟨6, 7, 0, 6⟩ "x" [],
       .mk .typeIdentifier (some .type) ⟨8, 9, 0, 8⟩ "T" []]]

/-- The statement `x := y`. -/
def shadowingStatement : Node :=
  .mk .shortVarDeclaration none ⟨13, 19, 0, 13⟩ "x := y"
    [.mk .expressionList (some .left) ⟨13, 14, 0, 13⟩ "x"
      [.mk .identifier none ⟨13, 14, 0, 13⟩ "x" []],
     .mk .expressionList (some .right) ⟨18, 19, 0, 18⟩ "y"
      [.mk .identifier none ⟨18, 19, 0, 18⟩ "y" []]]

def shadowedName : Node :=
  .mk .identifier none ⟨21, 22, 0, 21⟩ "x" []

/-- The body `{ x := y; x }`. -/
def shadowingBody : Node :=
  .mk .block (some .body) ⟨11, 24, 0, 11⟩ "{ x := y; x }" [shadowingStatement, shadowedName]

def shadowingFunction : Node :=
  .mk .funcLiteral none ⟨0, 24, 0, 0⟩ "func (x T) { x := y; x }" [shadowedList, shadowingBody]

def shadowedUse : Site :=
  ⟨shadowedName, [shadowingBody, shadowingFunction]⟩

/-- The statement and the parameter are all that can be seen from the use. -/
theorem visible_shadowedUse {declaration : Declaration} (seen : Visible shadowedUse declaration) :
    declaration = .statement ⟨shadowingStatement, shadowedUse.above⟩ ∨
      declaration = .parameters shadowedList := by
  rcases seen with ⟨statement, mem, _, before, rfl⟩ | (⟨list, mem, rfl⟩ | farther)
  · left
    have named : Site.named ⟨shadowingBody, [shadowingFunction]⟩ =
      [⟨shadowingStatement, shadowedUse.above⟩, shadowedUse] := rfl
    rw [named] at mem
    simp only [List.mem_cons, List.not_mem_nil, or_false] at mem
    rcases mem with rfl | rfl
    · rfl
    · exact absurd before (Nat.lt_irrefl _)
  · right
    have lists : signatureLists shadowingFunction = [shadowedList] := rfl
    rw [lists, List.mem_singleton] at mem
    rw [mem]
  · cases farther

theorem declaredOnce_shadowedUse : DeclaredOnce shadowedUse "x" where
  declaration declaration seen := by
    rcases visible_shadowedUse seen with rfl | rfl
    · decide
    · decide
  signature function mem form := by
    simp only [shadowedUse, List.mem_cons, List.not_mem_nil, or_false] at mem
    rcases mem with rfl | rfl
    · cases form
    · decide

/-- The statement decides over the parameter. -/
theorem typeWithin_shadowedUse :
    shadowingFunction.LaidOut ∧ shadowedUse ∈ shadowingFunction.sites ∧
      (∀ node ∈ shadowedUse.above, HeadShaped node) ∧
      shadowedUse.node.kind = .identifier ∧
      ¬ InSignature shadowedUse.node shadowedUse.above ∧ DeclaredOnce shadowedUse "x" ∧
      ∃ declaration binding, Visible shadowedUse declaration ∧ declaration.Declares "x" binding ∧
        (∀ other, declaration.Declares "x" other → other = binding) ∧
        (∀ other otherBinding, Visible shadowedUse other → other.Declares "x" otherBinding →
          other = declaration ∨ other.node.stop ≤ declaration.node.start ∨
            shadowedUse.node.stop ≤ other.node.start) ∧
        typeWithin ⟨[]⟩ 33 shadowedUse = bindingType ⟨[]⟩ (typeWithin ⟨[]⟩ 32) binding := by
  have laid : shadowingFunction.LaidOut := by
    simp [Node.laidOut_mk_iff, shadowingFunction, shadowingBody, shadowingStatement, shadowedList,
      shadowedName, Node.start, Node.stop]
  have mem : shadowedUse ∈ shadowingFunction.sites := List.mem_of_getElem? (i := 11) rfl
  have shaped : ∀ node ∈ shadowedUse.above, HeadShaped node := by
    intro node around
    simp only [shadowedUse, List.mem_cons, List.not_mem_nil, or_false] at around
    rcases around with rfl | rfl
    · exact ⟨nofun, nofun⟩
    · exact ⟨nofun, nofun⟩
  have outside : ¬ InSignature shadowedUse.node shadowedUse.above := by
    rintro (⟨form, _⟩ | (⟨_, listed⟩ | farther))
    · cases form
    · simp [signatureLists, shadowingFunction, shadowedList, shadowingBody, Node.child?,
        Node.plays] at listed
    · cases farther
  refine ⟨laid, mem, shaped, rfl, outside, declaredOnce_shadowedUse, ?_⟩
  have seen : Visible shadowedUse (.statement ⟨shadowingStatement, shadowedUse.above⟩) :=
    .here ⟨_, List.mem_of_getElem? (i := 0) rfl, rfl, by decide, rfl⟩
  have tells : (Declaration.statement ⟨shadowingStatement, shadowedUse.above⟩).Declares "x" _ :=
    @Declaration.Declares.short _ _ 0 _ rfl rfl rfl rfl
  rcases typeWithin_eq_of_nearest laid mem shaped rfl outside declaredOnce_shadowedUse ⟨[]⟩ 32 with
    decided | ⟨silent, _⟩
  · exact decided
  · exact absurd tells (silent _ _ seen)

end SliceGuard.Typing
