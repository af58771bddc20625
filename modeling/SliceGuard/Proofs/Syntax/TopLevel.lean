import SliceGuard.Proofs.Syntax.Reading
import SliceGuard.Syntax.Source

/-!
# What stands at the top of a file

In a source that is accepted, functions, methods and types have one name each, and specifications of
variables and constants have any number of them.  Nothing else is in the role of a name there,
except for the commas between the names of constants.  This is shown along the readers of
declarations; statements at the top of a file are only told apart from declarations.
-/

namespace SliceGuard.Syntax

namespace Grammar

/-- The signs and comments between the parts of a phrase. -/
def IsExtra (node : Node) : Prop :=
  node.kind = .token ∨ node.kind = .comment

/-- A phrase that is given one name. -/
def IsTitled (kind : Kind) (node : Node) : Prop :=
  ∃ title, node.childrenIn .name = [title] ∧ title.kind = kind

/-- Names with commas between them. -/
inductive WithCommas : List Node → Prop
  | last {title : Node} (isName : title.kind = .identifier) : WithCommas [title]
  | more {title comma : Node} {rest : List Node} (isName : title.kind = .identifier)
      (isComma : comma.kind = .token) (further : WithCommas rest) :
      WithCommas (title :: comma :: rest)

def IsTypeSpec (spec : Node) : Prop :=
  (spec.kind = .typeSpec ∨ spec.kind = .typeAlias) ∧ IsTitled .typeIdentifier spec

def IsVariableSpec (spec : Node) : Prop :=
  spec.kind = .varSpec ∧ ∀ title ∈ spec.childrenIn .name, title.kind = .identifier

def IsVariableList (list : Node) : Prop :=
  list.kind = .varSpecList ∧ ∀ child ∈ list.children, IsExtra child ∨ IsVariableSpec child

/-- A specification of constants, in which the commas have the role of names too. -/
def IsConstantSpec (spec : Node) : Prop :=
  spec.kind = .constSpec ∧ WithCommas (spec.childrenIn .name)

/-- The kinds of declarations that introduce names into a package. -/
def declaringKinds : List Kind :=
  [.functionDeclaration, .methodDeclaration, .typeDeclaration, .varDeclaration, .constDeclaration]

/-- What stands at the top of a file. -/
inductive IsTopLevel : Node → Prop
  | function {node : Node} (kind : node.kind = .functionDeclaration)
      (titled : IsTitled .identifier node) : IsTopLevel node
  | method {node : Node} (kind : node.kind = .methodDeclaration)
      (titled : IsTitled .fieldIdentifier node) : IsTopLevel node
  | typeSpecs {node : Node} (kind : node.kind = .typeDeclaration)
      (specs : ∀ child ∈ node.children, IsExtra child ∨ IsTypeSpec child) : IsTopLevel node
  | variableSpecs {node : Node} (kind : node.kind = .varDeclaration)
      (specs : ∀ child ∈ node.children,
        IsExtra child ∨ IsVariableSpec child ∨ IsVariableList child) : IsTopLevel node
  | constantSpecs {node : Node} (kind : node.kind = .constDeclaration)
      (specs : ∀ child ∈ node.children, IsExtra child ∨ IsConstantSpec child) : IsTopLevel node
  | other {node : Node} (kind : node.kind ∉ declaringKinds) : IsTopLevel node

namespace IsTopLevel

variable {node : Node}

theorem titled_of_function (top : IsTopLevel node) (isFunction : node.kind = .functionDeclaration) :
    IsTitled .identifier node := by
  cases top with
  | function _ titled => exact titled
  | other kind => simp [isFunction, declaringKinds] at kind
  | _ => simp_all

theorem titled_of_method (top : IsTopLevel node) (isMethod : node.kind = .methodDeclaration) :
    IsTitled .fieldIdentifier node := by
  cases top with
  | method _ titled => exact titled
  | other kind => simp [isMethod, declaringKinds] at kind
  | _ => simp_all

theorem typeSpecs_of_kind (top : IsTopLevel node) (isTypes : node.kind = .typeDeclaration) :
    ∀ child ∈ node.children, IsExtra child ∨ IsTypeSpec child := by
  cases top with
  | typeSpecs _ specs => exact specs
  | other kind => simp [isTypes, declaringKinds] at kind
  | _ => simp_all

theorem variableSpecs_of_kind (top : IsTopLevel node) (isVariables : node.kind = .varDeclaration) :
    ∀ child ∈ node.children, IsExtra child ∨ IsVariableSpec child ∨ IsVariableList child := by
  cases top with
  | variableSpecs _ specs => exact specs
  | other kind => simp [isVariables, declaringKinds] at kind
  | _ => simp_all

theorem constantSpecs_of_kind (top : IsTopLevel node)
    (isConstants : node.kind = .constDeclaration) :
    ∀ child ∈ node.children, IsExtra child ∨ IsConstantSpec child := by
  cases top with
  | constantSpecs _ specs => exact specs
  | other kind => simp [isConstants, declaringKinds] at kind
  | _ => simp_all

end IsTopLevel

section Specifications

variable (g : Nested)

theorem unplayed_inRole {role : Role} (other : role ≠ .name) (part : Part) :
    (part.inRole role).node.plays .name = false := by
  simp [Part.inRole, Node.plays, other]

theorem unplayed_plain {kind : Kind} {part : Part} (plain : IsPlain kind part) :
    part.node.plays .name = false := by
  simp [Node.plays, plain.2]

theorem reads_specValues : Reads (specValues g) fun parts =>
    ∀ part ∈ parts, part.node.plays .name = false := by
  refine reads_after fun _ => reads_ite (fun _ => ?_) fun _ => reads_pure (by simp)
  refine (reads_sign "=").bind fun mark isMark => reads_after fun values => reads_pure ?_
  simp [unplayed_plain isMark, unplayed_inRole]

/-- The names of variables are given their role, the commas between them are not. -/
theorem reads_variableNames : Reads (specNames g false) fun names =>
    ∀ part ∈ names.1 :: names.2, part.node.plays .name = true → part.node.kind = .identifier := by
  refine (reads_separated (reads_name .identifier) "," g.limit).bind fun names all => reads_pure ?_
  intro part mem plays
  dsimp only at mem
  rw [← List.map_cons (f := fun part : Part => if part.isNamed || false then _ else part)] at mem
  obtain ⟨part, listed, rfl⟩ := List.mem_map.1 mem
  rcases all.mem listed with isName | isMark
  · simp [Part.isNamed, Node.isNamed, isName.1, Kind.isNamed, Part.inRole]
  · simp [Part.isNamed, Node.isNamed, isMark.1, Kind.isNamed, unplayed_plain isMark] at plays

/-- The names of constants are given their role, and the commas between them are given it too. -/
theorem reads_constantNames : Reads (specNames g true) fun names =>
    (∀ part ∈ names.1 :: names.2, part.node.plays .name = true) ∧
      WithCommas ((names.1 :: names.2).map Part.node) := by
  refine (reads_separated (reads_name .identifier) "," g.limit).bind fun names all => reads_pure ?_
  simp only [Bool.or_true, if_true]
  rw [← List.map_cons]
  refine ⟨?_, ?_⟩
  · intro part mem
    obtain ⟨part, _, rfl⟩ := List.mem_map.1 mem
    simp [Part.inRole, Node.plays]
  · obtain ⟨first, rest⟩ := names
    simp only at all ⊢
    induction all with
    | last isName => exact .last (by simp [Part.inRole, isName.1])
    | more isName isMark _ ih =>
      exact .more (by simp [Part.inRole, isName.1]) (by simp [Part.inRole, isMark.1]) ih

theorem reads_varSpec : Reads (varSpec g) fun part => IsVariableSpec part.node := by
  -- Only the names among the parts are in the role of names.
  have isSpec {names : Part × List Part} {others : List Part}
      (named : ∀ part ∈ names.1 :: names.2, part.node.plays .name = true →
        part.node.kind = .identifier)
      (unplayed : ∀ part ∈ others, part.node.plays .name = false) :
      IsVariableSpec (Part.group .varSpec names.1 (names.2 ++ others)).node := by
    refine ⟨rfl, fun title mem => ?_⟩
    rw [childrenIn_group, List.mem_filter, ← List.cons_append, List.map_append,
      List.mem_append] at mem
    obtain ⟨mem | mem, plays⟩ := mem
    · obtain ⟨part, listed, rfl⟩ := List.mem_map.1 mem
      exact named part listed plays
    · obtain ⟨part, listed, rfl⟩ := List.mem_map.1 mem
      simp [unplayed part listed] at plays
  refine (reads_variableNames g).bind fun names named => reads_after fun _ =>
    reads_ite (fun _ => ?_) fun _ => reads_after fun type => ?_
  · exact (reads_specValues g).bind fun values unplayed => reads_pure (isSpec named unplayed)
  · refine (reads_specValues g).bind fun values unplayed => reads_pure (isSpec named ?_)
    simpa [unplayed_inRole] using unplayed

theorem reads_constSpec : Reads (constSpec g) fun part => IsConstantSpec part.node := by
  have isSpec {names : Part × List Part} {others : List Part}
      (named : (∀ part ∈ names.1 :: names.2, part.node.plays .name = true) ∧
        WithCommas ((names.1 :: names.2).map Part.node))
      (unplayed : ∀ part ∈ others, part.node.plays .name = false) :
      IsConstantSpec (Part.group .constSpec names.1 (names.2 ++ others)).node := by
    refine ⟨rfl, ?_⟩
    rw [childrenIn_group, ← List.cons_append, List.map_append, List.filter_append,
      List.filter_eq_self.2, List.filter_eq_nil_iff.2, List.append_nil]
    · exact named.2
    · simpa using unplayed
    · simpa using named.1
  refine (reads_constantNames g).bind fun names named => reads_after fun _ => reads_after fun _ =>
    reads_ite (fun _ => ?_) fun _ => reads_after fun type => ?_
  · exact (reads_specValues g).bind fun values unplayed => reads_pure (isSpec named unplayed)
  · refine (reads_specValues g).bind fun values unplayed => ?_
    split
    · exact reads_failure
    · refine reads_pure (isSpec named ?_)
      simpa [unplayed_inRole] using unplayed

/-- A phrase has one name if it is the only one of its parts that has been given the role. -/
theorem isTitled_group {kind titleKind : Kind} {first title : Part} {rest after : List Part}
    (before : List Part) (parts : first :: rest = before ++ title.inRole .name :: after)
    (titled : title.node.kind = titleKind)
    (unplayed : ∀ part ∈ before ++ after, part.node.plays .name = false) :
    IsTitled titleKind (Part.group kind first rest).node := by
  refine ⟨(title.inRole .name).node, ?_, by simpa [Part.inRole] using titled⟩
  have none (parts : List Part) (mem : ∀ part ∈ parts, part ∈ before ++ after) :
      (parts.map Part.node).filter (Node.plays .name) = [] := by
    rw [List.filter_eq_nil_iff]
    intro node inside
    obtain ⟨part, listed, rfl⟩ := List.mem_map.1 inside
    simp [unplayed part (mem part listed)]
  rw [childrenIn_group, parts, List.map_append, List.map_cons, List.filter_append, List.filter_cons,
    none before (by simp +contextual), none after (by simp +contextual)]
  simp [Part.inRole, Node.plays]

theorem reads_typeSpecAfter {named : Part} (isName : IsPlain .typeIdentifier named)
    {parameters : List Part} (unplayed : ∀ part ∈ parameters, part.node.plays .name = false) :
    Reads (typeSpecAfter g (named.inRole .name) parameters) fun part => IsTypeSpec part.node := by
  refine reads_after fun _ => reads_ite (fun _ => ?_) fun _ => reads_after fun type => reads_pure ?_
  · refine (reads_sign "=").bind fun mark isMark => reads_after fun type => reads_pure ?_
    refine ⟨.inr rfl, isTitled_group [] rfl isName.1 ?_⟩
    simpa [or_imp, forall_and, unplayed_inRole, unplayed_plain isMark] using unplayed
  · refine ⟨.inl rfl, isTitled_group [] rfl isName.1 ?_⟩
    simpa [or_imp, forall_and, unplayed_inRole] using unplayed

theorem reads_typeSpec : Reads (typeSpec g) fun part => IsTypeSpec part.node := by
  refine (reads_name .typeIdentifier).bind fun named isName => reads_after fun _ =>
    reads_ite (fun _ => ?_) fun _ => reads_typeSpecAfter g isName (by simp)
  refine (reads_attempt (reads_typeSpecAfter g isName (by simp))).bind fun found isSpec => ?_
  split
  · exact reads_pure (isSpec _ rfl)
  · exact reads_after fun parameters => reads_typeSpecAfter g isName (by simp [unplayed_inRole])

/-- Specifications in parentheses with the signs between them. -/
theorem reads_specsInParentheses {p : Part → Prop} {spec : Reader Part} (reads : Reads spec p) :
    Reads (specsInParentheses g spec) fun found =>
      ∀ part ∈ found.1 :: found.2, p part ∨ IsPlain .token part := by
  refine (reads_sign "(").bind fun opening isOpening =>
    (reads_linesUntil reads ")" g.limit).bind fun inside all =>
      (reads_sign ")").bind fun closing isClosing => reads_pure ?_
  intro part mem
  simp only [List.mem_cons, List.mem_append, List.not_mem_nil, or_false] at mem
  rcases mem with rfl | mem | rfl
  · exact .inr isOpening
  · exact all part mem
  · exact .inr isClosing

/-- The children of a group of specifications and signs. -/
theorem extra_or_of_group {p : Node → Prop} {kind : Kind} {first : Part} {rest : List Part}
    (all : ∀ part ∈ first :: rest, p part.node ∨ IsPlain .token part) :
    ∀ child ∈ (Part.group kind first rest).node.children, IsExtra child ∨ p child := by
  intro child mem
  rcases mem_children_group mem with ⟨part, listed, rfl⟩ | isComment
  · rcases all part listed with holds | isMark
    · exact .inr holds
    · exact .inl (.inl isMark.1)
  · exact .inl (.inr isComment)

theorem reads_varDeclaration :
    Reads (varDeclaration g) fun part => IsTopLevel part.node := by
  refine (reads_sign "var").bind fun word isWord => reads_after fun _ =>
    reads_ite (fun _ => ?_) fun _ => ?_
  · refine (reads_specsInParentheses g (reads_varSpec g)).bind fun specs all => reads_pure ?_
    refine .variableSpecs rfl (extra_or_of_group ?_)
    simp only [List.mem_cons, List.not_mem_nil, or_false, forall_eq_or_imp, forall_eq]
    exact ⟨.inr isWord, .inl (.inr ⟨rfl, extra_or_of_group all⟩)⟩
  · refine (reads_varSpec g).bind fun spec isSpec => reads_pure ?_
    refine .variableSpecs rfl (extra_or_of_group ?_)
    simp only [List.mem_cons, List.not_mem_nil, or_false, forall_eq_or_imp, forall_eq]
    exact ⟨.inr isWord, .inl (.inl isSpec)⟩

/-- Declarations whose specifications stand directly in them. -/
theorem reads_plainDeclaration {p : Node → Prop} {kind : Kind} (word : String)
    {spec : Reader Part} (reads : Reads spec fun part => p part.node) :
    Reads (plainDeclaration g kind word spec) fun part =>
      part.node.kind = kind ∧ ∀ child ∈ part.node.children, IsExtra child ∨ p child := by
  refine (reads_sign word).bind fun word isWord => reads_after fun _ =>
    reads_ite (fun _ => ?_) fun _ => ?_
  · refine (reads_specsInParentheses g reads).bind fun specs all => reads_pure ⟨rfl, ?_⟩
    refine extra_or_of_group fun part mem => ?_
    rcases List.mem_cons.1 mem with rfl | mem
    · exact .inr isWord
    · exact all part mem
  · refine reads.bind fun spec isSpec => reads_pure ⟨rfl, ?_⟩
    apply extra_or_of_group
    simp only [List.mem_cons, List.not_mem_nil, or_false, forall_eq_or_imp, forall_eq]
    exact ⟨.inr isWord, .inl isSpec⟩

end Specifications

section Functions

variable (g : Nested)

theorem reads_result : Reads (result? g) fun parts =>
    ∀ part ∈ parts, part.node.plays .name = false := by
  refine reads_after fun _ => reads_ite (fun _ => ?_) fun _ => reads_after fun _ =>
    reads_ite (fun _ => ?_) fun _ => reads_pure (by simp)
  · exact reads_after fun list => reads_pure (by simp [unplayed_inRole])
  · exact reads_after fun type => reads_pure (by simp [unplayed_inRole])

theorem reads_signature : Reads (signature g) fun parts =>
    ∀ part ∈ parts, part.node.plays .name = false := by
  refine reads_after fun list => (reads_result g).bind fun result unplayed => reads_pure ?_
  simpa [unplayed_inRole] using unplayed

theorem reads_body : Reads (body? g) fun parts =>
    ∀ part ∈ parts, part.node.plays .name = false := by
  refine reads_after fun _ => reads_ite (fun _ => ?_) fun _ => reads_pure (by simp)
  exact reads_after fun block => reads_pure (by simp [unplayed_inRole])

theorem reads_functionDeclaration :
    Reads (functionDeclaration g) fun part => IsTopLevel part.node := by
  refine (reads_sign "func").bind fun word isWord =>
    (reads_name .identifier).bind fun named isName => ?_
  have further (parameters : List Part)
      (unplayed : ∀ part ∈ parameters, part.node.plays .name = false) :
      Reads (do
        let types ← signature g
        let body ← body? g
        pure (Part.group .functionDeclaration word
          (named.inRole .name :: parameters ++ types ++ body)))
        fun part => IsTopLevel part.node := by
    refine (reads_signature g).bind fun types typed => (reads_body g).bind fun body bodied =>
      reads_pure (.function rfl (isTitled_group [word] rfl isName.1 ?_))
    intro part mem
    simp only [List.append_eq, List.mem_append, List.mem_singleton] at mem
    rcases mem with rfl | (mem | mem) | mem
    · exact unplayed_plain isWord
    · exact unplayed part mem
    · exact typed part mem
    · exact bodied part mem
  refine reads_after fun _ => reads_ite (fun _ => ?_) fun _ => further [] (by simp)
  exact reads_after fun list => further [list.inRole .typeParameters] (by simp [unplayed_inRole])

theorem reads_methodDeclaration :
    Reads (methodDeclaration g) fun part => IsTopLevel part.node := by
  refine (reads_sign "func").bind fun word isWord => reads_after fun receiver =>
    (reads_name .fieldIdentifier).bind fun named isName => reads_after fun _ =>
      reads_ite (fun _ => ?_) fun _ => reads_failure
  refine (reads_signature g).bind fun types typed => (reads_body g).bind fun body bodied =>
    reads_pure (.method rfl
      (isTitled_group [word, receiver.inRole .receiver] rfl isName.1 ?_))
  intro part mem
  simp only [List.append_eq, List.mem_append, List.mem_cons, List.not_mem_nil, or_false] at mem
  rcases mem with (rfl | rfl) | mem | mem
  · exact unplayed_plain isWord
  · exact unplayed_inRole (by decide) receiver
  · exact typed part mem
  · exact bodied part mem

end Functions

section Statements

variable (g : Nested)

theorem isTopLevel_group {kind : Kind} (other : kind ∉ declaringKinds) {first : Part}
    {rest : List Part} : IsTopLevel (Part.group kind first rest).node :=
  .other other

theorem reads_group {kind : Kind} (other : kind ∉ declaringKinds) {first : Part}
    {rest : List Part} :
    Reads (pure (Part.group kind first rest)) fun part => IsTopLevel part.node :=
  reads_pure (isTopLevel_group other)

theorem reads_labeledStatement : Reads (labeledStatement g) fun part => IsTopLevel part.node := by
  refine reads_after fun label => reads_after fun colon => reads_after fun _ =>
    reads_ite (fun _ => reads_group (by decide)) fun _ => reads_after fun _ =>
      reads_ite (fun _ => ?_) fun _ => ?_
  · exact reads_after fun _ => reads_group (by decide)
  · exact reads_after fun _ => reads_group (by decide)

theorem reads_returnStatement : Reads (returnStatement g) fun part => IsTopLevel part.node :=
  reads_after fun _ => reads_after fun _ => reads_ite (fun _ => reads_group (by decide)) fun _ =>
    reads_after fun _ => reads_group (by decide)

theorem reads_jump {kind : Kind} (other : kind ∉ declaringKinds) (word : String)
    (optional : Bool) : Reads (jump kind word optional) fun part => IsTopLevel part.node := by
  refine reads_after fun word => reads_after fun _ => reads_ite (fun _ => reads_group other)
    fun _ => ?_
  exact reads_after fun _ => reads_group other

theorem reads_wordAndExpression {kind : Kind} (other : kind ∉ declaringKinds) (word : String) :
    Reads (wordAndExpression g kind word) fun part => IsTopLevel part.node :=
  reads_after fun _ => reads_after fun _ => reads_group other

theorem reads_block : Reads (block g) fun part => IsTopLevel part.node :=
  reads_after fun _ => reads_after fun _ => reads_after fun _ => reads_group (by decide)

theorem reads_ifStatement : Reads (ifStatement g) fun part => IsTopLevel part.node := by
  refine reads_after fun word => reads_after fun first => ?_
  refine reads_after fun _ => reads_ite (fun _ => ?_) fun _ => ?_
  · exact reads_after fun _ => reads_after fun _ => reads_after fun _ => reads_after fun _ =>
      reads_after fun _ => reads_group (by decide)
  · split
    · exact reads_after fun _ => reads_after fun _ => reads_after fun _ => reads_group (by decide)
    · exact reads_after fun _ => reads_after fun _ => reads_after fun _ => reads_group (by decide)

theorem reads_forStatement : Reads (forStatement g) fun part => IsTopLevel part.node := by
  refine reads_after fun word => reads_after fun token => ?_
  split
  · exact reads_after fun _ => reads_after fun _ => reads_group (by decide)
  · exact reads_after fun _ => reads_after fun _ => reads_after fun _ => reads_group (by decide)
  · exact reads_after fun _ => reads_after fun _ => reads_after fun _ => reads_group (by decide)
  · exact reads_after fun _ => reads_after fun _ => reads_after fun _ => reads_group (by decide)

theorem reads_switchStatement : Reads (switchStatement g) fun part => IsTopLevel part.node := by
  refine reads_after fun word => reads_after fun header => ?_
  split
  · exact reads_after fun _ => reads_group (by decide)
  · exact reads_after fun _ => reads_group (by decide)

theorem reads_selectStatement : Reads (selectStatement g) fun part => IsTopLevel part.node :=
  reads_after fun _ => reads_after fun _ => reads_group (by decide)

theorem reads_simple (header : Bool) :
    Reads (simple g header) fun found => IsTopLevel found.toPart.node := by
  have statement {kind : Kind} (other : kind ∉ declaringKinds) {first : Part} {rest : List Part} :
      Reads (pure (Simple.statement (.group kind first rest)))
        fun found => IsTopLevel found.toPart.node :=
    reads_pure (isTopLevel_group other)
  refine reads_after fun list => reads_after fun token => reads_ite (fun _ => ?_) fun _ =>
    reads_ite (fun _ => ?_) fun _ => reads_after fun value => ?_
  · exact reads_after fun _ => reads_after fun _ => statement (by decide)
  · exact reads_after fun _ => reads_after fun _ => statement (by decide)
  · split
    · exact reads_after fun _ => statement (by decide)
    · exact reads_after fun _ => statement (by decide)
    · exact reads_after fun _ => reads_after fun _ => statement (by decide)
    · exact reads_pure (isTopLevel_group (by decide))

/-- Blocks and if statements are read as such, however deep. -/
theorem reads_within {goal : Goal} (isStatement : goal = .block ∨ goal = .ifStatement)
    (depth : Nat) : Reads (readWithin depth goal) fun part => IsTopLevel part.node := by
  cases depth with
  | zero => exact reads_failure
  | succ depth =>
    rcases isStatement with rfl | rfl
    · exact reads_block _
    · exact reads_ifStatement _

end Statements

section Files

variable (depth : Nat)

theorem reads_statement :
    Reads (statement ⟨depth, readWithin depth⟩) fun part => IsTopLevel part.node := by
  refine reads_after fun _ => reads_after fun _ => reads_ite (fun _ => reads_labeledStatement _)
    fun _ => reads_after fun token => ?_
  split
  · exact reads_varDeclaration _
  · exact (reads_plainDeclaration _ "const" (reads_constSpec _)).mono fun _ found =>
      .constantSpecs found.1 found.2
  · exact (reads_plainDeclaration _ "type" (reads_typeSpec _)).mono fun _ found =>
      .typeSpecs found.1 found.2
  · exact reads_returnStatement _
  · exact reads_wordAndExpression _ (by decide) "go"
  · exact reads_wordAndExpression _ (by decide) "defer"
  · exact reads_within (.inr rfl) depth
  · exact reads_forStatement _
  · exact reads_switchStatement _
  · exact reads_selectStatement _
  · exact reads_within (.inl rfl) depth
  · exact reads_jump (by decide) "break" true
  · exact reads_jump (by decide) "continue" true
  · exact reads_jump (by decide) "goto" false
  · exact reads_after fun _ => reads_group (by decide)
  · exact (reads_simple _ false).bind fun found isTopLevel => reads_pure isTopLevel

theorem reads_importDeclaration (g : Nested) :
    Reads (importDeclaration g) fun part => IsTopLevel part.node := by
  refine reads_after fun _ => reads_after fun _ => reads_ite (fun _ => ?_) fun _ => ?_
  · exact reads_after fun _ => reads_group (by decide)
  · exact reads_after fun _ => reads_group (by decide)

theorem reads_topLevel :
    Reads (topLevel ⟨depth, readWithin depth⟩) fun part => IsTopLevel part.node := by
  refine reads_after fun token => ?_
  split
  · exact reads_after fun _ => reads_after fun _ => reads_group (by decide)
  · exact reads_importDeclaration _
  · refine reads_after fun _ => reads_ite (fun _ => reads_functionDeclaration _) fun _ => ?_
    refine (reads_attempt (reads_methodDeclaration _)).bind fun found isMethod => ?_
    split
    · exact reads_pure (isMethod _ rfl)
    · exact reads_statement depth
  · exact reads_statement depth

theorem isTopLevel_of_plain {part : Part} (plain : IsPlain .token part) : IsTopLevel part.node :=
  .other (by rw [plain.1]; decide)

theorem reads_topLevels (limit : Nat) :
    Reads (topLevels ⟨depth, readWithin depth⟩ limit) fun parts =>
      ∀ part ∈ parts, IsTopLevel part.node := by
  induction limit with
  | zero => exact reads_failure
  | succ limit ih =>
    refine reads_after fun token => reads_ite (fun _ => reads_pure (by simp)) fun _ =>
      reads_ite (fun _ => ?_) fun _ => ?_
    · refine reads_after fun empty => ih.bind fun rest all => reads_pure ?_
      simpa using ⟨isTopLevel_group (by decide), all⟩
    · refine (reads_topLevel depth).bind fun first isTopLevel =>
        reads_terminator.bind fun ended isMark => ih.bind fun rest all => reads_pure ?_
      simpa using ⟨isTopLevel, isTopLevel_of_plain isMark, all⟩

end Files

end Grammar

open Grammar

theorem isTopLevel_comment {comments : List Comment} {node : Node}
    (mem : node ∈ comments.map Comment.node) : IsTopLevel node := by
  obtain ⟨comment, _, rfl⟩ := List.mem_map.1 mem
  exact .other (by simp [Comment.node, declaringKinds])

/-- What stands at the top of a source that is accepted. -/
theorem isTopLevel_of_tree? {bytes : ByteArray} {root : Node} (accepted : tree? bytes = some root) :
    root.kind = .sourceFile ∧ ∀ child ∈ root.children, IsTopLevel child := by
  unfold tree? at accepted
  obtain ⟨tokens, _, accepted⟩ := Option.bind_eq_some_iff.1 accepted
  obtain ⟨⟨node, rest⟩, read, accepted⟩ := Option.bind_eq_some_iff.1 accepted
  obtain rfl := Option.some.inj accepted
  have shaped (depth : Nat) (text : String) :
      Reads (sourceTree ⟨depth, readWithin depth⟩ text) fun root =>
        root.kind = .sourceFile ∧ ∀ child ∈ root.children, IsTopLevel child := by
    refine (reads_topLevels depth depth).bind fun parts all => reads_after fun stop =>
      reads_pure ⟨rfl, ?_⟩
    intro child mem
    rcases List.mem_append.1 mem with mem | mem
    · obtain ⟨part, listed, mem⟩ := List.mem_flatMap.1 mem
      rcases List.mem_append.1 mem with mem | mem
      · exact isTopLevel_comment mem
      · rw [List.mem_singleton.1 mem]
        exact all part listed
    · exact isTopLevel_comment mem
  exact shaped _ _ _ _ _ read

end SliceGuard.Syntax
