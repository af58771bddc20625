import SliceGuard.Proofs.Declarations.Flattening
import SliceGuard.Proofs.Typing.Scopes

/-!
# Symbols of two versions of a package

Two versions of a file declare the same names, with types and values that correspond, apart from the
variables and constants of the edited specifications.  So what is looked up in the indexes of the
two versions corresponds, unless it is the name of such a variable or constant.  Where only lists of
statements are edited, functions and methods have the same signatures as well.
-/

namespace SliceGuard.Typing

open Syntax (Kind Matching Node Role Site)
open Syntax.Node (ReadAlike Rewritten editedKinds mayDiffer_of_kind mayDiffer_of_role)
open Declarations

/-- Texts that the signatures of sortable types do not tell apart. -/
def SameWord (old new : String) : Prop :=
  ∀ word ∈ ["int", "bool"], (new == word) = (old == word)

/-- Methods of the same type, with signatures that are not told apart. -/
structure SameMethod (old new : Symbol) : Prop where
  receiver : new.receiver = old.receiver
  parameters : List.Forall₂ (Option.Rel SameWord) (old.parameters.map Parameter.type)
    (new.parameters.map Parameter.type)
  results : List.Forall₂ SameWord old.results new.results

def OnlyLists (edit : Node → Node → Prop) : Prop :=
  ∀ old new, edit old new → old.kind = .statementList

def AsksWords (names : String → Prop) : Prop :=
  ∀ word ∈ ["int", "bool"], names word

/-- Symbols that say the same in two versions. -/
structure SymbolMatched (names : String → Prop) (edit : Node → Node → Prop)
    (related : Site → Site → Prop) (old new : Symbol) : Prop where
  name : new.name = old.name
  kind : new.kind = old.kind
  type : Option.Rel (Rewritten names edit) old.type new.type
  value : Option.Rel (Initializer.Alike related) old.value new.value
  method : OnlyLists edit → AsksWords names → old.kind = .method → SameMethod old new

/-- The edited specifications declare only names that are hidden, in both versions. -/
def Hides (hidden : String → Bool) (edit : Node → Node → Prop) : Prop :=
  ∀ old new, edit old new → old.kind = .varSpec ∨ old.kind = .constSpec →
    ∀ name ∈ declaredNames old ++ declaredNames new, hidden name = true

/-- The symbols that are no hidden variables or constants. -/
def isOpen (hidden : String → Bool) (symbol : Symbol) : Bool :=
  !([SymbolKind.variable, .constant].contains symbol.kind && hidden symbol.name)

variable {names : String → Prop} {edit : Node → Node → Prop} {related : Site → Site → Prop}

theorem OnlyLists.children {node other : Node} (lists : OnlyLists edit)
    (same : Rewritten names edit node other) (notList : node.kind ≠ .statementList) :
    List.Forall₂ (Rewritten names edit) node.children other.children := by
  cases same with
  | edited _ _ here => exact absurd (lists _ _ here) notList
  | spread _ children _ => exact children

theorem OnlyLists.read {node other : Node} (lists : OnlyLists edit)
    (same : Rewritten names edit node other) (notList : node.kind ≠ .statementList)
    (reads : node.readsChildren = true) :
    List.Forall₂ (ReadAlike names) node.children other.children := by
  cases same with
  | edited _ _ here => exact absurd (lists _ _ here) notList
  | spread _ _ read => exact read reads

theorem groupSize_of_children {declaration other : Node}
    (children : List.Forall₂ (Rewritten names edit) declaration.children other.children) :
    groupSize other = groupSize declaration := by
  have parts : List.Forall₂ (Rewritten names edit) (declaration.childrenIn .name)
      (other.childrenIn .name) :=
    forall₂_filter (fun _ _ part => part.head.plays .name) children
  rw [groupSize, groupSize, parts.length_eq]

theorem nameText_of_children {declaration other : Node}
    (children : List.Forall₂ (Rewritten names edit) declaration.children other.children) :
    nameText other = nameText declaration := by
  have title := rel_find?_and (fun _ _ part => part.head.plays .name) children
  unfold nameText Node.child?
  generalize declaration.children.find? (Node.plays .name) = first,
    other.children.find? (Node.plays .name) = second at title
  cases title with
  | none => rfl
  | some both =>
    obtain ⟨plays, part⟩ := both
    exact part.head.text_of_role (.inl (by simpa [Node.plays] using plays))

theorem forall₂_replicate {α β : Type} {same : α → β → Prop} {x : α} {y : β} (here : same x y)
    (count : Nat) : List.Forall₂ same (List.replicate count x) (List.replicate count y) := by
  induction count with
  | zero => exact .nil
  | succ count ih => exact .cons here ih

theorem resultTypeNodes_matched (lists : OnlyLists edit) {result other : Option Node}
    (same : Option.Rel (Rewritten names edit) result other) :
    List.Forall₂ (Option.Rel (Rewritten names edit)) (resultTypeNodes result)
      (resultTypeNodes other) := by
  cases same with
  | none => exact .nil
  | @some result other same =>
    simp only [resultTypeNodes, same.kind]
    split
    case isFalse => exact .cons (.some same) .nil
    case isTrue kind =>
      have kind : result.kind = .parameterList := by simpa using kind
      have named := same.named (mayDiffer_of_kind kind rfl)
      have declarations : List.Forall₂ (fun declaration declaration' =>
          declaration.kind = .parameterDeclaration ∧ Rewritten names edit declaration declaration')
          (result.named.filter (·.kind == .parameterDeclaration))
          (other.named.filter (·.kind == .parameterDeclaration)) := by
        refine forall₂_imp_of_mem (forall₂_filter ?_ named) ?_
        · intro declaration declaration' part
          rw [part.kind]
        · intro declaration mem declaration' part
          exact ⟨by simpa using (List.mem_filter.1 mem).2, part⟩
      apply List.rel_flatMap declarations
      rintro declaration declaration' ⟨isDeclaration, part⟩
      have children := lists.children part (by simp [isDeclaration])
      dsimp only
      rw [groupSize_of_children children]
      exact forall₂_replicate (child?_of_rewritten children .type) _

section Methods

variable {old new : Node}

theorem receiverType_matched (lists : OnlyLists edit)
    (children : List.Forall₂ (Rewritten names edit) old.children new.children) :
    Option.Rel (Rewritten names edit) (receiverType old) (receiverType new) := by
  have found := rel_find?_and (fun _ _ part => part.head.plays .receiver) children
  unfold receiverType Node.child?
  generalize old.children.find? (Node.plays .receiver) = list,
    new.children.find? (Node.plays .receiver) = list' at found
  cases found with
  | none => exact .none
  | @some list list' both =>
    obtain ⟨plays, part⟩ := both
    have role : list.role = some .receiver := by simpa [Node.plays] using plays
    have declarations := rel_find?_and
      (p := fun child : Node => child.kind == .parameterDeclaration)
      (q := fun child : Node => child.kind == .parameterDeclaration)
      (fun _ _ part => by rw [part.kind]) (part.named (mayDiffer_of_role role (by decide)))
    simp only [Option.bind_eq_bind, Option.bind_some]
    generalize list.named.find? (·.kind == .parameterDeclaration) = declaration,
      list'.named.find? (·.kind == .parameterDeclaration) = declaration' at declarations
    cases declarations with
    | none => exact .none
    | @some declaration declaration' both =>
      obtain ⟨isDeclaration, same⟩ := both
      have isDeclaration : declaration.kind = .parameterDeclaration := by simpa using isDeclaration
      exact child?_of_rewritten (lists.children same (by simp [isDeclaration])) .type

theorem receiverCore_matched (same : Rewritten names edit old new) :
    Option.Rel (Rewritten names edit) (old.descend receiverRule) (new.descend receiverRule) := by
  apply same.descend
  · intro kind picks rule
    unfold receiverRule at rule
    split at rule
    · rfl
    · rfl
    · rfl
    · cases rule
  · intro kind picks rule old new head
    unfold receiverRule at rule
    split at rule <;> cases rule
    · exact head.isNamed
    · exact head.isNamed
    · exact head.plays .type

/-- The name of a receiver type is the same in both versions, and it is asked for. -/
theorem receiverTypeName_matched (same : Rewritten names edit old new) :
    receiverTypeName new = receiverTypeName old ∧
      ∀ name, receiverTypeName old = some name → names name := by
  have cores := receiverCore_matched same
  unfold receiverTypeName
  generalize old.descend receiverRule = core, new.descend receiverRule = core' at cores
  cases cores with
  | none => exact ⟨rfl, by simp⟩
  | @some core core' part =>
    dsimp only
    rw [part.kind]
    split
    case isTrue kind =>
      have kind : core.kind = .typeIdentifier := by simpa using kind
      refine ⟨congrArg some (part.head.text_of_kind (.inr (.inl kind))), ?_⟩
      rintro name here
      obtain rfl := Option.some.inj here
      exact part.head.asked (by simp [Node.isName, kind])
    case isFalse => exact ⟨rfl, by simp⟩

theorem receiverName_matched (lists : OnlyLists edit)
    (children : List.Forall₂ (Rewritten names edit) old.children new.children) :
    receiverName new = receiverName old ∧ ∀ name, receiverName old = some name → names name := by
  have types := receiverType_matched lists children
  unfold receiverName
  generalize receiverType old = type, receiverType new = type' at types
  cases types with
  | none => exact ⟨rfl, by simp⟩
  | some part => exact receiverTypeName_matched part

theorem sameWord_of_readAlike (words : AsksWords names) (read : ReadAlike names old new) :
    SameWord old.text new.text :=
  fun word mem => read.beq_text (words word mem)

/-- Any number of arguments is none of the words. -/
theorem sameWord_variadic (text other : String) : SameWord ("..." ++ text) ("..." ++ other) := by
  have never (text word : String) (mem : word ∈ ["int", "bool"]) : "..." ++ text ≠ word := by
    intro equal
    have letters := congrArg String.toList equal
    rw [String.toList_append] at letters
    simp only [List.mem_cons, List.not_mem_nil, or_false] at mem
    rcases mem with rfl | rfl <;> simp at letters
  intro word mem
  rw [beq_false_of_ne (never other word mem), beq_false_of_ne (never text word mem)]

/-- A part of a signature that is found by its role. -/
theorem child?_of_read (lists : OnlyLists edit) (same : Rewritten names edit old new)
    (notList : old.kind ≠ .statementList) (reads : old.readsChildren = true) (role : Role) :
    Option.Rel (fun part part' => part.plays role = true ∧ Rewritten names edit part part' ∧
      ReadAlike names part part') (old.child? role) (new.child? role) := by
  have both := forall₂_and_of_mem (lists.children same notList) (lists.read same notList reads)
  exact rel_imp (fun _ _ part => ⟨part.1, part.2.2⟩)
    (rel_find?_and (fun _ _ part => part.2.1.head.plays role) both)

theorem typeText_matched (lists : OnlyLists edit) (words : AsksWords names)
    (same : Rewritten names edit old new) (kind : isParameter old.kind = true) :
    SameWord (typeText old) (typeText new) := by
  have notList : old.kind ≠ .statementList := by
    intro list
    simp [isParameter, list] at kind
  have reads : old.readsChildren = true := by
    have kinds : old.kind = .parameterDeclaration ∨ old.kind = .variadicParameterDeclaration := by
      simpa [isParameter] using kind
    rcases kinds with kind | kind <;> simp [Node.readsChildren, kind]
  have types := child?_of_read lists same notList reads .type
  unfold typeText
  dsimp only
  rw [same.kind]
  split
  · exact sameWord_variadic _ _
  · generalize old.child? .type = type, new.child? .type = type' at types
    cases types with
    | none => exact fun _ _ => rfl
    | some both => exact sameWord_of_readAlike words both.2.2

theorem parameterTypes_matched (lists : OnlyLists edit) (words : AsksWords names)
    (same : Rewritten names edit old new) (must : old.mayDiffer = false) :
    List.Forall₂ SameWord (parameterTypes (some old)) (parameterTypes (some new)) := by
  apply List.rel_flatMap (parameterDeclarations_matched same must)
  rintro declaration declaration' ⟨kind, part⟩
  have notList : declaration.kind ≠ .statementList := by
    intro list
    simp [isParameter, list] at kind
  dsimp only
  rw [groupSize_of_children (lists.children part notList)]
  exact forall₂_replicate (typeText_matched lists words part kind) _

theorem methodSymbol_matched (lists : OnlyLists edit) (words : AsksWords names)
    (same : Rewritten names edit old new) (kind : old.kind = .methodDeclaration) (file : String) :
    SameMethod (methodSymbol file old) (methodSymbol file new) := by
  have notList : old.kind ≠ .statementList := by simp [kind]
  have reads : old.readsChildren = true := by simp [Node.readsChildren, kind]
  have parameters := child?_of_read lists same notList reads .parameters
  have results := child?_of_read lists same notList reads .result
  refine ⟨?_, ?_, ?_⟩
  · simp only [methodSymbol, (receiverName_matched lists (lists.children same notList)).1]
  · simp only [methodSymbol, types_methodParameters]
    rw [List.forall₂_map_left_iff, List.forall₂_map_right_iff]
    refine List.Forall₂.imp (fun _ _ => Option.Rel.some) ?_
    generalize old.child? .parameters = list, new.child? .parameters = list' at parameters
    cases parameters with
    | none => exact .nil
    | some both =>
      have role := by simpa [Node.plays] using both.1
      exact parameterTypes_matched lists words both.2.1 (mayDiffer_of_role role (by decide))
  · simp only [methodSymbol]
    generalize old.child? .result = result, new.child? .result = result' at results
    cases results with
    | none => exact .nil
    | some both =>
      have role := by simpa [Node.plays] using both.1
      simp only [resultTypes, both.2.1.kind]
      split
      · exact parameterTypes_matched lists words both.2.1 (mayDiffer_of_role role (by decide))
      · exact .cons (sameWord_of_readAlike words both.2.2) .nil

end Methods

section Declarations

variable {old new : Site}

theorem specSymbols_of_children (matching : Matching names edit related)
    (children : List.Forall₂ related old.children new.children) (file : String)
    {symbolKind : SymbolKind} (notMethod : symbolKind ≠ .method) :
    List.Forall₂ (SymbolMatched names edit related) (specSymbols file symbolKind old)
      (specSymbols file symbolKind new) := by
  have parts := matching.rewritten_of_children children
  have types := child?_of_rewritten parts .type
  have values := matching.namedIn_of_children children (by decide : Role.value ≠ .initializer)
  have titles : List.Forall₂ (fun title title' : Node => title'.text = title.text)
      (old.node.childrenIn .name) (new.node.childrenIn .name) := by
    refine forall₂_imp_of_mem (forall₂_filter (fun _ _ part => part.head.plays .name) parts) ?_
    intro title mem title' part
    exact part.head.text_of_role (.inl (Node.mem_childrenIn_iff.1 mem).2)
  unfold specSymbols
  dsimp only
  rw [List.forall₂_map_left_iff, List.forall₂_map_right_iff]
  refine (forall₂_zipIdx titles 0).imp ?_
  rintro ⟨title, position⟩ ⟨title', position'⟩ ⟨text, same⟩
  obtain rfl : position' = position := same
  refine ⟨text, rfl, types, ?_, fun _ _ isMethod => absurd isMethod notMethod⟩
  rw [← titles.length_eq]
  exact initializer?_alike values position' _

theorem isOpen_matched {hidden : String → Bool} {symbol other : Symbol}
    (same : SymbolMatched names edit related symbol other) :
    isOpen hidden other = isOpen hidden symbol := by
  rw [isOpen, isOpen, same.kind, same.name]

theorem filter_isOpen {hidden : String → Bool} {symbols others : List Symbol}
    (all : List.Forall₂ (SymbolMatched names edit related) symbols others) :
    List.Forall₂ (SymbolMatched names edit related) (symbols.filter (isOpen hidden))
      (others.filter (isOpen hidden)) :=
  forall₂_filter (fun _ _ => isOpen_matched) all

/-- No symbol of a specification is open, if all its names are hidden. -/
theorem specSymbols_hidden {hidden : String → Bool} {spec : Site} {symbolKind : SymbolKind}
    (isValue : symbolKind = .variable ∨ symbolKind = .constant)
    (all : ∀ name ∈ declaredNames spec.node, hidden name = true) (file : String) :
    (specSymbols file symbolKind spec).filter (isOpen hidden) = [] := by
  rw [List.filter_eq_nil_iff]
  intro symbol mem
  obtain ⟨⟨title, position⟩, listed, rfl⟩ := List.mem_map.1 mem
  have declared : title.text ∈ declaredNames spec.node :=
    List.mem_map_of_mem (List.fst_mem_of_mem_zipIdx listed)
  rcases isValue with rfl | rfl <;> simp [isOpen, all _ declared]

theorem specSymbols_matched {hidden : String → Bool} (hides : Hides hidden edit)
    (matching : Matching names edit related) (here : related old new)
    (kind : old.node.kind = .varSpec ∨ old.node.kind = .constSpec) (file : String)
    {symbolKind : SymbolKind} (isValue : symbolKind = .variable ∨ symbolKind = .constant) :
    List.Forall₂ (SymbolMatched names edit related)
      ((specSymbols file symbolKind old).filter (isOpen hidden))
      ((specSymbols file symbolKind new).filter (isOpen hidden)) := by
  rcases matching.step here with ⟨_, edited⟩ | children
  · have all := hides _ _ edited kind
    rw [specSymbols_hidden isValue fun name mem => all name (List.mem_append_left _ mem),
      specSymbols_hidden isValue fun name mem => all name (List.mem_append_right _ mem)]
    exact .nil
  · have notMethod : symbolKind ≠ .method := by rcases isValue with rfl | rfl <;> decide
    exact filter_isOpen (specSymbols_of_children matching children file notMethod)

theorem typeSymbols_matched (matching : Matching names edit related) (here : related old new)
    (kind : old.node.kind = .typeDeclaration) (file : String) :
    List.Forall₂ (SymbolMatched names edit related) (typeSymbols file old.node)
      (typeSymbols file new.node) := by
  unfold typeSymbols
  dsimp only
  rw [List.forall₂_map_left_iff, List.forall₂_map_right_iff]
  refine forall₂_imp_of_mem (forall₂_filter ?_
    ((matching.node here).named (mayDiffer_of_kind kind rfl))) ?_
  · intro spec spec' part
    rw [part.kind]
  · intro spec mem spec' part
    have isSpec : spec.kind = .typeSpec ∨ spec.kind = .typeAlias := by
      simpa using (List.mem_filter.1 mem).2
    have must : spec.mayDiffer = false := by
      rcases isSpec with isSpec | isSpec <;> exact mayDiffer_of_kind isSpec rfl
    have children := part.children must
    exact ⟨nameText_of_children children, rfl, child?_of_rewritten children .type, .none, by simp⟩

/-- Corresponding declarations introduce symbols that say the same. -/
theorem declarationSymbols_matched {hidden : String → Bool} (hides : Hides hidden edit)
    (matching : Matching names edit related) (here : related old new) (file : String) :
    List.Forall₂ (SymbolMatched names edit related)
      ((declarationSymbols file old).filter (isOpen hidden))
      ((declarationSymbols file new).filter (isOpen hidden)) := by
  have results (must : old.node.mayDiffer = false) :=
    (matching.node here).child? must .result
  have title (must : old.node.mayDiffer = false) :=
    nameText_of_children ((matching.node here).children must)
  have specs (symbolKind : SymbolKind) (isValue : symbolKind = .variable ∨ symbolKind = .constant)
      (must : old.node.mayDiffer = false) :
      List.Forall₂ (SymbolMatched names edit related)
        (((valueSpecs old).flatMap (specSymbols file symbolKind)).filter (isOpen hidden))
        (((valueSpecs new).flatMap (specSymbols file symbolKind)).filter (isOpen hidden)) := by
    have all := forall₂_imp_of_mem (valueSpecs_matched matching here must)
      fun spec mem other part => And.intro (kind_of_mem_valueSpecs mem) part
    rw [List.filter_flatMap, List.filter_flatMap]
    apply List.rel_flatMap all
    rintro spec other ⟨kind, part⟩
    exact specSymbols_matched hides matching part kind file isValue
  unfold declarationSymbols
  rw [matching.kind here]
  split
  case h_1 kind =>
    have must := mayDiffer_of_kind kind rfl
    exact filter_isOpen
      (.cons ⟨title must, rfl, results must, .none, by simp [functionSymbol]⟩ .nil)
  case h_2 kind =>
    have must := mayDiffer_of_kind kind rfl
    have method (lists : OnlyLists edit) (words : AsksWords names) :=
      methodSymbol_matched lists words (matching.node here) kind file
    exact filter_isOpen
      (.cons ⟨title must, rfl, results must, .none, fun lists words _ => method lists words⟩ .nil)
  case h_3 kind => exact filter_isOpen (typeSymbols_matched matching here kind file)
  case h_4 kind => exact specs .variable (.inl rfl) (mayDiffer_of_kind kind rfl)
  case h_5 kind => exact specs .constant (.inr rfl) (mayDiffer_of_kind kind rfl)
  case h_6 => exact .nil

theorem symbols_matched {hidden : String → Bool} (hides : Hides hidden edit)
    (matching : Matching names edit related) {root root' : Node}
    (children : List.Forall₂ related (Site.root root).children (Site.root root').children)
    (file : String) :
    List.Forall₂ (SymbolMatched names edit related) ((symbols file root).filter (isOpen hidden))
      ((symbols file root').filter (isOpen hidden)) := by
  unfold symbols
  rw [List.filter_flatMap, List.filter_flatMap]
  exact List.rel_flatMap (matching.named_of_children children)
    fun _ _ part => declarationSymbols_matched hides matching part file

end Declarations

section Indexes

variable {index index' : Index}

/-- Indexes whose open symbols correspond. -/
def SameSymbols (names : String → Prop) (edit : Node → Node → Prop)
    (related : Site → Site → Prop) (hidden : String → Bool) (old new : Index) : Prop :=
  List.Forall₂ (SymbolMatched names edit related) (old.symbols.filter (isOpen hidden))
    (new.symbols.filter (isOpen hidden))

variable {hidden : String → Bool}

theorem sameSymbols_ofFiles {files files' : List SourceFile}
    (all : List.Forall₂ (fun file file' => List.Forall₂ (SymbolMatched names edit related)
      ((symbols file.path file.root).filter (isOpen hidden))
      ((symbols file'.path file'.root).filter (isOpen hidden))) files files') :
    SameSymbols names edit related hidden (Index.ofFiles files) (Index.ofFiles files') := by
  unfold SameSymbols Index.ofFiles
  rw [List.filter_flatMap, List.filter_flatMap]
  exact List.rel_flatMap all fun _ _ same => same

/-- What is not hidden is found among the open symbols. -/
theorem find?_eq_filter {kinds : List SymbolKind} {name : String}
    (shown : hidden name = false ∨ SymbolKind.variable ∉ kinds ∧ SymbolKind.constant ∉ kinds) :
    index.find? kinds name = (index.symbols.filter (isOpen hidden)).find?
      fun symbol => kinds.contains symbol.kind && symbol.name == name := by
  rw [List.find?_filter, Index.find?]
  congr 1
  funext symbol
  rw [Bool.eq_iff_iff, decide_eq_true_iff]
  refine ⟨fun found => ⟨?_, found⟩, And.right⟩
  obtain ⟨listed, named⟩ := Bool.and_eq_true_iff.1 found
  rw [List.contains_iff_mem] at listed
  rcases shown with shown | ⟨noVariable, noConstant⟩
  · simp [isOpen, beq_iff_eq.1 named, shown]
  · have first : symbol.kind ≠ .variable := fun kind => noVariable (kind ▸ listed)
    have second : symbol.kind ≠ .constant := fun kind => noConstant (kind ▸ listed)
    simp [isOpen, first, second]

theorem find?_matched (all : SameSymbols names edit related hidden index index')
    {kinds : List SymbolKind} {name : String}
    (shown : hidden name = false ∨ SymbolKind.variable ∉ kinds ∧ SymbolKind.constant ∉ kinds) :
    Option.Rel (SymbolMatched names edit related) (index.find? kinds name)
      (index'.find? kinds name) := by
  rw [find?_eq_filter shown, find?_eq_filter shown]
  apply rel_find? _ all
  intro symbol other same
  rw [same.kind, same.name]

theorem sameTypes_of_symbols (all : SameSymbols names edit related hidden index index') :
    SameTypes names edit index index' where
  type? name _ := rel_imp (fun _ _ same => same.type) (find?_matched all (.inr (by decide)))

theorem function?_matched (all : SameSymbols names edit related hidden index index')
    (name : String) :
    Option.Rel (SymbolMatched names edit related) (index.function? name) (index'.function? name) :=
  find?_matched all (.inr (by decide))

theorem sameFunction_of_symbols (lists : OnlyLists edit)
    (all : SameSymbols names edit related hidden index index') (name : String) :
    SameFunction names edit index index' name :=
  rel_imp (fun _ _ same => resultTypeNodes_matched lists same.type) (function?_matched all name)

theorem value?_matched (all : SameSymbols names edit related hidden index index') {name : String}
    (shown : hidden name = false) :
    Option.Rel (SymbolMatched names edit related) (index.value? name) (index'.value? name) :=
  find?_matched all (.inl shown)

theorem beq_of_sameWords {texts others words : List String} (inside : words ⊆ ["int", "bool"])
    (same : List.Forall₂ SameWord texts others) : (others == words) = (texts == words) := by
  induction same generalizing words with
  | nil => rfl
  | cons here _ ih =>
    cases words with
    | nil => rfl
    | cons word words =>
      obtain ⟨mem, inside⟩ := List.cons_subset.1 inside
      rw [List.cons_beq_cons, List.cons_beq_cons, here word mem, ih inside]

theorem beq_of_sameTypes {types others : List (Option String)} {words : List String}
    (inside : words ⊆ ["int", "bool"]) (same : List.Forall₂ (Option.Rel SameWord) types others) :
    (others == words.map some) = (types == words.map some) := by
  induction same generalizing words with
  | nil => rfl
  | cons here _ ih =>
    cases words with
    | nil => rfl
    | cons word words =>
      obtain ⟨mem, inside⟩ := List.cons_subset.1 inside
      rw [List.map_cons, List.cons_beq_cons, List.cons_beq_cons, ih inside]
      cases here with
      | none => rfl
      | some part => exact congrArg (· && _) (part word mem)

/-- The same types have a method, of all signatures of sortable types. -/
theorem hasMethod_of_symbols
    (all : List.Forall₂ (fun symbol other => other.kind = symbol.kind ∧ other.name = symbol.name ∧
      (symbol.kind = .method → SameMethod symbol other)) index.symbols index'.symbols)
    {parameters results : List String} (inside : parameters ⊆ ["int", "bool"])
    (inside' : results ⊆ ["int", "bool"]) (type method : String) :
    index'.hasMethod type method parameters results =
      index.hasMethod type method parameters results := by
  rw [Index.hasMethod, Index.hasMethod, Index.methods, Index.methods, List.any_filter,
    List.any_filter]
  apply any_eq _ all
  rintro symbol other ⟨kind, name, same⟩
  rw [kind, name]
  by_cases isMethod : symbol.kind = .method
  · have signature := same isMethod
    rw [signature.receiver, beq_of_sameTypes inside signature.parameters,
      beq_of_sameWords inside' signature.results]
  · simp only [beq_false_of_ne isMethod, Bool.false_and]

theorem isSortable_of_symbols
    (all : List.Forall₂ (fun symbol other => other.kind = symbol.kind ∧ other.name = symbol.name ∧
      (symbol.kind = .method → SameMethod symbol other)) index.symbols index'.symbols)
    (type : String) : index'.isSortable type = index.isSortable type := by
  rw [Index.isSortable, Index.isSortable, hasMethod_of_symbols all (by simp) (by simp),
    hasMethod_of_symbols all (by simp) (by simp), hasMethod_of_symbols all (by simp) (by simp)]

/-- Only the methods tell which types are sortable. -/
theorem isSortable_filter {p : Symbol → Bool} (methods : ∀ symbol, symbol.kind = .method → p symbol)
    (index : Index) : Index.isSortable ⟨index.symbols.filter p⟩ = index.isSortable := by
  have same : Index.methods ⟨index.symbols.filter p⟩ = index.methods := by
    rw [Index.methods, Index.methods, List.filter_filter]
    apply List.filter_congr
    intro symbol _
    by_cases isMethod : symbol.kind = .method
    · simp [isMethod, methods symbol isMethod]
    · rw [beq_false_of_ne isMethod, Bool.false_and, Bool.false_and]
  funext type
  unfold Index.isSortable Index.hasMethod
  rw [same]

theorem isSortable_matched (lists : OnlyLists edit) (words : AsksWords names)
    (all : SameSymbols names edit related hidden index index') (type : String) :
    index'.isSortable type = index.isSortable type := by
  have shown := isSortable_filter (p := isOpen hidden) fun symbol isMethod => by
    simp [isOpen, isMethod]
  rw [← shown index, ← shown index']
  refine isSortable_of_symbols (List.Forall₂.imp ?_ all) type
  intro symbol other same
  exact ⟨same.kind, same.name, same.method lists words⟩

theorem symbolBinding_matched {symbol other : Symbol}
    (same : SymbolMatched names edit related symbol other) :
    Binding.Matched names edit related (symbolBinding symbol) (symbolBinding other) := by
  have type := same.type
  have value := same.value
  unfold symbolBinding
  rw [same.kind]
  split
  · exact .constant
  · generalize symbol.type = first, other.type = second at type
    cases type with
    | some part => exact .typed (.some part)
    | none =>
      generalize symbol.value = first, other.value = second at value
      cases value with
      | none => exact .untold
      | some part => exact .initialized part

/-- A name is bound alike, where the scopes around it or else the packages bind it alike. -/
theorem binding?_matched {old new : Site} (text : new.node.text = old.node.text)
    (bound : Option.Rel (Binding.Matched names edit related) (localBinding? old)
      (localBinding? new))
    (values : Option.Rel (SymbolMatched names edit related) (index.value? old.node.text)
      (index'.value? old.node.text)) :
    Option.Rel (Binding.Matched names edit related) (binding? index old) (binding? index' new) := by
  unfold binding?
  rw [text]
  generalize localBinding? old = first, localBinding? new = second at bound
  cases bound with
  | some same => exact .some same
  | none =>
    generalize index.value? old.node.text = first,
      index'.value? old.node.text = second at values
    cases values with
    | none => exact .none
    | some same => exact .some (symbolBinding_matched same)

end Indexes

end SliceGuard.Typing
