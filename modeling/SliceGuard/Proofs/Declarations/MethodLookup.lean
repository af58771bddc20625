import Mathlib.Data.List.Forall2
import Mathlib.Data.List.Perm.Basic
import SliceGuard.Declarations.Index
import SliceGuard.Proofs.Declarations.Flattening
import SliceGuard.Proofs.Declarations.Relocation

/-!
# Looking up methods

A type has a method of some parameter and result types exactly if a method of the package has this
flattened signature and a receiver that designates the type.  So the lookup does not change when
methods are written in another way: with other groups or names of parameters and results, with a
pointer to the receiver or without, in another order, or in other files.
-/

namespace SliceGuard.Declarations

open Syntax (Kind Node)
open Syntax.Node (typeNamed)

/-- The methods that stand at the top of the files. -/
def methodDeclarations (files : List SourceFile) : List Node :=
  files.flatMap fun file => file.root.children.filter (·.kind == .methodDeclaration)

/-- A receiver type designates the named type behind pointers, parentheses and type arguments.  A
comment designates nothing. -/
inductive Designates : Node → String → Prop
  | name {type : Node} (isName : type.kind = .typeIdentifier) : Designates type type.text
  | inner {type inside : Node} {name : String}
      (wraps : type.kind = .pointerType ∨ type.kind = .parenthesizedType)
      (first : type.named.head? = some inside) (further : Designates inside name) :
      Designates type name
  | generic {type instantiated : Node} {name : String} (isGeneric : type.kind = .genericType)
      (here : type.child? .type = some instantiated) (further : Designates instantiated name) :
      Designates type name

/-- The flattened type texts of a list of parameters. -/
inductive HasTypes : Option Node → List String → Prop
  | none : HasTypes none []
  | list {list : Node} {entries : List Node} (taken : Entries list.children entries) :
      HasTypes (some list) (entries.map typeText)

/-- The flattened type texts of a result. -/
inductive HasResults : Option Node → List String → Prop
  | none : HasResults none []
  | single {type : Node} (alone : type.kind ≠ .parameterList) : HasResults (some type) [type.text]
  | list {list : Node} {entries : List Node} (isList : list.kind = .parameterList)
      (taken : Entries list.children entries) : HasResults (some list) (entries.map typeText)

/-- A method of a type with a name and a flattened signature. -/
structure HasSignature (method : Node) (type name : String) (parameters results : List String) :
    Prop where
  title : nameText method = name
  receiver : ∃ written, receiverType method = some written ∧ Designates written type
  parameters : HasTypes (method.child? .parameters) parameters
  results : HasResults (method.child? .result) results

section Reading

theorem receiverTypeName_of_no_rule {type : Node} (stops : receiverRule type.kind = none) :
    receiverTypeName type = if type.kind == .typeIdentifier then some type.text else none := by
  rw [receiverTypeName, Node.descend_of_rule_eq_none stops]

theorem receiverTypeName_of_name {type : Node} (isName : type.kind = .typeIdentifier) :
    receiverTypeName type = some type.text := by
  rw [receiverTypeName_of_no_rule (by rw [isName]; rfl)]
  simp [isName]

theorem receiverTypeName_of_rule {type : Node} {picks : Node → Bool}
    (goes : receiverRule type.kind = some picks) :
    receiverTypeName type = (type.children.find? picks).bind receiverTypeName := by
  rw [receiverTypeName, Node.descend_of_rule_eq_some goes]
  cases type.children.find? picks <;> rfl

theorem receiverTypeName_of_wraps {type : Node}
    (wraps : type.kind = .pointerType ∨ type.kind = .parenthesizedType) :
    receiverTypeName type = type.named.head?.bind receiverTypeName := by
  rw [Node.named, List.head?_filter]
  exact receiverTypeName_of_rule (by rcases wraps with wraps | wraps <;> rw [wraps] <;> rfl)

theorem receiverTypeName_of_generic {type : Node} (isGeneric : type.kind = .genericType) :
    receiverTypeName type = (type.child? .type).bind receiverTypeName :=
  receiverTypeName_of_rule (by rw [isGeneric]; rfl)

/-- The name that is found behind a receiver type is the one it designates. -/
theorem designates_iff {type : Node} {name : String} :
    Designates type name ↔ receiverTypeName type = some name := by
  constructor
  · intro designates
    induction designates with
    | name isName => exact receiverTypeName_of_name isName
    | inner wraps first _ ih => rw [receiverTypeName_of_wraps wraps, first, Option.bind_some, ih]
    | generic isGeneric here _ ih =>
      rw [receiverTypeName_of_generic isGeneric, here, Option.bind_some, ih]
  · intro found
    induction type using Node.childInduction with
    | step type ih =>
      by_cases wraps : type.kind = .pointerType ∨ type.kind = .parenthesizedType
      · rw [receiverTypeName_of_wraps wraps] at found
        obtain ⟨inside, first, further⟩ := Option.bind_eq_some_iff.1 found
        have mem := (Node.mem_named_iff.1 (List.mem_of_head? first)).1
        exact .inner wraps first (ih inside mem further)
      by_cases isGeneric : type.kind = .genericType
      · rw [receiverTypeName_of_generic isGeneric] at found
        obtain ⟨instantiated, here, further⟩ := Option.bind_eq_some_iff.1 found
        exact .generic isGeneric here (ih instantiated (Node.mem_children_of_child? here) further)
      have stops : receiverRule type.kind = none := by
        unfold receiverRule
        split <;> simp_all
      rw [receiverTypeName_of_no_rule stops] at found
      simp only [beq_iff_eq, Option.ite_none_right_eq_some, Option.some.injEq] at found
      obtain ⟨isName, rfl⟩ := found
      exact .name isName

theorem hasTypes_iff {list : Option Node} {types : List String} :
    HasTypes list types ↔ parameterTypes list = types := by
  constructor
  · rintro (_ | taken)
    · rfl
    · rw [parameterTypes_eq, entries_iff.1 taken]
  · rintro rfl
    cases list with
    | none => exact .none
    | some list =>
      rw [parameterTypes_eq]
      exact .list (entries_iff.2 rfl)

theorem hasResults_iff {result : Option Node} {types : List String} :
    HasResults result types ↔ resultTypes result = types := by
  constructor
  · rintro (_ | alone | ⟨isList, taken⟩)
    · rfl
    · simp [resultTypes, alone]
    · simp [resultTypes, isList, parameterTypes_eq, entries_iff.1 taken]
  · rintro rfl
    cases result with
    | none => exact .none
    | some node =>
      by_cases isList : node.kind = .parameterList
      · simp only [resultTypes, isList, beq_self_eq_true, if_true, parameterTypes_eq]
        exact .list isList (entries_iff.2 rfl)
      · simp only [resultTypes, beq_iff_eq, isList, if_false]
        exact .single isList

theorem hasSignature_iff {method : Node} {type name : String} {parameters results : List String} :
    HasSignature method type name parameters results ↔
      nameText method = name ∧ receiverName method = some type ∧
        parameterTypes (method.child? .parameters) = parameters ∧
        resultTypes (method.child? .result) = results := by
  rw [receiverName, Option.bind_eq_some_iff, ← hasTypes_iff, ← hasResults_iff]
  simp only [← designates_iff]
  exact ⟨fun ⟨title, receiver, takes, gives⟩ => ⟨title, receiver, takes, gives⟩,
    fun ⟨title, receiver, takes, gives⟩ => ⟨title, receiver, takes, gives⟩⟩

/-- The symbols of a file are those of its functions, those of its methods, and others. -/
theorem mem_symbols_cases {file : String} {root : Node} {symbol : Symbol}
    (mem : symbol ∈ symbols file root) :
    (∃ function ∈ root.children, function.kind = .functionDeclaration ∧
        functionSymbol file function = symbol) ∨
      (∃ method ∈ root.children, method.kind = .methodDeclaration ∧
        methodSymbol file method = symbol) ∨
      symbol.kind ≠ .function ∧ symbol.kind ≠ .method := by
  obtain ⟨site, listed, mem⟩ := List.mem_flatMap.1 mem
  obtain ⟨declaration, named, rfl⟩ := List.mem_map.1 listed
  have inside := (Node.mem_named_iff.1 named).1
  unfold declarationSymbols at mem
  split at mem
  · exact .inl ⟨declaration, inside, ‹_›, (List.mem_singleton.1 mem).symm⟩
  · exact .inr (.inl ⟨declaration, inside, ‹_›, (List.mem_singleton.1 mem).symm⟩)
  · obtain ⟨spec, _, rfl⟩ := List.mem_map.1 mem
    exact .inr (.inr ⟨nofun, nofun⟩)
  · obtain ⟨spec, _, mem⟩ := List.mem_flatMap.1 mem
    obtain ⟨title, _, rfl⟩ := List.mem_map.1 mem
    exact .inr (.inr ⟨nofun, nofun⟩)
  · obtain ⟨spec, _, mem⟩ := List.mem_flatMap.1 mem
    obtain ⟨title, _, rfl⟩ := List.mem_map.1 mem
    exact .inr (.inr ⟨nofun, nofun⟩)
  · cases mem

/-- The methods among the symbols of a file are those of its method declarations. -/
theorem mem_symbols_method_iff {file : String} {root : Node} {symbol : Symbol} :
    symbol ∈ symbols file root ∧ symbol.kind = .method ↔
      ∃ method ∈ root.children, method.kind = .methodDeclaration ∧
        methodSymbol file method = symbol := by
  constructor
  · rintro ⟨mem, isMethod⟩
    rcases mem_symbols_cases mem with ⟨function, _, _, rfl⟩ | declared | ⟨_, other⟩
    · cases isMethod
    · exact declared
    · exact absurd isMethod other
  · rintro ⟨method, mem, kind, rfl⟩
    refine ⟨List.mem_flatMap.2 ⟨(Syntax.Site.root root).below method, ?_, ?_⟩, rfl⟩
    · exact List.mem_map_of_mem (Node.mem_named_iff.2 ⟨mem, by simp [kind]⟩)
    · simp [declarationSymbols, kind]

/-- What the symbol of a method says of its signature. -/
theorem hasSignature_iff_symbol (file : String) {method : Node} {type name : String}
    {parameters results : List String} (some : type ≠ "") :
    HasSignature method type name parameters results ↔
      (methodSymbol file method).receiver = type ∧ (methodSymbol file method).name = name ∧
        (methodSymbol file method).parameters.map Parameter.type = parameters.map Option.some ∧
        (methodSymbol file method).results = results := by
  have receiver : receiverName method = Option.some type ↔
      (receiverName method).getD "" = type := by
    cases receiverName method with
    | none => simpa using some.symm
    | some name => simp
  have types : parameterTypes (method.child? .parameters) = parameters ↔
      (methodParameters (method.child? .parameters)).map Parameter.type =
        parameters.map Option.some := by
    rw [types_methodParameters]
    exact (List.map_inj_right fun _ _ => Option.some.inj).symm
  rw [hasSignature_iff, receiver, types]
  exact and_left_comm

/-- A method is found exactly if one with its signature is declared. -/
theorem hasMethod_iff {files : List SourceFile} {type name : String}
    {parameters results : List String} :
    (Index.ofFiles files).hasMethod type name parameters results = true ↔
      type ≠ "" ∧ ∃ method ∈ methodDeclarations files,
        HasSignature method type name parameters results := by
  simp only [Index.hasMethod, Index.methods, Index.ofFiles, List.any_eq_true, List.mem_filter,
    List.mem_flatMap, Bool.and_eq_true, beq_iff_eq, bne_iff_ne, methodDeclarations]
  constructor
  · rintro ⟨symbol, ⟨⟨file, listed, mem⟩, isMethod, some⟩, ⟨⟨receiver, title⟩, takes⟩, gives⟩
    obtain ⟨method, inside, kind, rfl⟩ := mem_symbols_method_iff.1 ⟨mem, isMethod⟩
    rw [receiver] at some
    exact ⟨some, method, ⟨file, listed, inside, kind⟩,
      (hasSignature_iff_symbol file.path some).2 ⟨receiver, title, takes, gives⟩⟩
  · rintro ⟨some, method, ⟨file, listed, inside, kind⟩, has⟩
    obtain ⟨receiver, title, takes, gives⟩ := (hasSignature_iff_symbol file.path some).1 has
    obtain ⟨mem, isMethod⟩ := mem_symbols_method_iff.2 ⟨method, inside, kind, rfl⟩
    exact ⟨_, ⟨⟨file, listed, mem⟩, isMethod, receiver ▸ some⟩, ⟨⟨receiver, title⟩, takes⟩, gives⟩

end Reading

section Spellings

/-- Receiver types that differ in their places and in pointers. -/
inductive Repointed : Node → Node → Prop
  | moved {old new : Node} (kind : new.kind = old.kind) (text : new.text = old.text)
      (children : new.children.map Node.bare = old.children.map Node.bare) : Repointed old new
  | pointed {type pointer : Node} (isPointer : pointer.kind = .pointerType)
      (first : pointer.named.head? = some type) : Repointed type pointer
  | symm {old new : Node} (same : Repointed old new) : Repointed new old
  | trans {old middle new : Node} (first : Repointed old middle) (second : Repointed middle new) :
      Repointed old new

/-- A declaration of so many names of a type. -/
structure Declares (declaration : Node) (type : String) (names : Nat) : Prop where
  declares : isParameter declaration.kind = true
  type : typeText declaration = type
  names : (declaration.childrenIn .name).length = names

/-- Lists of parameters that differ in groups and names, and in what stands between the
declarations. -/
inductive Regrouped : List Node → List Node → Prop
  | refl (nodes : List Node) : Regrouped nodes nodes
  | symm {old new : List Node} (same : Regrouped old new) : Regrouped new old
  | trans {old middle new : List Node} (first : Regrouped old middle)
      (second : Regrouped middle new) : Regrouped old new
  | append {old new old' new' : List Node} (first : Regrouped old new)
      (second : Regrouped old' new') : Regrouped (old ++ old') (new ++ new')
  | other {node : Node} (undeclaring : isParameter node.kind = false) : Regrouped [node] []
  | renamed {old new : Node} {type : String} {names : Nat} (before : Declares old type names)
      (after : Declares new type names) : Regrouped [old] [new]
  | divided {whole first second : Node} {type : String} {names more : Nat} (some : 0 < names)
      (others : 0 < more) (before : Declares whole type (names + more))
      (left : Declares first type names) (right : Declares second type more) :
      Regrouped [whole] [first, second]
  | unnamed {old new : Node} {type : String} (before : Declares old type 1)
      (after : Declares new type 0) : Regrouped [old] [new]

/-- Results that differ in groups, names and parentheses. -/
inductive RegroupedResult : Option Node → Option Node → Prop
  | none : RegroupedResult none none
  | single {old new : Node} (before : old.kind ≠ .parameterList)
      (after : new.kind ≠ .parameterList) (text : new.text = old.text) :
      RegroupedResult (some old) (some new)
  | lists {old new : Node} (before : old.kind = .parameterList) (after : new.kind = .parameterList)
      (children : Regrouped old.children new.children) : RegroupedResult (some old) (some new)
  | enclosed {type list declaration : Node} (before : type.kind ≠ .parameterList)
      (after : list.kind = .parameterList) (alone : Declares declaration type.text 0)
      (children : Regrouped [declaration] list.children) : RegroupedResult (some type) (some list)
  | symm {old new : Option Node} (same : RegroupedResult old new) : RegroupedResult new old

/-- Methods that are written in different ways. -/
structure Respelt (old new : Node) : Prop where
  title : nameText new = nameText old
  receiver : Option.Rel Repointed (receiverType old) (receiverType new)
  parameters : Option.Rel (fun old new => Regrouped old.children new.children)
    (old.child? .parameters) (new.child? .parameters)
  results : RegroupedResult (old.child? .result) (new.child? .result)

theorem Repointed.sameName {old new : Node} (same : Repointed old new) :
    receiverTypeName new = receiverTypeName old := by
  induction same with
  | @moved old new kind text children =>
    cases rule : receiverRule old.kind with
    | none =>
      rw [receiverTypeName_of_no_rule rule, receiverTypeName_of_no_rule (kind ▸ rule), kind, text]
    | some picks =>
      -- The children that are picked differ in their places only.
      have picked := Node.find?_of_bares (receiverRule_relocate _ _ picks rule) children
      rw [receiverTypeName_of_rule rule, receiverTypeName_of_rule (kind ▸ rule)]
      exact eq_of_bare (fun type => type.bind receiverTypeName) (receiverTypeName_relocate _) picked
  | pointed isPointer first =>
    rw [receiverTypeName_of_wraps (.inl isPointer), first, Option.bind_some]
  | symm _ ih => exact ih.symm
  | trans _ _ first second => exact second.trans first

/-- The types of a declaration alone. -/
theorem Declares.types {declaration : Node} {type : String} {names : Nat}
    (declares : Declares declaration type names) :
    (flattened [declaration]).map typeText =
      List.replicate (if names = 0 then 1 else names) type := by
  rw [flattened_cons_of_pos declares.declares, List.map_append, entriesOf, List.map_replicate,
    declares.type, groupSize, declares.names]
  exact List.append_nil _

theorem Regrouped.types {old new : List Node} (same : Regrouped old new) :
    (flattened new).map typeText = (flattened old).map typeText := by
  induction same with
  | refl nodes => rfl
  | symm _ ih => exact ih.symm
  | trans _ _ first second => exact second.trans first
  | append _ _ first second =>
    rw [flattened_append, flattened_append, List.map_append, List.map_append, first, second]
  | other undeclaring => rw [flattened_cons_of_neg undeclaring]
  | renamed before after => rw [before.types, after.types]
  | @divided whole first second type names more some others before left right =>
    have each : flattened [first, second] = flattened [first] ++ flattened [second] :=
      flattened_append [first] [second]
    rw [each, List.map_append, before.types, left.types, right.types, if_neg (by omega),
      if_neg (by omega), if_neg (by omega), List.replicate_append_replicate]
  | unnamed before after => rw [before.types, after.types]; rfl

theorem RegroupedResult.types {old new : Option Node} (same : RegroupedResult old new) :
    resultTypes new = resultTypes old := by
  induction same with
  | none => rfl
  | single before after text => simp [resultTypes, before, after, text]
  | lists before after children =>
    simp [resultTypes, before, after, parameterTypes_eq, children.types]
  | enclosed before after alone children =>
    simp [resultTypes, before, after, parameterTypes_eq, children.types, alone.types]
  | symm _ ih => exact ih.symm

/-- Methods have the same signature in whatever way they are written. -/
theorem Respelt.hasSignature {old new : Node} (same : Respelt old new) (type name : String)
    (parameters results : List String) :
    HasSignature new type name parameters results ↔
      HasSignature old type name parameters results := by
  have receiver : receiverName new = receiverName old := by
    have related := same.receiver
    unfold receiverName
    generalize receiverType old = type, receiverType new = type' at related
    cases related with
    | none => rfl
    | some related => exact related.sameName
  have types : parameterTypes (new.child? .parameters) =
      parameterTypes (old.child? .parameters) := by
    have related := same.parameters
    generalize old.child? .parameters = list, new.child? .parameters = list' at related
    cases related with
    | none => rfl
    | some related => rw [parameterTypes_eq, parameterTypes_eq, related.types]
  rw [hasSignature_iff, hasSignature_iff, same.title, receiver, types, same.results.types]

theorem exists_hasSignature_of_respelt {old new : List Node}
    (respelt : List.Forall₂ Respelt old new) {type name : String}
    {parameters results : List String} :
    (∃ method ∈ new, HasSignature method type name parameters results) ↔
      ∃ method ∈ old, HasSignature method type name parameters results := by
  induction respelt with
  | nil => rfl
  | cons here _ ih =>
    simp only [List.exists_mem_cons_iff, here.hasSignature type name parameters results, ih]

end Spellings

/-- Methods are looked up by their flattened signatures alone: a type has a method exactly if one
with this signature is declared, and neither another order of the methods and files nor another way
of writing them changes what is found, and which types can be sorted. -/
theorem hasMethod_by_signature :
    (∀ (files : List SourceFile) (type name : String) (parameters results : List String),
      (Index.ofFiles files).hasMethod type name parameters results = true ↔
        type ≠ "" ∧ ∃ method ∈ methodDeclarations files,
          HasSignature method type name parameters results) ∧
    ∀ (files files' : List SourceFile) (ordered : List Node),
      (methodDeclarations files).Perm ordered →
      List.Forall₂ Respelt ordered (methodDeclarations files') →
      (∀ type name parameters results,
        (Index.ofFiles files').hasMethod type name parameters results =
          (Index.ofFiles files).hasMethod type name parameters results) ∧
      ∀ type, (Index.ofFiles files').isSortable type = (Index.ofFiles files).isSortable type := by
  refine ⟨fun files type name parameters results => hasMethod_iff,
    fun files files' ordered perm respelt => ?_⟩
  have same (type name : String) (parameters results : List String) :
      (Index.ofFiles files').hasMethod type name parameters results =
        (Index.ofFiles files).hasMethod type name parameters results := by
    rw [Bool.eq_iff_iff, hasMethod_iff, hasMethod_iff]
    refine and_congr_right fun _ => ?_
    rw [exists_hasSignature_of_respelt respelt]
    exact exists_congr fun method => and_congr_left fun _ => perm.symm.mem_iff
  refine ⟨same, fun type => ?_⟩
  rw [Index.isSortable, Index.isSortable, same, same, same]

/-- The declaration of parameters of a type, such as `i, j int`. -/
def parameterGroup (names : List String) (type : String) : Node :=
  .mk .parameterDeclaration none default ""
    (names.map (fun name => .mk .identifier (some .name) default name []) ++
      [.mk .typeIdentifier (some .type) default type []])

def comma : Node :=
  .mk .token none default "," []

/-- A method with one receiver. -/
def methodOf (receiver : Node) (name : String) (parameters : List Node) (result : Node) : Node :=
  .mk .methodDeclaration none default "" [
    .mk .parameterList (some .receiver) default "" [
      .mk .parameterDeclaration none default "" [receiver.withRole .type]],
    .mk .fieldIdentifier (some .name) default name [],
    .mk .parameterList (some .parameters) default "" parameters,
    result.withRole .result]

def pointerTo (name : String) : Node :=
  .mk .pointerType none default ("*" ++ name) [.mk .token none default "*" [], typeNamed none name]

/-- The methods `func (s) Less(i, j int) bool` and `func (s) Len() int` in one file. -/
def valueMethods : List SourceFile :=
  [⟨"p.go", 0, .mk .sourceFile none default "" [
    methodOf (typeNamed none "s") "Less" [parameterGroup ["i", "j"] "int"] (typeNamed none "bool"),
    methodOf (typeNamed none "s") "Len" [] (typeNamed none "int")]⟩]

/-- The methods `func (*s) Len() (n int)` and `func (*s) Less(int, int) bool` in two files. -/
def pointerMethods : List SourceFile :=
  [⟨"a.go", 0, .mk .sourceFile none default "" [
    methodOf (pointerTo "s") "Len" []
      (.mk .parameterList none default "(n int)" [parameterGroup ["n"] "int"])]⟩,
   ⟨"b.go", 0, .mk .sourceFile none default "" [
    methodOf (pointerTo "s") "Less" [parameterGroup [] "int", comma, parameterGroup [] "int"]
      (typeNamed none "bool")]⟩]

/-- Both ways of writing the methods are found by the same signatures. -/
theorem hasMethod_pointerMethods :
    (methodDeclarations valueMethods).Perm (methodDeclarations valueMethods).reverse ∧
      List.Forall₂ Respelt (methodDeclarations valueMethods).reverse
        (methodDeclarations pointerMethods) ∧
      (Index.ofFiles valueMethods).hasMethod "s" "Less" ["int", "int"] ["bool"] = true ∧
      (Index.ofFiles pointerMethods).hasMethod "s" "Less" ["int", "int"] ["bool"] = true := by
  have moved : Repointed ((typeNamed none "s").withRole .type) (typeNamed none "s") :=
    .moved rfl rfl rfl
  have pointed : Repointed (typeNamed none "s") ((pointerTo "s").withRole .type) := .pointed rfl rfl
  have alone : Declares (parameterGroup [] "int") "int" 0 := ⟨rfl, rfl, rfl⟩
  have named (name : String) : Declares (parameterGroup [name] "int") "int" 1 := ⟨rfl, rfl, rfl⟩
  have both : Declares (parameterGroup ["i", "j"] "int") "int" (1 + 1) := ⟨rfl, rfl, rfl⟩
  have dropped (name : String) :
      Regrouped [parameterGroup [name] "int"] [parameterGroup [] "int"] :=
    .unnamed (named name) alone
  have divided : Regrouped [parameterGroup ["i", "j"] "int"]
      [parameterGroup ["i"] "int", parameterGroup ["j"] "int"] :=
    .divided Nat.one_pos Nat.one_pos both (named "i") (named "j")
  have spaced : Regrouped [parameterGroup [] "int"] [comma, parameterGroup [] "int"] :=
    .append (.symm (.other rfl)) (.refl [parameterGroup [] "int"])
  have length : Respelt (methodOf (typeNamed none "s") "Len" [] (typeNamed none "int"))
      (methodOf (pointerTo "s") "Len" []
        (.mk .parameterList none default "(n int)" [parameterGroup ["n"] "int"])) :=
    { title := rfl
      receiver := .some (moved.trans pointed)
      parameters := .some (.refl [])
      results := .enclosed (by decide) rfl alone (dropped "n").symm }
  have less : Respelt
      (methodOf (typeNamed none "s") "Less" [parameterGroup ["i", "j"] "int"]
        (typeNamed none "bool"))
      (methodOf (pointerTo "s") "Less" [parameterGroup [] "int", comma, parameterGroup [] "int"]
        (typeNamed none "bool")) :=
    { title := rfl
      receiver := .some (moved.trans pointed)
      parameters := .some (divided.trans (.append (dropped "i") ((dropped "j").trans spaced)))
      results := .single (by decide) (by decide) rfl }
  have perm := (List.reverse_perm (methodDeclarations valueMethods)).symm
  have respelt : List.Forall₂ Respelt (methodDeclarations valueMethods).reverse
      (methodDeclarations pointerMethods) := .cons length (.cons less .nil)
  have before : (Index.ofFiles valueMethods).hasMethod "s" "Less" ["int", "int"] ["bool"] =
      true := by decide
  refine ⟨perm, respelt, before, ?_⟩
  rw [(hasMethod_by_signature.2 _ _ _ perm respelt).1]
  exact before

end SliceGuard.Declarations
