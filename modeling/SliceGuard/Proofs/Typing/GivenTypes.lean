import SliceGuard.Proofs.Declarations.Flattening
import SliceGuard.Proofs.Typing.Alike
import SliceGuard.Proofs.Typing.Elements

/-!
# Variables of a given type

A variable is given a type by its declaration, by a value that the type is written in, or by the
result of a function.  In all these ways its uses have the type that is underlying the written one,
and a copy of the type that stands elsewhere would do as well.  A parameter that takes any number of
arguments is a slice of them.
-/

namespace SliceGuard.Typing

open Syntax (Kind Node Role Site)
open Declarations

/-- A copy of a type.  The name of a type can be read as the name of a value. -/
structure IsCopy (type copy : Node) : Prop where
  kind : copy.kind = type.kind ∨ isTypeName copy = true ∧ isTypeName type = true
  text : copy.text = type.text
  children : copy.children.map Node.bare = type.children.map Node.bare

/-- The types of the results of a function. -/
inductive Results : Option Node → List Node → Prop
  | none : Results none []
  | alone {type : Node} (single : type.kind ≠ .parameterList) : Results (some type) [type]
  /-- A type in a list is taken once for every name that is declared with it. -/
  | list {list : Node} {entries types : List Node} (kind : list.kind = .parameterList)
      (plain : ∀ child ∈ list.children, child.kind ≠ .variadicParameterDeclaration)
      (taken : Entries list.children entries)
      (typed : entries.map (Node.child? .type) = types.map some) : Results (some list) types

/-- The functions that a call of their name is always taken for. -/
def builtinNames : List String :=
  ["make", "new", "append", "len", "cap", "copy"]

/-- A call with what is called. -/
structure Calls (call : Site) (function : Node) : Prop where
  kind : call.node.kind = .callExpression
  called : call.node.child? .function = some function

/-- A call of a function of the package, by its name. -/
structure CallsFunction (index : Index) (call : Site) (function : Node) (types : List Node) :
    Prop extends Calls call function where
  plain : function.kind = .identifier
  results : ∃ symbol, index.function? function.text = some symbol ∧ Results symbol.type types

/-- A value that a type can be read off. -/
inductive ValueOfType (index : Index) (value : Site) : Node → Prop
  /-- The literal `T{...}`. -/
  | literal {type : Node} (kind : value.node.kind = .compositeLiteral)
      (typed : value.node.child? .type = some type) : ValueOfType index value type
  /-- The assertion `y.(T)`. -/
  | asserted {type : Node} (kind : value.node.kind = .typeAssertionExpression)
      (typed : value.node.child? .type = some type) : ValueOfType index value type
  /-- The conversion `T(y)`, where `T` can only be a type. -/
  | converted {type : Node} (kind : value.node.kind = .typeConversionExpression)
      (typed : value.node.child? .type = some type) : ValueOfType index value type
  /-- The conversion `T(y)` in the form of a call. -/
  | called {type : Node} (calls : Calls value type) (kind : isConversionKind type.kind = true) :
      ValueOfType index value type
  /-- The conversion `T(y)`, where `T` is a name. -/
  | named {type : Node} (calls : Calls value type) (plain : type.kind = .identifier)
      (fresh : type.text ∉ builtinNames) (declared : (index.type? type.text).isSome = true) :
      ValueOfType index value type
  /-- The call `make(T, ...)`. -/
  | made {function type : Node} (calls : Calls value function)
      (plain : function.kind = .identifier) (titled : function.text = "make")
      (first : (callArguments value).head?.map Site.node = some type) : ValueOfType index value type
  /-- A call of a function with a single result. -/
  | result {function type : Node} (calls : CallsFunction index value function [type])
      (fresh : function.text ∉ builtinNames) (undeclared : index.type? function.text = none) :
      ValueOfType index value type

/-- A name among several that are given a single value.  Comments between the names do not count. -/
inductive IsTarget : Declaration → String → Site → Nat → Prop
  | short {statement target value : Site} {name : String} {position : Nat}
      (kind : statement.node.kind = .shortVarDeclaration) (only : shortValues statement = [value])
      (several : 1 < (shortTargets statement).length)
      (here : ((shortTargets statement).filter (·.node.kind != .comment))[position]? = some target)
      (plain : target.node.kind = .identifier) (titled : target.node.text = name) :
      IsTarget (.statement statement) name value position
  | spec {declaration value : Site} {name : String} {position : Nat}
      (kind : declaration.node.kind = .varDeclaration)
      (shares : SharesValue (.statement declaration) name value position) :
      IsTarget (.statement declaration) name value position

/-- A statement without comments among the names that it declares. -/
def Uncommented (declaration : Declaration) : Prop :=
  ∀ statement, declaration = .statement statement →
    ∀ target ∈ shortTargets statement, target.node.kind ≠ .comment

/-- The ways to give a name a type, with the number of values that are followed from the name to
the type. -/
inductive Introduces (index : Index) (declaration : Declaration) (name : String) (type : Node) :
    Nat → Prop
  /-- A variable `var v T`, a parameter, a receiver or a named result. -/
  | written (gives : GivesType declaration name type) : Introduces index declaration name type 0
  | valued {value : Site} (gives : GivesValue declaration name value)
      (typed : ValueOfType index value type) : Introduces index declaration name type 1
  /-- One of the targets of a call. -/
  | shared {value : Site} {function : Node} {types : List Node} {position : Nat}
      (takes : IsTarget declaration name value position) (uncommented : Uncommented declaration)
      (calls : CallsFunction index value function types)
      (here : types[position]? = some type) : Introduces index declaration name type 0

/-- A parameter that takes any number of arguments of a type. -/
def GivesVariadic (declaration : Declaration) (name : String) (type : Node) : Prop :=
  ∃ list parameter, declaration = .parameters list ∧ parameter ∈ parameterDeclarations list ∧
    parameter.kind = .variadicParameterDeclaration ∧ name ∈ declaredNames parameter ∧
    parameter.child? .type = some type

section Copies

variable {type copy : Node}

theorem underlying_of_bare (index : Index) {type copy : Option Node}
    (same : copy.map Node.bare = type.map Node.bare) :
    (underlying index copy).bare = (underlying index type).bare :=
  underlying_alike (@Index.Alike.refl Eq (fun _ => rfl) index) same

theorem IsCopy.isTypeName_eq (same : IsCopy type copy) : isTypeName copy = isTypeName type := by
  rcases same.kind with kinds | ⟨names, named⟩
  · rw [isTypeName, isTypeName, kinds]
  · rw [names, named]

/-- A copy of what is no name has the same kind. -/
theorem IsCopy.kind_eq (same : IsCopy type copy) (unnamed : isTypeName type = false) :
    copy.kind = type.kind := by
  rcases same.kind with kinds | ⟨_, named⟩
  · exact kinds
  · rw [unnamed] at named
    cases named

theorem IsCopy.child? (same : IsCopy type copy) (role : Role) :
    (copy.child? role).map Node.bare = (type.child? role).map Node.bare :=
  Node.find?_of_bares (Node.plays_relocate _ role) same.children

theorem writtenOut_of_isCopy (same : IsCopy type copy) (unnamed : isTypeName type = false) :
    (writtenOut copy).bare = (writtenOut type).bare := by
  unfold writtenOut
  rw [same.kind_eq unnamed]
  split <;> simp [TypeInfo.bare, TypeInfo.plain, same.child?]

theorem coreRule_of_isTypeName (named : isTypeName type = true) : coreRule type.kind = none := by
  rw [isTypeName, Bool.or_eq_true, beq_iff_eq, beq_iff_eq] at named
  rcases named with kind | kind <;> rw [kind] <;> rfl

/-- Parentheses and instantiations have the type that is picked in them. -/
theorem underlying_of_coreRule (index : Index) {picks : Node → Bool}
    (rule : coreRule type.kind = some picks) :
    underlying index type = underlying index (type.children.find? picks) := by
  unfold underlying
  rw [Option.bind_some, typeCore, Node.descend_of_rule_eq_some rule]
  rfl

/-- What is no parentheses and no instantiation speaks for itself. -/
theorem underlying_of_coreRule_eq_none (index : Index) (rule : coreRule type.kind = none) :
    underlying index type =
      if isTypeName type then namedType index type.text else writtenOut type := by
  unfold underlying
  rw [Option.bind_some, typeCore, Node.descend_of_rule_eq_none rule]

/-- Copies of a type stand for the same. -/
theorem underlying_of_isCopy (index : Index) (same : IsCopy type copy) :
    (underlying index copy).bare = (underlying index type).bare := by
  cases named : isTypeName type with
  | true =>
    have names := same.isTypeName_eq.trans named
    rw [underlying_of_coreRule_eq_none index (coreRule_of_isTypeName named),
      underlying_of_coreRule_eq_none index (coreRule_of_isTypeName names), if_pos names,
      if_pos named, same.text]
  | false =>
    have names := same.isTypeName_eq.trans named
    have kinds := same.kind_eq named
    cases rule : coreRule type.kind with
    | none =>
      rw [underlying_of_coreRule_eq_none index rule,
        underlying_of_coreRule_eq_none index (kinds ▸ rule)]
      simp only [names, named, Bool.false_eq_true, if_false]
      exact writtenOut_of_isCopy same named
    | some picks =>
      rw [underlying_of_coreRule index rule, underlying_of_coreRule index (kinds ▸ rule)]
      exact underlying_of_bare index (Node.find?_of_bares (blind_of_coreRule rule) same.children)

end Copies

theorem resultTypeNodes_of_results {result : Option Node} {types : List Node}
    (results : Results result types) : resultTypeNodes result = types.map some := by
  cases results with
  | none => rfl
  | alone single => simp [resultTypeNodes, single]
  | list kind plain taken typed => rw [resultTypeNodes_eq kind plain, entries_iff.1 taken, typed]

section Values

variable {index : Index} {value : Site} {type function : Node}

theorem callType_of_plain (calls : Calls value function) (plain : function.kind = .identifier)
    (follow : Follow) :
    callType index follow value =
      namedCallType index follow function.text (callArguments value) := by
  simp [callType, calls.called, plain]

/-- A call of a name that is not built in. -/
theorem namedCallType_of_fresh {name : String} (fresh : name ∉ builtinNames) (follow : Follow)
    (arguments : List Site) :
    namedCallType index follow name arguments =
      if (index.type? name).isSome then namedType index name else onlyResult index name := by
  unfold namedCallType
  split
  case h_7 => rfl
  all_goals exact absurd (by decide) fresh

/-- A call of a type is a conversion to it. -/
theorem callType_of_conversion (calls : Calls value type)
    (kind : isConversionKind type.kind = true) (follow : Follow) :
    callType index follow value = underlying index type := by
  have complex : type.kind ≠ .identifier := by
    intro plain
    rw [plain] at kind
    cases kind
  simp [callType, calls.called, complex, kind]

/-- A name is a type that speaks for itself. -/
theorem underlying_of_plain (plain : type.kind = .identifier) :
    underlying index type = namedType index type.text := by
  have named : isTypeName type = true := by simp [isTypeName, plain]
  rw [underlying_of_coreRule_eq_none index (coreRule_of_isTypeName named), if_pos named]

theorem onlyResult_of_results {symbol : Symbol} {name : String}
    (found : index.function? name = some symbol) (results : Results symbol.type [type]) :
    onlyResult index name = underlying index type := by
  simp [onlyResult, found, resultTypeNodes_of_results results]

theorem resultAt_of_results {types : List Node} {position : Nat}
    (calls : CallsFunction index value function types) (here : types[position]? = some type) :
    resultAt index value.node position = underlying index type := by
  obtain ⟨symbol, found, results⟩ := calls.results
  simp [resultAt, calls.called, calls.plain, found, resultTypeNodes_of_results results, here]

/-- A value has the type that can be read off it, whatever is known of other values. -/
theorem expressionType_of_valueOfType (typed : ValueOfType index value type) (follow : Follow) :
    expressionType index follow value = underlying index type := by
  unfold expressionType
  cases typed with
  | literal kind typed => simp only [kind, typed]
  | asserted kind typed => simp only [kind, typed]
  | converted kind typed => simp only [kind, typed]
  | called calls kind =>
    simp only [calls.kind]
    exact callType_of_conversion calls kind follow
  | named calls plain fresh declared =>
    simp only [calls.kind]
    rw [callType_of_plain calls plain, namedCallType_of_fresh fresh, if_pos declared,
      underlying_of_plain plain]
  | made calls plain titled first =>
    simp only [calls.kind]
    rw [callType_of_plain calls plain, titled, namedCallType, first]
  | result calls fresh undeclared =>
    obtain ⟨symbol, found, results⟩ := calls.results
    simp only [calls.kind]
    rw [callType_of_plain calls.toCalls calls.plain, namedCallType_of_fresh fresh, undeclared]
    exact onlyResult_of_results found results

end Values

section Introduced

variable {index : Index} {declaration : Declaration} {name : String} {type : Node}

/-- Without comments the position of a name is its place among the targets. -/
theorem IsTarget.sharesValue {value : Site} {position : Nat}
    (takes : IsTarget declaration name value position) (uncommented : Uncommented declaration) :
    SharesValue declaration name value position := by
  cases takes with
  | short kind only several here plain titled =>
    rw [List.filter_eq_self.2 fun target mem => bne_iff_ne.2 (uncommented _ rfl target mem)] at here
    exact .short kind only several here plain titled
  | spec kind shares => exact shares

theorem GivesVariadic.declares (gives : GivesVariadic declaration name type) :
    declaration.Declares name (.variadic type) := by
  obtain ⟨list, parameter, rfl, mem, kind, titled, typed⟩ := gives
  have tells := Declaration.Declares.parameter mem titled
  rwa [parameterBinding, kind, typed] at tells

variable {limit depth : Nat} {use : Site}

/-- All ways to give a name a type lead to what is underlying the type. -/
theorem typeAt_of_introduces {steps : Nat} (refers : RefersTo index use declaration)
    (introduces : Introduces index declaration use.node.text type steps)
    (within : depth + steps ≤ limit) :
    typeAt index limit depth use = underlying index type := by
  cases introduces with
  | written gives => exact refers.typeAt (by omega) gives.declares
  | valued gives typed =>
    rw [refers.typeAt (by omega) gives.declares, bindingType, typeAt_eq within,
      expressionType_of_valueOfType typed]
  | @shared value function types position takes uncommented calls here =>
    have shares := takes.sharesValue uncommented
    have inner : innerSite value value.node.size = some value :=
      innerSite_of_kind_ne (by simp [calls.kind])
    rw [refers.typeAt (by omega) shares.declares, bindingType, shareType, inner]
    simp only [calls.kind]
    exact resultAt_of_results calls here

/-- A parameter that takes any number of arguments is a slice. -/
theorem typeAt_of_givesVariadic (refers : RefersTo index use declaration)
    (gives : GivesVariadic declaration use.node.text type) (within : depth ≤ limit) :
    typeAt index limit depth use = .ok { typeClass := .slice, element := type } :=
  refers.typeAt within gives.declares

end Introduced

/-- All ways of giving a variable a type agree.  A use of the variable has the type that is
underlying the given one, in whatever way and in whatever copy the type is given, and a parameter
that takes any number of arguments is a slice with elements of that type. -/
theorem given_types_agree (index : Index) {type copy : Node} (same : IsCopy type copy)
    {use : Site} {declaration : Declaration} (refers : RefersTo index use declaration)
    (limit depth : Nat) :
    (∀ steps, Introduces index declaration use.node.text copy steps → depth + steps ≤ limit →
      typeAt index limit depth use = underlying index copy ∧
      (typeAt index limit depth use).bare = (underlying index type).bare) ∧
    (GivesVariadic declaration use.node.text copy →
      (depth ≤ limit → typeAt index limit depth use =
        .ok { typeClass := .slice, element := some copy }) ∧
      ∀ site, Indexes use site → depth + 1 ≤ limit →
        typeAt index limit depth site = underlying index copy ∧
        (typeAt index limit depth site).bare = (underlying index type).bare) := by
  refine ⟨fun steps introduces within => ?_, fun gives => ⟨fun within => ?_, ?_⟩⟩
  · have known := typeAt_of_introduces refers introduces within
    exact ⟨known, known ▸ underlying_of_isCopy index same⟩
  · exact typeAt_of_givesVariadic refers gives within
  · intro site indexes within
    have known := typeAt_of_indexed indexes (typeAt_of_givesVariadic refers gives within) rfl
    exact ⟨known, known ▸ underlying_of_isCopy index same⟩

/-- The type `[]int` of the result in `func f(x [][]int) []int`. -/
def resultType : Node :=
  .mk .sliceType (some .result) ⟨17, 22, 3, 17⟩ "[]int"
    [.mk .typeIdentifier (some .element) ⟨19, 22, 3, 19⟩ "int" []]

/-- The index of a package with the function. -/
def rowIndex : Index :=
  ⟨[{ name := "f", kind := .function, file := "p.go", line := 4, type := some resultType }]⟩

/-- The call `f(x)`. -/
def rowCall : Node :=
  .mk .callExpression none ⟨24, 28, 0, 24⟩ "f(x)"
    [.mk .identifier (some .function) ⟨24, 25, 0, 24⟩ "f" [],
      .mk .argumentList (some .arguments) ⟨25, 28, 0, 25⟩ "(x)"
        [.mk .identifier none ⟨26, 27, 0, 26⟩ "x" []]]

theorem laidOut_rowCall : rowCall.LaidOut := by
  simp [Node.laidOut_mk_iff, rowCall, Node.start, Node.stop]

theorem isCopy_resultType : IsCopy rowType resultType :=
  ⟨.inl rfl, rfl, rfl⟩

/-- In `func (x [][]int) { v := f(x); v }` the variable `v` is given the type of the result, and in
`func (x [][]int) { v := x[0]; v }` the parameter `x` the type that is written. -/
theorem given_types_of_rows :
    Introduces rowIndex (rowDeclaration rowCall) "v" resultType 1 ∧
      typeOf rowIndex (rowUse rowCall) = underlying rowIndex resultType ∧
      (typeOf rowIndex (rowUse rowCall)).bare = (underlying rowIndex rowType).bare ∧
      Introduces rowIndex (.parameters rowsList) "x" rowsType 0 ∧
      typeOf rowIndex rowsUse = underlying rowIndex rowsType := by
  have calls : CallsFunction rowIndex
      ⟨rowCall, rowValues rowCall :: rowStatement rowCall :: (rowUse rowCall).above⟩
      (.mk .identifier (some .function) ⟨24, 25, 0, 24⟩ "f" []) [resultType] :=
    ⟨⟨rfl, rfl⟩, rfl, _, rfl, .alone (by decide)⟩
  have valued : Introduces rowIndex (rowDeclaration rowCall) "v" resultType 1 :=
    .valued (givesValue_rowDeclaration rfl) (.result calls (by decide) rfl)
  have written : Introduces rowIndex (.parameters rowsList) "x" rowsType 0 :=
    .written givesType_rowsList
  have ofVariable := (given_types_agree rowIndex isCopy_resultType
    (refersTo_rowUse rowIndex laidOut_rowCall rfl rfl) 32 0).1 1 valued (by decide)
  have ofParameter := (given_types_agree rowIndex ⟨.inl rfl, rfl, rfl⟩ (refersTo_rowsUse rowIndex)
    32 0).1 0 written (by decide)
  simp only [typeOf_eq_typeAt]
  exact ⟨valued, ofVariable.1, ofVariable.2, written, ofParameter.1⟩

/-- A file with two targets of a call, and what stands between them. -/
def targetsText (between : String) : String :=
  "package p\n\nfunc f() (int, []int) \x7b\n\treturn 0, nil\n\x7d\n\n" ++
    "func g() int \x7b\n\ta," ++ between ++ "b := f()\n\treturn b[a]\n\x7d\n"

/-- The classes of what is accessed in a file. -/
def accessedClasses (file : SourceFile) : List (Option TypeClass) :=
  let accesses := file.root.sites.filter (·.node.kind == .indexExpression)
  (accesses.filterMap (Site.child? .operand)).map (classOf (Index.ofFiles [file]))

/-- A comment between the targets is taken for a target, so that the type of the second one is
known only without it. -/
theorem comment_among_targets :
    (SourceFile.parse? "p.go" (targetsText " /* c */ ").toUTF8).map accessedClasses =
        some [none] ∧
      (SourceFile.parse? "p.go" (targetsText " ").toUTF8).map accessedClasses =
        some [some .slice] := by
  decide +kernel

end SliceGuard.Typing
