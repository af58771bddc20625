import SliceGuard.Proofs.Typing.Nearest
import SliceGuard.Proofs.Typing.Variables

/-!
# Uses of variables

A use refers to the last declaration of its name that can be seen where it stands, or else to the
declaration of a variable of the package.  Such a use has the type that the declaration gives to its
name: the type that is written there, that of a value, or a share of the only value.
-/

namespace SliceGuard.Typing

open Syntax (Kind Node Site)
open Declarations

/-- The use of a name in a tree that is in order, where no declaration of the name is ambiguous. -/
structure IsUse (root : Node) (use : Site) : Prop where
  laid : root.LaidOut
  inside : use ∈ root.sites
  plain : use.node.kind = .identifier
  shaped : ∀ node ∈ use.above, HeadShaped node
  outside : ¬ InSignature use.node use.above
  once : DeclaredOnce use use.node.text

/-- The declaration that a use refers to. -/
inductive RefersTo (index : Index) (use : Site) : Declaration → Prop
  /-- It stands before the use and can be seen there, and no other one of the name is nearer. -/
  | seen {root : Node} {declaration : Declaration} (isUse : IsUse root use)
      (isSeen : Visible use declaration)
      (before : declaration.node.start < declaration.node.stop ∧
        declaration.node.stop ≤ use.node.start)
      (last : ∀ other binding, Visible use other → other.Declares use.node.text binding →
        other = declaration ∨ other.node.start < declaration.node.start) :
      RefersTo index use declaration
  /-- None can be seen, and the package has a variable of the name. -/
  | package {root : Node} {file : String} {declaration : Site} {symbol : Symbol}
      (isUse : IsUse root use)
      (unseen : ∀ other binding, Visible use other → ¬ other.Declares use.node.text binding)
      (kind : declaration.node.kind = .varDeclaration)
      (introduced : symbol ∈ declarationSymbols file declaration)
      (found : index.value? use.node.text = some symbol)
      (once : (Declaration.statement declaration).names.count use.node.text ≤ 1) :
      RefersTo index use (.statement declaration)

/-- A declaration that writes the type of a name. -/
inductive GivesType : Declaration → String → Node → Prop
  | parameter {list declaration type : Node} {name : String}
      (mem : declaration ∈ parameterDeclarations list)
      (kind : declaration.kind = .parameterDeclaration) (titled : name ∈ declaredNames declaration)
      (typed : declaration.child? .type = some type) : GivesType (.parameters list) name type
  | spec {declaration spec : Site} {type : Node} {name : String}
      (kind : declaration.node.kind = .varDeclaration) (mem : spec ∈ valueSpecs declaration)
      (titled : name ∈ declaredNames spec.node) (typed : spec.node.child? .type = some type) :
      GivesType (.statement declaration) name type

/-- A declaration that gives a name a value of its own: there are as many values as names. -/
inductive GivesValue : Declaration → String → Site → Prop
  | short {statement target value : Site} {name : String} {position : Nat}
      (kind : statement.node.kind = .shortVarDeclaration)
      (each : (shortValues statement).length = (shortTargets statement).length)
      (here : (shortTargets statement)[position]? = some target)
      (plain : target.node.kind = .identifier) (titled : target.node.text = name)
      (given : (shortValues statement)[position]? = some value) :
      GivesValue (.statement statement) name value
  | spec {declaration spec value : Site} {name : String} {position : Nat}
      (kind : declaration.node.kind = .varDeclaration) (mem : spec ∈ valueSpecs declaration)
      (untyped : spec.node.child? .type = none)
      (each : (specValues spec).length = (declaredNames spec.node).length)
      (here : (declaredNames spec.node)[position]? = some name)
      (given : (specValues spec)[position]? = some value) :
      GivesValue (.statement declaration) name value

/-- A declaration that gives several names a single value, with the position of one of them. -/
inductive SharesValue : Declaration → String → Site → Nat → Prop
  | short {statement target value : Site} {name : String} {position : Nat}
      (kind : statement.node.kind = .shortVarDeclaration)
      (only : shortValues statement = [value]) (several : 1 < (shortTargets statement).length)
      (here : (shortTargets statement)[position]? = some target)
      (plain : target.node.kind = .identifier) (titled : target.node.text = name) :
      SharesValue (.statement statement) name value position
  | spec {declaration spec value : Site} {name : String} {position : Nat}
      (kind : declaration.node.kind = .varDeclaration) (mem : spec ∈ valueSpecs declaration)
      (untyped : spec.node.child? .type = none) (only : specValues spec = [value])
      (several : 1 < (declaredNames spec.node).length)
      (here : (declaredNames spec.node)[position]? = some name) :
      SharesValue (.statement declaration) name value position

section Declared

variable {declaration : Declaration} {name : String}

theorem GivesType.declares {type : Node} (gives : GivesType declaration name type) :
    declaration.Declares name (.typed type) := by
  cases gives with
  | parameter mem kind titled typed =>
    have tells := Declaration.Declares.parameter mem titled
    rwa [parameterBinding, kind, typed] at tells
  | spec kind mem titled typed =>
    obtain ⟨position, here⟩ := List.mem_iff_getElem?.1 titled
    have tells := Declaration.Declares.value kind mem here
    rwa [variableBinding, typed] at tells

theorem ofValues_of_each {values : List Site} {value : Site} {position count : Nat}
    (each : values.length = count) (given : values[position]? = some value) :
    Binding.ofValues values position count = .initialized (.own value) := by
  simp [Binding.ofValues, assigned?, each, given]

theorem ofValues_of_only {value : Site} {count : Nat} (several : 1 < count) (position : Nat) :
    Binding.ofValues [value] position count = .initialized (.shared value position) := by
  have uneven : ([value] : List Site).length ≠ count := by
    rw [List.length_singleton]
    omega
  simp only [Binding.ofValues, assigned?, if_neg uneven]

theorem GivesValue.declares {value : Site} (gives : GivesValue declaration name value) :
    declaration.Declares name (.initialized (.own value)) := by
  cases gives with
  | short kind each here plain titled given =>
    rw [← ofValues_of_each each given]
    exact .short kind here plain titled
  | spec kind mem untyped each here given =>
    have tells := Declaration.Declares.value kind mem here
    rwa [variableBinding, untyped, ofValues_of_each each given] at tells

theorem SharesValue.declares {value : Site} {position : Nat}
    (shares : SharesValue declaration name value position) :
    declaration.Declares name (.initialized (.shared value position)) := by
  cases shares with
  | short kind only several here plain titled =>
    rw [← ofValues_of_only several position, ← only]
    exact .short kind here plain titled
  | spec kind mem untyped only several here =>
    have tells := Declaration.Declares.value kind mem here
    rwa [variableBinding, untyped, only, ofValues_of_only several position] at tells

end Declared

section Referred

variable {index : Index} {use : Site} {declaration : Declaration}

/-- What the scopes around a use say of its name. -/
theorem IsUse.answers {root : Node} (isUse : IsUse root use) :
    Answers (Visible use) use.node.stop use.node.text (localBinding? use) :=
  answers_climb isUse.laid (Site.within_of_mem_sites isUse.inside) isUse.shaped isUse.outside
    isUse.once.signature

/-- The last declaration that can be seen is the one that answers. -/
theorem IsUse.localBinding? {root : Node} (isUse : IsUse root use)
    (isSeen : Visible use declaration)
    (before : declaration.node.start < declaration.node.stop ∧
      declaration.node.stop ≤ use.node.start)
    (last : ∀ other binding, Visible use other → other.Declares use.node.text binding →
      other = declaration ∨ other.node.start < declaration.node.start)
    {binding : Binding} (tells : declaration.Declares use.node.text binding) :
    localBinding? use = some binding := by
  have answers := isUse.answers
  have used := (Site.within_of_mem_sites isUse.inside).laidOut isUse.laid |>.1.start_le_stop
  cases found : Typing.localBinding? use with
  | none =>
    rw [found] at answers
    exact absurd tells (answers declaration binding isSeen)
  | some answer =>
    rw [found] at answers
    obtain ⟨nearest, stands, tellsToo⟩ := answers
    -- Of two declarations one would have to stand before the other, in both orders.
    have same : nearest = declaration := by
      rcases last nearest answer stands.isSeen tellsToo with same | earlier
      · exact same
      rcases stands.last declaration binding isSeen tells with same | past | after
      · exact same.symm
      · omega
      · omega
    subst same
    rw [tells.unique (isUse.once.declaration nearest isSeen) tellsToo]

/-- A use that sees no declaration of its name is not bound by the scopes around it. -/
theorem IsUse.localBinding?_eq_none {root : Node} (isUse : IsUse root use)
    (unseen : ∀ other binding, Visible use other → ¬ other.Declares use.node.text binding) :
    Typing.localBinding? use = none := by
  have answers := isUse.answers
  cases found : Typing.localBinding? use with
  | none => rfl
  | some answer =>
    rw [found] at answers
    obtain ⟨nearest, stands, tells⟩ := answers
    exact absurd tells (unseen nearest answer stands.isSeen)

/-- A use has the binding that is declared by what it refers to. -/
theorem RefersTo.binding? (refers : RefersTo index use declaration) {binding : Binding}
    (tells : declaration.Declares use.node.text binding) :
    Typing.binding? index use = some binding := by
  cases refers with
  | seen isUse isSeen before last =>
    rw [Typing.binding?, isUse.localBinding? isSeen before last tells]
  | package isUse unseen kind introduced found once =>
    obtain ⟨spec, listed, position, here, reads⟩ :=
      exists_of_mem_declarationSymbols kind introduced
    rw [name_of_value? found] at here
    have tellsToo := Declaration.Declares.value kind listed here
    rw [Typing.binding?, isUse.localBinding?_eq_none unseen, found, Option.map_some, reads,
      tells.unique once tellsToo]

theorem RefersTo.plain (refers : RefersTo index use declaration) :
    use.node.kind = .identifier := by
  cases refers with
  | seen isUse => exact isUse.plain
  | package isUse => exact isUse.plain

/-- A use has the type that is told by what it refers to. -/
theorem RefersTo.typeAt {limit depth : Nat} (within : depth ≤ limit)
    (refers : RefersTo index use declaration) {binding : Binding}
    (tells : declaration.Declares use.node.text binding) :
    typeAt index limit depth use =
      bindingType index (typeAt index limit (depth + 1)) binding := by
  rw [typeAt_eq within]
  simp [expressionType, refers.plain, refers.binding? tells]

/-- A value without parentheses around it is looked at as it is. -/
theorem innerSite_of_kind_ne {value : Site}
    (bare : value.node.kind ≠ .parenthesizedExpression) :
    innerSite value value.node.size = some value := by
  obtain ⟨fewer, size⟩ := Nat.exists_eq_succ_of_ne_zero (Nat.ne_of_gt value.node.size_pos)
  simp [size, innerSite, bare]

end Referred

/-- The type `int` in `func (x [][]int) { v := x[0]; v }`. -/
def cellType : Node :=
  .mk .typeIdentifier (some .element) ⟨12, 15, 0, 12⟩ "int" []

def rowType : Node :=
  .mk .sliceType (some .element) ⟨10, 15, 0, 10⟩ "[]int" [cellType]

def rowsType : Node :=
  .mk .sliceType (some .type) ⟨8, 15, 0, 8⟩ "[][]int" [rowType]

/-- The parameter list `(x [][]int)`. -/
def rowsList : Node :=
  .mk .parameterList (some .parameters) ⟨5, 16, 0, 5⟩ "(x [][]int)"
    [.mk .parameterDeclaration none ⟨6, 15, 0, 6⟩ "x [][]int"
      [.mk .identifier (some .name) ⟨6, 7, 0, 6⟩ "x" [], rowsType]]

def rowName : Node :=
  .mk .identifier none ⟨30, 31, 0, 30⟩ "v" []

section Rows

variable (value : Node)

def rowValues : Node :=
  .mk .expressionList (some .right) ⟨24, 28, 0, 24⟩ value.text [value]

/-- The statement `v := x[0]`, or with another value. -/
def rowStatement : Node :=
  .mk .shortVarDeclaration none ⟨19, 28, 0, 19⟩ ("v := " ++ value.text)
    [.mk .expressionList (some .left) ⟨19, 20, 0, 19⟩ "v"
      [.mk .identifier none ⟨19, 20, 0, 19⟩ "v" []], rowValues value]

def rowsBody : Node :=
  .mk .block (some .body) ⟨17, 33, 0, 17⟩ ("\x7b v := " ++ value.text ++ "; v \x7d")
    [rowStatement value, rowName]

def rowsFunction : Node :=
  .mk .funcLiteral none ⟨0, 33, 0, 0⟩ ("func (x [][]int) \x7b v := " ++ value.text ++ "; v \x7d")
    [rowsList, rowsBody value]

/-- The use of the variable. -/
def rowUse : Site :=
  ⟨rowName, [rowsBody value, rowsFunction value]⟩

/-- The declaration of the variable. -/
def rowDeclaration : Declaration :=
  .statement ⟨rowStatement value, (rowUse value).above⟩

end Rows

def rowsName : Node :=
  .mk .identifier (some .operand) ⟨24, 25, 0, 24⟩ "x" []

/-- The access `x[0]`. -/
def firstRow : Node :=
  .mk .indexExpression none ⟨24, 28, 0, 24⟩ "x[0]"
    [rowsName, .mk .intLiteral (some .index) ⟨26, 27, 0, 26⟩ "0" []]

/-- The site of the access. -/
def firstRowSite : Site :=
  ⟨firstRow, [rowValues firstRow, rowStatement firstRow, rowsBody firstRow, rowsFunction firstRow]⟩

/-- The use of the parameter. -/
def rowsUse : Site :=
  firstRowSite.below rowsName

section Rows

variable {value : Node}

theorem laidOut_rowsFunction (laid : value.LaidOut) (start : value.start = 24)
    (stop : value.stop = 28) : (rowsFunction value).LaidOut := by
  simp only [Node.start, Node.stop] at start stop
  simp [Node.laidOut_mk_iff, rowsFunction, rowsBody, rowStatement, rowValues, rowsList, rowsType,
    rowType, cellType, rowName, Node.start, Node.stop, start, stop, laid]

theorem signatureLists_rowsFunction : signatureLists (rowsFunction value) = [rowsList] := rfl

theorem named_rowsBody :
    Site.named ⟨rowsBody value, [rowsFunction value]⟩ =
      [⟨rowStatement value, (rowUse value).above⟩, rowUse value] := rfl

theorem names_rowDeclaration : (rowDeclaration value).names = ["v"] := rfl

/-- The statement and the parameter can be seen after the statement. -/
theorem visible_rowUse {declaration : Declaration} (seen : Visible (rowUse value) declaration) :
    declaration = rowDeclaration value ∨ declaration = .parameters rowsList := by
  rcases seen with ⟨statement, mem, _, before, rfl⟩ | (⟨list, mem, rfl⟩ | farther)
  · left
    rw [named_rowsBody] at mem
    simp only [List.mem_cons, List.not_mem_nil, or_false] at mem
    rcases mem with rfl | rfl
    · rfl
    · exact absurd before (Nat.lt_irrefl _)
  · right
    rw [signatureLists_rowsFunction, List.mem_singleton] at mem
    rw [mem]
  · cases farther

theorem within_rowsBody :
    Site.Within (rowsFunction value) ⟨rowsBody value, [rowsFunction value]⟩ :=
  .step .root (by simp [rowsFunction])

/-- The body of the function does not belong to its signature. -/
theorem not_inSignature_rowsBody : ¬ InSignature (rowsBody value) [rowsFunction value] := by
  rintro (⟨_, listed⟩ | farther)
  · rw [signatureLists_rowsFunction, List.mem_singleton] at listed
    exact absurd (congrArg Node.kind listed) (by simp [rowsBody, rowsList])
  · cases farther

theorem declaredOnce_rows {use : Site} {name : String}
    (seen : ∀ declaration, Visible use declaration →
      declaration = rowDeclaration value ∨ declaration = .parameters rowsList)
    (around : ∀ function ∈ use.above, scopeForm function.kind = .function →
      function = rowsFunction value)
    (isName : name = "v" ∨ name = "x") : DeclaredOnce use name where
  declaration declaration isSeen := by
    rcases seen declaration isSeen with rfl | rfl
    · rw [names_rowDeclaration]
      rcases isName with rfl | rfl <;> decide
    · rcases isName with rfl | rfl <;> decide
  signature function mem form := by
    rw [around function mem form, signatureLists_rowsFunction]
    rcases isName with rfl | rfl <;> decide

theorem isUse_rowUse (laid : value.LaidOut) (start : value.start = 24) (stop : value.stop = 28) :
    IsUse (rowsFunction value) (rowUse value) where
  laid := laidOut_rowsFunction laid start stop
  inside := (Site.Within.step within_rowsBody (by simp [rowsBody])).mem_sites
  plain := rfl
  shaped := by
    simp only [rowUse, List.mem_cons, List.not_mem_nil, or_false, forall_eq_or_imp, forall_eq]
    exact ⟨⟨nofun, nofun⟩, ⟨nofun, nofun⟩⟩
  outside := by
    rintro (⟨form, _⟩ | farther)
    · cases form
    · exact not_inSignature_rowsBody farther
  once := by
    refine declaredOnce_rows (fun _ => visible_rowUse) ?_ (.inl rfl)
    simp only [rowUse, List.mem_cons, List.not_mem_nil, or_false, forall_eq_or_imp, forall_eq]
    exact ⟨nofun, fun _ => trivial⟩

/-- The variable is that of the statement. -/
theorem refersTo_rowUse (index : Index) (laid : value.LaidOut) (start : value.start = 24)
    (stop : value.stop = 28) : RefersTo index (rowUse value) (rowDeclaration value) := by
  refine .seen (isUse_rowUse laid start stop) ?_ ?_ fun other binding seen tells => ?_
  · exact .here ⟨_, List.mem_of_getElem? (i := 0) rfl, rfl, (by decide : 19 < 30), rfl⟩
  · exact (by decide : 19 < 28 ∧ 28 ≤ 30)
  · exact (visible_rowUse seen).imp_right fun same => by rw [same]; exact (by decide : 5 < 19)

/-- The statement gives the variable its value. -/
theorem givesValue_rowDeclaration (named : value.isNamed = true) :
    GivesValue (rowDeclaration value) "v"
      ⟨value, rowValues value :: rowStatement value :: (rowUse value).above⟩ := by
  have only : shortValues ⟨rowStatement value, (rowUse value).above⟩ =
      [⟨value, rowValues value :: rowStatement value :: (rowUse value).above⟩] := by
    have listed : (rowValues value).named = [value] := List.filter_cons_of_pos named
    change (rowValues value).named.map _ = _
    rw [listed]
    rfl
  exact @GivesValue.short _ _ _ _ 0 rfl (by rw [only]; rfl) rfl rfl rfl (by rw [only]; rfl)

end Rows

theorem laidOut_firstRow : firstRow.LaidOut := by
  simp [Node.laidOut_mk_iff, firstRow, rowsName, Node.start, Node.stop]

/-- Inside the statement only the parameter can be seen. -/
theorem visible_rowsUse {declaration : Declaration} (seen : Visible rowsUse declaration) :
    declaration = .parameters rowsList := by
  rcases seen with farther | (farther | (farther | (⟨statement, mem, _, before, rfl⟩ |
    (⟨list, mem, rfl⟩ | farther))))
  · cases farther
  · cases farther
  · cases farther
  · rw [named_rowsBody] at mem
    simp only [List.mem_cons, List.not_mem_nil, or_false] at mem
    rcases mem with rfl | rfl
    · exact absurd before (Nat.lt_irrefl _)
    · exact absurd before (by decide)
  · rw [signatureLists_rowsFunction, List.mem_singleton] at mem
    rw [mem]
  · cases farther

theorem isUse_rowsUse : IsUse (rowsFunction firstRow) rowsUse where
  laid := laidOut_rowsFunction laidOut_firstRow rfl rfl
  inside := by
    have statement : Site.Within (rowsFunction firstRow)
        ⟨rowStatement firstRow, [rowsBody firstRow, rowsFunction firstRow]⟩ :=
      .step within_rowsBody (by simp [rowsBody])
    have value : Site.Within (rowsFunction firstRow) firstRowSite :=
      .step (.step statement (by simp [rowStatement])) (by simp [rowValues])
    exact (Site.Within.step value (by simp [firstRow])).mem_sites
  plain := rfl
  shaped := by
    simp only [rowsUse, firstRowSite, Site.below, List.mem_cons, List.not_mem_nil, or_false,
      forall_eq_or_imp, forall_eq]
    exact ⟨⟨nofun, nofun⟩, ⟨nofun, nofun⟩, ⟨nofun, nofun⟩, ⟨nofun, nofun⟩, ⟨nofun, nofun⟩⟩
  outside := by
    rintro (⟨form, _⟩ | (⟨form, _⟩ | (⟨form, _⟩ | (⟨form, _⟩ | farther))))
    · cases form
    · cases form
    · cases form
    · cases form
    · exact not_inSignature_rowsBody farther
  once := by
    refine @declaredOnce_rows firstRow _ _ (fun _ seen => .inr (visible_rowsUse seen)) ?_ (.inr rfl)
    simp only [rowsUse, firstRowSite, Site.below, List.mem_cons, List.not_mem_nil, or_false,
      forall_eq_or_imp, forall_eq]
    exact ⟨nofun, nofun, nofun, nofun, fun _ => trivial⟩

/-- The operand of the access is the parameter. -/
theorem refersTo_rowsUse (index : Index) : RefersTo index rowsUse (.parameters rowsList) := by
  have isSeen : SeenFrom (rowsBody firstRow) [rowsFunction firstRow] (.parameters rowsList) :=
    .here ⟨rowsList, by simp [signatureLists_rowsFunction], rfl⟩
  exact .seen isUse_rowsUse (.outward (.outward (.outward (.outward isSeen)))) (by decide)
    fun other binding seen tells => .inl (visible_rowsUse seen)

theorem givesType_rowsList : GivesType (.parameters rowsList) "x" rowsType :=
  .parameter (List.mem_of_getElem? (i := 0) rfl) rfl (by decide) rfl

end SliceGuard.Typing
