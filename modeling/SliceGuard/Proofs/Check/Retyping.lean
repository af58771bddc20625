import SliceGuard.Proofs.Check.Versions
import SliceGuard.Proofs.Typing.Methods
import SliceGuard.Proofs.Typing.Shadowing

/-!
# Declarations that are shadowed do not matter

Declarations of some names get other types and values, anywhere in a package.  A use of such a name
inside a scope that declares it, and in which nothing is edited, keeps its class, if the values on
the way to its type are bound in such scopes as well.  Where its guards stay the same, an access
through the use is reported exactly if it was before.

The variable of a clause of a select statement is declared by no scope, so that it does not shadow.
-/

namespace SliceGuard.Check

open Syntax (Kind Matching Node Role Site Twin)
open Syntax.Node (Rewritten Solid Untouched mayDiffer_of_kind)
open Declarations
open Typing

/-- The names that a part of a declaration declares. -/
def variableNames (node : Node) : List String :=
  match node.kind with
  | .shortVarDeclaration =>
    ((((node.child? .left).map Node.named).getD []).filter (·.kind == .identifier)).map Node.text
  | .rangeClause => ((node.child? .left).map fun left => left.named.map Node.text).getD []
  | .varSpec | .constSpec | .parameterDeclaration | .variadicParameterDeclaration =>
    declaredNames node
  | _ => []

section Parts

variable {name : String}

theorem mem_variableNames_of_short {site : Site} {binding : Binding}
    (kind : site.node.kind = .shortVarDeclaration)
    (found : shortBinding? site name = some binding) : name ∈ variableNames site.node := by
  obtain ⟨position, target, here, plain, titled, _⟩ := exists_of_shortBinding? found
  have nodes : (shortTargets site).map Site.node =
      ((site.node.child? .left).map Node.named).getD [] := by
    unfold shortTargets Site.child?
    cases site.node.child? .left with
    | none => rfl
    | some left => simp [Site.named, Function.comp_def]
  have mem : target.node ∈ ((site.node.child? .left).map Node.named).getD [] := by
    rw [← nodes]
    exact List.mem_map_of_mem (List.mem_of_getElem? here)
  simp only [variableNames, kind]
  exact List.mem_map.2 ⟨target.node, List.mem_filter.2 ⟨mem, by simp [plain]⟩, titled⟩

theorem mem_variableNames_of_range {clause : Site} {binding : Binding}
    (kind : clause.node.kind = .rangeClause) (found : rangeBinding? clause name = some binding) :
    name ∈ variableNames clause.node := by
  obtain ⟨left, here, found⟩ := Option.bind_eq_some_iff.1 found
  simp only [variableNames, kind, here, Option.map_some, Option.getD_some]
  split at found
  · obtain ⟨position, first, _⟩ := Option.bind_eq_some_iff.1 found
    exact List.mem_of_getElem? (getElem?_of_positionOf? first)
  · cases found

theorem declaredNames_eq_variableNames {node : Node} (kind : node.kind = .varSpec ∨
      node.kind = .constSpec ∨ isParameter node.kind = true) :
    declaredNames node = variableNames node := by
  have kinds : node.kind = .varSpec ∨ node.kind = .constSpec ∨
      node.kind = .parameterDeclaration ∨ node.kind = .variadicParameterDeclaration := by
    simpa [isParameter] using kind
  rcases kinds with kind | kind | kind | kind <;> simp only [variableNames, kind]

end Parts

/-- Declarations of hidden names are edited in a package.  All other names that are read stay the
same. -/
structure Retyping where
  old : List SourceFile
  new : List SourceFile
  names : String → Prop
  hidden : String → Bool
  edits : Node → Node → Prop
  kinds : ∀ node node', edits node node' → node'.kind = node.kind
  declares : ∀ node node', edits node node' →
    ∀ name ∈ variableNames node ++ variableNames node', hidden name = true
  same : List.Forall₂ (fun file file' => file'.path = file.path ∧ file.root.kind = .sourceFile ∧
    Rewritten names edits file.root file'.root) old new
  solid : ∀ file ∈ old ++ new, file.root.Solid
  shaped : ∀ file ∈ old, ∀ site ∈ file.root.sites, HeadShaped site.node

namespace Retyping

variable (edit : Retyping)

inductive Roots : Site → Site → Prop
  | intro {position : Nat} {file file' : SourceFile} (here : edit.old[position]? = some file)
      (here' : edit.new[position]? = some file') :
      Roots (Site.root file.root) (Site.root file'.root)

def Related : Site → Site → Prop :=
  Twin edit.names edit.edits edit.Roots

def oldIndex : Index :=
  Index.ofFiles edit.old

def newIndex : Index :=
  Index.ofFiles edit.new

theorem rewritten_of_roots (old new : Site) (root : edit.Roots old new) :
    Rewritten edit.names edit.edits old.node new.node := by
  cases root with
  | @intro position file file' here here' =>
    have both := rel_getElem? edit.same position
    rw [here, here'] at both
    cases both with
    | some same => exact same.2.2

theorem solid_of_roots (old new : Site) (root : edit.Roots old new) :
    old.node.Solid ∧ new.node.Solid := by
  cases root with
  | intro here here' =>
    exact ⟨edit.solid _ (List.mem_append_left _ (List.mem_of_getElem? here)),
      edit.solid _ (List.mem_append_right _ (List.mem_of_getElem? here'))⟩

theorem above_of_roots (old new : Site) (root : edit.Roots old new) :
    old.above = [] ∧ new.above = [] := by
  cases root
  exact ⟨rfl, rfl⟩

theorem matching : Matching edit.names edit.edits edit.Related :=
  Twin.matching edit.rewritten_of_roots

theorem shaped_of_related {old new : Site} (here : edit.Related old new) :
    (∃ file ∈ edit.old, old ∈ file.root.sites) ∧ ∀ node ∈ old.above, HeadShaped node := by
  induction here with
  | start root =>
    cases root with
    | @intro position file file' here here' =>
      exact ⟨⟨file, List.mem_of_getElem? here, file.root.mem_sites_root⟩, nofun⟩
  | @child old new child child' outer spread position here here' ih =>
    obtain ⟨⟨file, mem, inside⟩, around⟩ := ih
    refine ⟨⟨file, mem, Node.mem_sites_child inside (List.mem_of_getElem? here)⟩, ?_⟩
    intro node above
    rcases List.mem_cons.1 above with rfl | above
    · exact edit.shaped file mem old inside
    · exact around node above

theorem hides : Hides edit.hidden edit.edits := by
  intro old new edited kind name mem
  have kind' : new.kind = .varSpec ∨ new.kind = .constSpec := by
    rwa [edit.kinds _ _ edited]
  apply edit.declares _ _ edited
  rwa [← declaredNames_eq_variableNames (by tauto), ← declaredNames_eq_variableNames (by tauto)]

/-- No edited declaration says anything of a name that is not hidden. -/
theorem tells {name : String} (shown : edit.hidden name = false) :
    Tells edit.names edit.edits edit.Related name := by
  -- Whatever is found in an edited declaration is hidden, so neither version finds the name there.
  have absent {node node' : Node} (edited : edit.edits node node') {first second : Option Binding}
      (old : ∀ binding, first = some binding → name ∈ variableNames node)
      (new : ∀ binding, second = some binding → name ∈ variableNames node') :
      Option.Rel (Binding.Matched edit.names edit.edits edit.Related) first second := by
    have silent (mem : name ∈ variableNames node ++ variableNames node') : False := by
      simp [edit.declares _ _ edited name mem] at shown
    cases first with
    | some binding => exact (silent (List.mem_append_left _ (old binding rfl))).elim
    | none =>
      cases second with
      | some binding => exact (silent (List.mem_append_right _ (new binding rfl))).elim
      | none => exact .none
  have spec (isConstant : Bool) {site : Site} (kind : site.node.kind = .varSpec ∨
      site.node.kind = .constSpec) (binding : Binding)
      (found : specBinding? isConstant name site = some binding) :
      name ∈ variableNames site.node := by
    obtain ⟨position, here, _⟩ := exists_of_specBinding? found
    rw [← declaredNames_eq_variableNames (by tauto)]
    exact List.mem_of_getElem? here
  have parameter {node : Node} (kind : isParameter node.kind = true) (binding : Binding)
      (found : parameterBinding? name node = some binding) : name ∈ variableNames node := by
    rw [← declaredNames_eq_variableNames (by tauto)]
    exact (parameterBinding?_eq_some_iff.1 found).1
  refine ⟨?_, ?_, ?_, ?_⟩
  · intro old new edited kind
    have kind' := (edit.kinds _ _ edited).trans kind
    exact absent edited (fun _ => mem_variableNames_of_short kind)
      fun _ => mem_variableNames_of_short kind'
  · intro old new edited kind isConstant
    have kind' := kind
    rw [← edit.kinds _ _ edited] at kind'
    exact absent edited (spec isConstant kind) (spec isConstant kind')
  · intro old new edited kind
    have kind' := (edit.kinds _ _ edited).trans kind
    exact absent edited (fun _ => mem_variableNames_of_range kind)
      fun _ => mem_variableNames_of_range kind'
  · intro old new edited kind
    have kind' := kind
    rw [← edit.kinds _ _ edited] at kind'
    exact absent edited (parameter kind) (parameter kind')

theorem sameSymbols : SameSymbols edit.names edit.edits edit.Related edit.hidden edit.oldIndex
    edit.newIndex := by
  apply sameSymbols_ofFiles
  rw [List.forall₂_iff_get]
  refine ⟨edit.same.length_eq, fun position inside inside' => ?_⟩
  have both := List.forall₂_iff_get.1 edit.same |>.2 position inside inside'
  obtain ⟨path, isFile, _⟩ := both
  have start : edit.Related (Site.root (edit.old.get ⟨position, inside⟩).root)
      (Site.root (edit.new.get ⟨position, inside'⟩).root) :=
    .start (.intro (List.getElem?_eq_getElem inside) (List.getElem?_eq_getElem inside'))
  rw [path]
  exact symbols_matched edit.hides edit.matching
    (edit.matching.children start (Node.mayDiffer_of_kind isFile rfl)) _

/-- A name is bound alike, if it is not hidden or else shadowed. -/
theorem binding?_related {use use' : Site} (here : edit.Related use use')
    (kind : use.node.kind = .identifier)
    (shadowed : edit.hidden use.node.text = true →
      Shadowed edit.edits use.node.text use.node use.above) :
    Option.Rel (Binding.Matched edit.names edit.edits edit.Related) (binding? edit.oldIndex use)
      (binding? edit.newIndex use') := by
  -- The climb for a shadowed name ends in its scope, so the indexes, which may differ in it, are
  -- not asked.
  have asked : edit.names use.node.text :=
    (edit.matching.head here).asked (by simp [Node.isName, kind])
  have text := edit.matching.text here kind
  cases shown : edit.hidden use.node.text with
  | false =>
    refine binding?_matched text ?_ (value?_matched edit.sameSymbols shown)
    rw [localBinding?, localBinding?, text]
    refine climb_twin edit.matching (fun _ _ twin => twin) asked (edit.tells shown)
      edit.solid_of_roots ?_ here
    intro old new root
    rw [(edit.above_of_roots _ _ root).1, (edit.above_of_roots _ _ root).2]
    exact .none
  | true =>
    obtain ⟨bound, found⟩ := climb_shadowed edit.rewritten_of_roots
      (fun _ _ root => (edit.above_of_roots _ _ root).1) edit.solid_of_roots asked here
      (edit.shaped_of_related here).2 (shadowed shown)
    unfold binding? localBinding?
    rw [text]
    generalize climb use.node.text use.node use.above = first,
      climb use.node.text use'.node use'.above = second at bound found
    cases bound with
    | none => cases found
    | some same => exact .some same

theorem sameFunction {name : String}
    (results : ∀ symbol result, edit.oldIndex.function? name = some symbol →
      symbol.type = some result → Untouched edit.edits result) :
    SameFunction edit.names edit.edits edit.oldIndex edit.newIndex name := by
  have symbols := function?_matched edit.sameSymbols name
  unfold SameFunction
  generalize edit.oldIndex.function? name = first, edit.newIndex.function? name = second at *
  cases symbols with
  | none => exact .none
  | @some symbol other same =>
    refine .some ?_
    have types := same.type
    cases type : symbol.type with
    | none =>
      rw [type] at types
      rw [eq_none_of_rel_none types]
      exact .nil
    | some result =>
      rw [type] at types
      obtain ⟨result', type', part⟩ := exists_of_rel_some types
      have unedited := part.unedited (results symbol result rfl type)
      rw [type']
      have nodes := resultTypeNodes_matched (fun _ _ never => never.elim) (.some unedited)
      exact nodes.imp fun _ _ => rel_imp fun _ _ => Rewritten.mono fun _ _ never => never.elim

section Guards

/-- No edit touches what guards read: conditions may only differ in function literals, range clauses
stay, and so do the signatures of methods. -/
structure SparesGuards : Prop where
  words : AsksWords edit.names
  clauses : ∀ node node', edit.edits node node' → node.kind ≠ .rangeClause
  signatures : ∀ file ∈ edit.old, ∀ site ∈ file.root.sites,
    site.node.kind = .methodDeclaration → KeepsSignature edit.edits site.node

variable {edit}

theorem isSortable_of_spares (spares : edit.SparesGuards) (type : String) :
    edit.newIndex.isSortable type = edit.oldIndex.isSortable type := by
  refine isSortable_of_signatures spares.words edit.same
    (fun file mem method listed kind => ?_) type
  exact spares.signatures file mem _
    (Node.mem_sites_child file.root.mem_sites_root (Node.mem_named_iff.1 listed).1) kind

/-- Twins guard alike, if the edits spare the guards. -/
theorem isGuard_of_spares (spares : edit.SparesGuards) (name : String) {access access' : Node}
    (indexed : indexName? access' = indexName? access) {old new : Site}
    (here : edit.Related old new) :
    isGuard edit.newIndex name access' new.node = isGuard edit.oldIndex name access old.node := by
  have same := edit.matching.node here
  by_cases isMethod : old.node.kind = .methodDeclaration
  · -- The body of a method, which may be edited, does not take part.
    obtain ⟨⟨file, mem, inside⟩, _⟩ := edit.shaped_of_related here
    have kept := spares.signatures file mem old inside isMethod
    have bodiless (index : Index) (access : Node) {method : Node}
        (kind : method.kind = .methodDeclaration) :
        isGuard index name access (withoutBody method) = isGuard index name access method := by
      have kind' : (withoutBody method).kind = .methodDeclaration := kind
      simp only [isGuard, kind, kind', isSortMethod, nameText_withoutBody,
        receiverName_withoutBody, child?_withoutBody (by decide : Role.parameters ≠ .body)]
    rw [← bodiless _ _ isMethod, ← bodiless _ _ (same.kind.trans isMethod)]
    exact isGuard_matched (fun _ _ never => never.elim)
      (fun type _ => isSortable_of_spares spares type) (rewritten_withoutBody kept same isMethod)
      name indexed
  · unfold isGuard
    rw [same.kind]
    split
    case h_1 kind =>
      exact checksLength_matched name (same.child? (mayDiffer_of_kind kind rfl) .condition)
    case h_2 kind => exact isRangeOver_matched spares.clauses same kind name indexed
    case h_3 kind => exact absurd kind isMethod
    case h_4 => rfl

/-- An access keeps its guards, if the edits spare them. -/
theorem isGuarded_of_spares (spares : edit.SparesGuards) (name : String) {access access' : Site}
    (here : edit.Related access access') :
    isGuarded edit.newIndex name access' = isGuarded edit.oldIndex name access := by
  have indexed := indexName?_matched (edit.matching.node here)
  rw [isGuarded_eq_any, isGuarded_eq_any, ← Bool.or_false (access.above.any _)]
  refine any_isGuard_of_step (fun _ _ outer => isGuard_of_spares spares name indexed outer) false ?_
    here
  intro old new root
  rw [(edit.above_of_roots _ _ root).1, (edit.above_of_roots _ _ root).2]
  rfl

end Guards

end Retyping

/-- A use keeps its class when declarations that are shadowed where it stands are edited, and an
access through the use is reported exactly if it was before, where its guards stay.  The values on
the way to the type of the use may mention the name only where it is shadowed as well, and no
function of which the results are asked there is edited in its results.  Edits that spare the guards
leave them, as `Retyping.isGuarded_of_spares` shows. -/
theorem reported_of_shadowed (edit : Retyping) {use use' : Site} (here : edit.Related use use')
    (shadowed : ∀ value, Reaches edit.oldIndex use value → value.node.kind = .identifier →
      edit.hidden value.node.text = true →
        Shadowed edit.edits value.node.text value.node value.above)
    (results : ∀ value name symbol result, Reaches edit.oldIndex use value →
      askedFunction? edit.oldIndex value = some name → edit.oldIndex.function? name = some symbol →
        symbol.type = some result → Untouched edit.edits result) :
    classOf edit.newIndex use' = classOf edit.oldIndex use ∧
      ∀ access access', edit.Related access access' → operandName? access = some use →
        isGuarded edit.newIndex use.node.text access' =
          isGuarded edit.oldIndex use.node.text access →
        (verdict edit.newIndex access').isReported =
          (verdict edit.oldIndex access).isReported := by
  have classes {other : Site} (here : edit.Related use other) :
      classOf edit.newIndex other = classOf edit.oldIndex use := by
    refine Knowledge.Matched.typeClass? (typeWithin_matched edit.matching
      (sameTypes_of_symbols edit.sameSymbols) stepLimit here ?_ ?_)
    · intro value value' reached same kind
      exact edit.binding?_related same kind (shadowed value reached kind)
    · intro value name reached asked _
      exact edit.sameFunction fun symbol result => results value name symbol result reached asked
  refine ⟨classes here, ?_⟩
  intro access access' accesses operand guards
  have reported := isReported_matched edit.matching accesses
    (fun first second named same => by
      obtain rfl := Option.some.inj (operand.symm.trans named)
      exact classes same)
    (fun _ => false)
    (fun first named => by
      obtain rfl := Option.some.inj (operand.symm.trans named)
      rw [guards, Bool.or_false])
  rw [reported]
  simp

/-- A function that indexes the variable of a clause of a select statement, in a package with a
variable of the same name. -/
def selecting (type : String) : String :=
  "package p\nvar v " ++ type ++ "\nfunc f(c chan map[int]int) int \x7b\n" ++
    "select \x7b\ncase v := <-c:\nreturn v[0]\n\x7d\nreturn 0\n\x7d\n"

/-- The variable of the package decides whether the access is reported, although it is shadowed. -/
theorem select_variable_not_shadowing :
    (SourceFile.parse? "p.go" (selecting "[]int").toUTF8).map (fun file =>
        diagnostics ⟨"p", ".", [file]⟩) = some [⟨"p.go", 6, 8⟩] ∧
      (SourceFile.parse? "p.go" (selecting "map[int]int").toUTF8).map (fun file =>
        diagnostics ⟨"p", ".", [file]⟩) = some [] := by
  constructor <;> decide +kernel

def placed (kind : Kind) (role : Option Role) (start : Nat) (text : String)
    (children : List Node) : Node :=
  .mk kind role ⟨start, start + text.length, 0, start⟩ text children

/-- The declaration `var x []int` or the like, whose type is written with five letters. -/
def packageVariable (type : Node) : Node :=
  placed .varSpec none 4 ("x " ++ type.text) [placed .identifier (some .name) 4 "x" [], type]

def sliceOfInts (start : Nat) : Node :=
  placed .sliceType (some .type) start "[]int"
    [placed .typeIdentifier (some .element) (start + 2) "int" []]

def errorType (start : Nat) : Node :=
  placed .typeIdentifier (some .type) start "error" []

/-- The access `x[0]` in `func f(y []int) { x := y; x[0] }`. -/
def shadowedAccess : Node :=
  placed .indexExpression none 38 "x[0]"
    [placed .identifier (some .operand) 38 "x" [], placed .intLiteral (some .index) 40 "0" []]

/-- The function `func f(y []int) { x := y; x[0] }`. -/
def shadowingDeclaration : Node :=
  placed .functionDeclaration none 12 "func f(y []int) \x7b x := y; x[0] \x7d"
    [placed .identifier (some .name) 17 "f" [],
     placed .parameterList (some .parameters) 18 "(y []int)"
      [placed .parameterDeclaration none 19 "y []int"
        [placed .identifier (some .name) 19 "y" [], sliceOfInts 21]],
     placed .block (some .body) 28 "\x7b x := y; x[0] \x7d"
      [placed .statementList none 30 "x := y; x[0]"
        [placed .shortVarDeclaration none 30 "x := y"
          [placed .expressionList (some .left) 30 "x" [placed .identifier none 30 "x" []],
           placed .expressionList (some .right) 35 "y" [placed .identifier none 35 "y" []]],
         placed .expressionStatement none 38 "x[0]" [shadowedAccess]]]]

def shadowingFile (type : Node) : SourceFile :=
  ⟨"p.go", 44, placed .sourceFile none 0
    ("var x " ++ type.text ++ "\n" ++ shadowingDeclaration.text)
    [placed .varDeclaration none 0 ("var x " ++ type.text) [packageVariable type],
     shadowingDeclaration]⟩

theorem rewritten_self {edits : Node → Node → Prop} (node : Node) :
    Rewritten (fun _ => True) edits node node :=
  .of_bare (Node.asks_of_sites fun _ _ _ => trivial) rfl

/-- The variable of the package becomes an error. -/
def hiddenRetyping : Retyping where
  old := [shadowingFile (sliceOfInts 6)]
  new := [shadowingFile (errorType 6)]
  names _ := True
  hidden name := name == "x"
  edits old new := old = packageVariable (sliceOfInts 6) ∧ new = packageVariable (errorType 6)
  kinds := by
    rintro _ _ ⟨rfl, rfl⟩
    rfl
  declares := by
    rintro _ _ ⟨rfl, rfl⟩
    decide
  same := by
    refine .cons ⟨rfl, rfl, ?_⟩ .nil
    have spec : Rewritten (fun _ => True) (fun old new => old = packageVariable (sliceOfInts 6) ∧
        new = packageVariable (errorType 6)) (packageVariable (sliceOfInts 6))
        (packageVariable (errorType 6)) :=
      .edited ⟨rfl, rfl, nofun, nofun⟩ rfl ⟨rfl, rfl⟩
    exact .spread ⟨rfl, rfl, nofun, nofun⟩
      (.cons (.spread ⟨rfl, rfl, nofun, nofun⟩ (.cons spec .nil) nofun)
        (.cons (rewritten_self _) .nil)) nofun
  solid file mem := by
    simp only [List.cons_append, List.nil_append, List.mem_cons, List.not_mem_nil, or_false] at mem
    rcases mem with rfl | rfl <;> exact Node.solid_of_sites (by decide +kernel)
  shaped file mem site inside := by
    have plain : ∀ file ∈ [shadowingFile (sliceOfInts 6)], ∀ site ∈ file.root.sites,
        scopeForm site.node.kind ≠ .loop ∧ scopeForm site.node.kind ≠ .typeSwitch := by
      decide +kernel
    have forms := plain file mem site inside
    exact ⟨fun loop => absurd loop forms.1, fun typeSwitch => absurd typeSwitch forms.2⟩

/-- A site of the function, by its position in the traversal. -/
def siteOfFunction (type : Node) (position : Nat) : Site :=
  (shadowingDeclaration.preorder [(shadowingFile type).root]).getD position
    (Site.root shadowingDeclaration)

theorem related_sites {position : Nat} (inside : position < 18) :
    hiddenRetyping.Related (siteOfFunction (sliceOfInts 6) position)
      (siteOfFunction (errorType 6) position) := by
  have root : hiddenRetyping.Related (Site.root (shadowingFile (sliceOfInts 6)).root)
      (Site.root (shadowingFile (errorType 6)).root) :=
    .start (@Retyping.Roots.intro hiddenRetyping 0 _ _ rfl rfl)
  have function : hiddenRetyping.Related
      ⟨shadowingDeclaration, [(shadowingFile (sliceOfInts 6)).root]⟩
      ⟨shadowingDeclaration, [(shadowingFile (errorType 6)).root]⟩ := by
    refine .child root ?_ 1 rfl rfl
    exact (hiddenRetyping.rewritten_of_roots _ _
      (@Retyping.Roots.intro hiddenRetyping 0 _ _ rfl rfl)).children rfl
  have twins := Twin.preorder function (Node.asks_of_sites fun _ _ _ => trivial) rfl
  have lengths (type : Node) :
      position < (shadowingDeclaration.preorder [(shadowingFile type).root]).length := inside
  have both := (List.forall₂_iff_get.1 twins).2 position (lengths _) (lengths _)
  rw [siteOfFunction, siteOfFunction, List.getD_eq_getElem?_getD, List.getD_eq_getElem?_getD,
    List.getElem?_eq_getElem (lengths _), List.getElem?_eq_getElem (lengths _)]
  exact both

/-- The use of `x` leads to the use of `y`, which tells its type. -/
theorem reaches_from_use {value : Site}
    (reached : Reaches hiddenRetyping.oldIndex (siteOfFunction (sliceOfInts 6) 16) value) :
    value = siteOfFunction (sliceOfInts 6) 16 ∨ value = siteOfFunction (sliceOfInts 6) 13 := by
  have first : expressionLead hiddenRetyping.oldIndex (siteOfFunction (sliceOfInts 6) 16) =
      .through (siteOfFunction (sliceOfInts 6) 13) .same := rfl
  have second : expressionLead hiddenRetyping.oldIndex (siteOfFunction (sliceOfInts 6) 13) =
      .settled (underlying hiddenRetyping.oldIndex (some (sliceOfInts 21))) := rfl
  rcases Relation.ReflTransGen.cases_head reached with rfl | ⟨next, ⟨passage, lead⟩, rest⟩
  · exact .inl rfl
  · rw [first] at lead
    obtain ⟨rfl, _⟩ := Lead.through.inj lead
    rcases Relation.ReflTransGen.cases_head rest with rfl | ⟨_, ⟨_, lead⟩, _⟩
    · exact .inr rfl
    · rw [second] at lead
      cases lead

theorem shadowed_use : Shadowed hiddenRetyping.edits "x"
    (siteOfFunction (sliceOfInts 6) 16).node (siteOfFunction (sliceOfInts 6) 16).above := by
  have untouched : Untouched hiddenRetyping.edits (siteOfFunction (sliceOfInts 6) 8).node := by
    have kinds : ∀ site ∈ (siteOfFunction (sliceOfInts 6) 8).node.sites,
        site.node.kind ≠ .varSpec := by decide +kernel
    refine Node.untouched_of_sites fun site inside new edited => kinds site inside ?_
    rw [edited.1]
    rfl
  have declares : (Declaration.statement (siteOfFunction (sliceOfInts 6) 9)).Declares "x" _ :=
    @Declaration.Declares.short _ _ 0 _ rfl rfl rfl rfl
  refine .outward (.outward (.here untouched ?_ declares))
  exact ⟨siteOfFunction (sliceOfInts 6) 9, List.mem_of_getElem? (i := 0) rfl, rfl, by decide, rfl⟩

/-- The edited variable is neither a range clause nor part of a method. -/
theorem spares_hiddenRetyping : hiddenRetyping.SparesGuards where
  words _ _ := trivial
  clauses := by
    rintro _ _ ⟨rfl, rfl⟩
    decide
  signatures file mem site inside kind := by
    have none : ∀ file ∈ [shadowingFile (sliceOfInts 6)], ∀ site ∈ file.root.sites,
        site.node.kind ≠ .methodDeclaration := by
      decide +kernel
    exact absurd kind (none file mem site inside)

/-- The access is reported whatever the variable of the package is. -/
theorem reported_of_shadowed_use :
    classOf hiddenRetyping.newIndex (siteOfFunction (errorType 6) 16) =
        classOf hiddenRetyping.oldIndex (siteOfFunction (sliceOfInts 6) 16) ∧
      (verdict hiddenRetyping.newIndex (siteOfFunction (errorType 6) 15)).isReported =
        (verdict hiddenRetyping.oldIndex (siteOfFunction (sliceOfInts 6) 15)).isReported ∧
      (verdict hiddenRetyping.oldIndex (siteOfFunction (sliceOfInts 6) 15)).isReported = true := by
  obtain ⟨classes, reported⟩ := reported_of_shadowed hiddenRetyping
    (related_sites (by decide : 16 < 18))
    (by
      intro value reached _ hidden
      rcases reaches_from_use reached with rfl | rfl
      · exact shadowed_use
      · exact absurd hidden (by decide))
    (by
      intro value name symbol result reached asked
      rcases reaches_from_use reached with rfl | rfl
      · cases asked
      · cases asked)
  have access := related_sites (by decide : 15 < 18)
  have spared name := Retyping.isGuarded_of_spares spares_hiddenRetyping name access
  exact ⟨classes, reported _ _ access rfl (spared _), by decide +kernel⟩

end SliceGuard.Check
