import SliceGuard.Proofs.Check.Guarding
import SliceGuard.Proofs.Check.Modularity

/-!
# A guard silences exactly what it checks

The traversal of a file comes to what stands around and before the guarded statements, then to the
statements, and last to what stands after them, in both versions; the guard brings no accesses of
its own.  So an access in the statements is reported afterwards exactly if it was before and the
condition does not check the length of its container, and every other access exactly if it was
before.
-/

namespace SliceGuard.Check

open Syntax (Frame Matching Node Role Site Span Twin earlierIn laterIn)
open Declarations
open Typing

section Reports

variable {index : Index} {above : List Node}

theorem reported_eq_nil {sites : List Site}
    (accessless : ∀ site ∈ sites, site.node.kind.isAccess = false) : reported index sites = [] := by
  rw [reported, List.filter_eq_nil_iff]
  intro site mem
  simp [accessless site mem]

/-- Whether a node has accesses in it does not depend on where it stands. -/
theorem reported_of_accessless {node : Node}
    (accessless : ∀ site ∈ node.sites, site.node.kind.isAccess = false) :
    reported index (node.preorder above) = [] := by
  apply reported_eq_nil
  intro site mem
  have listed := List.mem_map_of_mem (f := Site.node) mem
  rw [node.map_node_preorder above []] at listed
  obtain ⟨other, inside, same⟩ := List.mem_map.1 listed
  rw [← same]
  exact accessless other inside

theorem reported_preorder {node : Node} (other : node.kind.isAccess = false) :
    reported index (node.preorder above) =
      reported index (Node.preorderAll (node :: above) node.children) := by
  rw [Node.preorder_eq, reported, List.filter_cons]
  simp [other, reported]

theorem reported_preorderAll (nodes : List Node) :
    reported index (Node.preorderAll above nodes) =
      nodes.flatMap fun node => reported index (node.preorder above) := by
  rw [Node.preorderAll_eq, reported, List.filter_flatMap]
  rfl

theorem reported_fillers {nodes : List Node} (fillers : ∀ node ∈ nodes, IsFiller node) :
    reported index (Node.preorderAll above nodes) = [] := by
  rw [reported_preorderAll, List.flatMap_eq_nil_iff]
  intro node mem
  obtain ⟨kind, _, leaf⟩ := fillers node mem
  rw [reported_preorder (by rcases kind with kind | kind <;> rw [kind] <;> rfl), leaf]
  rfl

theorem flatMap_fileDiagnostics (index : Index) (first rest : List SourceFile) (path : String)
    (size : Nat) (root : Node) :
    (first ++ ⟨path, size, root⟩ :: rest).flatMap (fileDiagnostics index) =
      first.flatMap (fileDiagnostics index) ++
        (reported index root.sites).map (diagnosticAt path) ++
        rest.flatMap (fileDiagnostics index) := by
  rw [List.flatMap_append, List.flatMap_cons, fileDiagnostics_eq_reported, List.append_assoc]

/-- What is reported of a file that is opened at the end of a list. -/
theorem OpenList.reported_sites (file : OpenList) (gap : List Node) :
    reported index (file.root gap).sites =
      reported index (file.earlier gap) ++
        reported index (Node.preorderAll (file.around gap) gap) ++
        reported index (file.later gap) := by
  have list : (file.list.fill gap).preorder (Syntax.aboveIn file.outer (file.list.fill gap)) =
      file.site gap :: Node.preorderAll (file.around gap)
        (file.list.before ++ gap ++ file.list.after) :=
    Node.preorder_eq _ _
  have ending : reported index (Node.preorderAll (file.around gap) file.list.after) = [] :=
    reported_fillers file.ends
  rw [OpenList.root, Syntax.sites_plug, list, Node.preorderAll_eq, List.flatMap_append,
    List.flatMap_append, ← Node.preorderAll_eq, ← Node.preorderAll_eq, ← Node.preorderAll_eq,
    OpenList.earlier, OpenList.later]
  simp only [reported_append, ending, List.nil_append, List.append_assoc, ← List.cons_append]

/-- What is reported of a guard is what is reported of the statements in it. -/
theorem Wrapper.reported_statement (wrapper : Wrapper) (statements : List Node) :
    reported index ((wrapper.statement statements).preorder above) =
      reported index (Node.preorderAll (wrapper.around statements ++ above) statements) := by
  have fillers (nodes around : List Node) (mem : ∀ node ∈ nodes, node ∈ wrapper.lead ++
      wrapper.middle ++ wrapper.tail ++ wrapper.opening ++ wrapper.closing ++ wrapper.ending) :
      nodes.flatMap (fun node => reported index (node.preorder around)) = [] := by
    rw [← reported_preorderAll]
    exact reported_fillers fun node inside => wrapper.fillers node (mem node inside)
  have condition (around : List Node) : reported index (wrapper.condition.preorder around) = [] :=
    reported_of_accessless wrapper.accessless
  have list (around : List Node) : reported index ((wrapper.list statements).preorder around) =
      reported index (Node.preorderAll (wrapper.list statements :: around) statements) := by
    rw [reported_preorder rfl, list, Node.children_mk, reported_preorderAll, List.flatMap_append,
      fillers wrapper.ending _ (by simp +contextual), List.append_nil, ← reported_preorderAll]
  have block (around : List Node) : reported index ((wrapper.block statements).preorder around) =
      reported index ((wrapper.list statements).preorder (wrapper.block statements :: around)) := by
    rw [reported_preorder rfl, block, Node.children_mk, reported_preorderAll, List.flatMap_append,
      List.flatMap_cons, fillers wrapper.opening _ (by simp +contextual),
      fillers wrapper.closing _ (by simp +contextual), List.nil_append, List.append_nil]
  rw [reported_preorder rfl, statement, Node.children_mk, reported_preorderAll,
    List.flatMap_append, List.flatMap_cons, List.flatMap_append, List.flatMap_cons,
    fillers wrapper.lead _ (by simp +contextual), fillers wrapper.middle _ (by simp +contextual),
    fillers wrapper.tail _ (by simp +contextual), condition, List.nil_append, List.nil_append,
    List.nil_append, List.append_nil, block, list]
  rfl

end Reports

namespace GuardEdit

variable (edit : GuardEdit)

def oldEarlier : List Site :=
  edit.old.earlier edit.statements

def newEarlier : List Site :=
  edit.new.earlier [edit.wrapper.statement edit.moved]

/-- The sites of the statements, before they get the guard and after. -/
def oldInside : List Site :=
  Node.preorderAll (edit.old.around edit.statements) edit.statements

def newInside : List Site :=
  Node.preorderAll (edit.wrapper.around edit.moved ++
    edit.new.around [edit.wrapper.statement edit.moved]) edit.moved

def oldLater : List Site :=
  edit.old.later edit.statements

def newLater : List Site :=
  edit.new.later [edit.wrapper.statement edit.moved]

theorem outside_of_roots {old new : Site} (twin : Twin edit.names edit.swaps edit.Roots old new) :
    edit.Outside old new :=
  twin.mono fun _ _ => .inl

theorem twins_around : List.Forall₂ (Twin edit.names edit.swaps edit.Roots)
      (earlierIn edit.old.outer edit.oldList) (earlierIn edit.new.outer edit.newList) ∧
    List.Forall₂ (Twin edit.names edit.swaps edit.Roots)
      (laterIn edit.old.outer edit.oldList) (laterIn edit.new.outer edit.newList) :=
  Syntax.outside_plug edit.keptFrames edit.rewritten_list edit.readIn_list .edited

theorem outside_earlier : List.Forall₂ edit.Outside edit.oldEarlier edit.newEarlier := by
  have before : List.Forall₂ edit.Outside
      (Node.preorderAll (edit.old.around edit.statements) edit.old.list.before)
      (Node.preorderAll (edit.new.around [edit.wrapper.statement edit.moved])
        edit.new.list.before) :=
    Twin.preorderAll (edit.forall₂_before.imp fun _ _ before => .start (.inr before))
      (fun _ mem => edit.asks_children (List.mem_append_left _ mem)) edit.before
  exact List.rel_append (edit.twins_around.1.imp fun _ _ => edit.outside_of_roots)
    (.cons (edit.outside_of_roots edit.twin_list) before)

theorem outside_later : List.Forall₂ edit.Outside edit.oldLater edit.newLater :=
  edit.twins_around.2.imp fun _ _ => edit.outside_of_roots

theorem inside_inside : List.Forall₂ edit.Inside edit.oldInside edit.newInside :=
  Twin.preorderAll (edit.forall₂_inner.imp fun _ _ inner => .start inner)
    (fun _ mem => edit.asks_children (List.mem_append_right _ mem)) edit.same

/-- Nothing in the statements changes but its places. -/
theorem bare_of_inside {old new : Site} (here : edit.Inside old new) :
    new.node.bare = old.node.bare := by
  have step {nodes others : List Node} (same : others.map Node.bare = nodes.map Node.bare)
      {position : Nat} {node other : Node} (here : nodes[position]? = some node)
      (here' : others[position]? = some other) : other.bare = node.bare := by
    have parts := congrArg (·[position]?) same
    simpa [here, here'] using parts
  induction here with
  | start inner =>
    cases inner with
    | intro here here' => exact step edit.same here here'
  | child _ _ position here here' ih => exact step (Node.children_of_bare ih) here here'

theorem reported_old (index : Index) : reported index edit.oldRoot.sites =
    reported index edit.oldEarlier ++ reported index edit.oldInside ++
      reported index edit.oldLater :=
  edit.old.reported_sites edit.statements

theorem reported_new (index : Index) : reported index edit.newRoot.sites =
    reported index edit.newEarlier ++ reported index edit.newInside ++
      reported index edit.newLater := by
  have inside :
      reported index (Node.preorderAll (edit.new.around [edit.wrapper.statement edit.moved])
        [edit.wrapper.statement edit.moved]) = reported index edit.newInside := by
    rw [reported_preorderAll, List.flatMap_singleton, Wrapper.reported_statement, newInside]
  rw [newRoot, OpenList.reported_sites, inside, newEarlier, newLater]

theorem fileDiagnostics_other {index index' : Index} (symbols : edit.SameIndexes index index')
    {file : SourceFile} (mem : file ∈ edit.first ++ edit.rest) :
    fileDiagnostics index' file = fileDiagnostics index file := by
  have asks := edit.asks_of_mem (List.mem_cons_of_mem _ (List.mem_map_of_mem mem))
  have start : edit.Outside (Site.root file.root) (Site.root file.root) :=
    .start (.inl (.other mem))
  have twins := List.forall₂_same.1 (Twin.preorder start asks rfl)
  rw [fileDiagnostics_eq_reported, fileDiagnostics_eq_reported]
  congr 1
  apply List.filter_congr
  intro site inside
  rw [edit.isReported_outside symbols (twins site inside)]

end GuardEdit

/-- When the last statements of a list get a guard, an access in them is reported exactly if it was
before and the condition does not check the length of its container, and every other access, in that
file and in all others, exactly if it was before. -/
theorem reported_behind_guard (edit : GuardEdit) (name directory path : String)
    (size size' : Nat) :
    let oldPackage : Package := ⟨name, directory, edit.oldFiles path size⟩
    let newPackage : Package := ⟨name, directory, edit.newFiles path size'⟩
    let oldIndex := Index.ofFiles oldPackage.files
    let newIndex := Index.ofFiles newPackage.files
    diagnostics oldPackage =
        edit.first.flatMap (fileDiagnostics oldIndex) ++
          (reported oldIndex edit.oldEarlier ++ reported oldIndex edit.oldInside ++
            reported oldIndex edit.oldLater).map (diagnosticAt path) ++
          edit.rest.flatMap (fileDiagnostics oldIndex) ∧
      diagnostics newPackage =
        edit.first.flatMap (fileDiagnostics newIndex) ++
          (reported newIndex edit.newEarlier ++ reported newIndex edit.newInside ++
            reported newIndex edit.newLater).map (diagnosticAt path) ++
          edit.rest.flatMap (fileDiagnostics newIndex) ∧
      (∀ file ∈ edit.first ++ edit.rest,
        fileDiagnostics newIndex file = fileDiagnostics oldIndex file) ∧
      List.Forall₂ (fun access access' => edit.Outside access access' ∧
          (verdict newIndex access').isReported = (verdict oldIndex access).isReported)
        (edit.oldEarlier ++ edit.oldLater) (edit.newEarlier ++ edit.newLater) ∧
      List.Forall₂ (fun access access' => access'.node.bare = access.node.bare ∧
          ((verdict newIndex access').isReported = true ↔
            (verdict oldIndex access).isReported = true ∧
              ∀ container, operandName? access = some container →
                checksLength (some edit.wrapper.condition) container.node.text = false))
        edit.oldInside edit.newInside := by
  intro oldPackage newPackage oldIndex newIndex
  have symbols : edit.SameIndexes oldIndex newIndex := edit.sameIndexes_files path size size'
  refine ⟨?_, ?_, fun file => edit.fileDiagnostics_other symbols, ?_, ?_⟩
  · rw [← edit.reported_old]
    exact flatMap_fileDiagnostics oldIndex edit.first edit.rest path size edit.oldRoot
  · rw [← edit.reported_new]
    exact flatMap_fileDiagnostics newIndex edit.first edit.rest path size' edit.newRoot
  · refine (List.rel_append edit.outside_earlier edit.outside_later).imp ?_
    intro access access' here
    exact ⟨here, edit.isReported_outside symbols here⟩
  · refine edit.inside_inside.imp ?_
    intro access access' here
    refine ⟨edit.bare_of_inside here, ?_⟩
    rw [edit.isReported_inside symbols here, Bool.and_eq_true, Bool.not_eq_true',
      Option.any_eq_false]

def tokenAt (start : Nat) (text : String) : Node :=
  .mk .token none (placeAt start text.length) text []

def nameAt (role : Role) (start : Nat) (name : String) : Node :=
  .mk .identifier (some role) (placeAt start name.length) name []

/-- The statement `x[0]`. -/
def indexesAt (start : Nat) (container : String) : Node :=
  .mk .expressionStatement none (placeAt start 4) (container ++ "[0]")
    [.mk .indexExpression none (placeAt start 4) (container ++ "[0]")
      [nameAt .operand start container,
       .mk .intLiteral (some .index) (placeAt (start + 2) 1) "0" []]]

/-- The statement `x[:]`. -/
def slicesAt (start : Nat) (container : String) : Node :=
  .mk .expressionStatement none (placeAt start 4) (container ++ "[:]")
    [.mk .sliceExpression none (placeAt start 4) (container ++ "[:]")
      [nameAt .operand start container]]

/-- The condition `len(x) > 0`. -/
def lengthConditionAt (start : Nat) (container : String) : Node :=
  .mk .binaryExpression (some .condition) (placeAt start 10) ("len(" ++ container ++ ") > 0")
    [.mk .callExpression (some .left) (placeAt start 6) ("len(" ++ container ++ ")")
      [nameAt .function start "len",
       .mk .argumentList (some .arguments) (placeAt (start + 3) 3) ("(" ++ container ++ ")")
        [.mk .identifier none (placeAt (start + 4) 1) container []]],
     .mk .token (some .operator) (placeAt (start + 7) 1) ">" [],
     .mk .intLiteral (some .right) (placeAt (start + 9) 1) "0" []]

/-- A function `func f(x []int)`, opened at the end of the only list of statements in it. -/
def openBody (text : String) (before : List Node) : OpenList where
  list := ⟨.statementList, none, placeAt 18 text.length, text, before, []⟩
  outer :=
    [⟨.block, some .body, placeAt 16 (text.length + 4), "\x7b " ++ text ++ " \x7d",
      [tokenAt 16 "\x7b"], [tokenAt (text.length + 19) "\x7d"]⟩,
     ⟨.functionDeclaration, none, placeAt 0 (text.length + 20),
      "func f(x []int) \x7b " ++ text ++ " \x7d", indexingHead "f" "x" 0, []⟩,
     ⟨.sourceFile, none, placeAt 0 (text.length + 20), "func f(x []int) \x7b " ++ text ++ " \x7d",
      [], []⟩]
  isFile := rfl
  kind := rfl
  role := rfl
  ends := by simp
  plain := by simp [Frame.fill, Node.isSpelled, Node.isName, Node.plays]
  held := by simp [Frame.fill, Node.readsChildren, Node.plays]

/-- The if statement of `if len(x) > 0 { x[0]; y[:] }`. -/
def lengthWrapper : Wrapper where
  condition := lengthConditionAt 27 "x"
  isCondition := rfl
  accessless := by decide +kernel
  span := placeAt 24 28
  text := "if len(x) > 0 \x7b x[0]; y[:] \x7d"
  blockSpan := placeAt 38 14
  blockText := "\x7b x[0]; y[:] \x7d"
  listSpan := placeAt 40 10
  listText := "x[0]; y[:]"
  lead := [tokenAt 24 "if"]
  middle := []
  tail := []
  opening := [tokenAt 38 "\x7b"]
  closing := [tokenAt 51 "\x7d"]
  ending := []
  fillers := by simp [IsFiller, tokenAt]

/-- The last two of the statements `z[:]; x[0]; y[:]` get the guard. -/
def lengthGuard : GuardEdit where
  first := []
  rest := []
  old := openBody "z[:]; x[0]; y[:]" [slicesAt 18 "z", tokenAt 22 ";"]
  new := openBody "z[:]; if len(x) > 0 \x7b x[0]; y[:] \x7d" [slicesAt 18 "z", tokenAt 22 ";"]
  wrapper := lengthWrapper
  statements := [indexesAt 24 "x", tokenAt 28 ";", slicesAt 30 "y"]
  moved := [indexesAt 40 "x", tokenAt 44 ";", slicesAt 46 "y"]
  kept := .cons ⟨rfl, rfl, rfl, rfl⟩ (.cons ⟨rfl, rfl, rfl, rfl⟩ (.cons ⟨rfl, rfl, rfl, rfl⟩ .nil))
  before := rfl
  same := rfl
  unnamed := by decide +kernel
  solid := by
    intro root mem
    obtain rfl : root = _ := List.mem_singleton.1 mem
    exact Node.solid_of_sites (by decide +kernel)
  solidNew := Node.solid_of_sites (by decide +kernel)

/-- The guard silences `x[0]`, but not `y[:]` in it, and not `z[:]` before it. -/
theorem reported_behind_lengthGuard :
    let oldPackage : Package := ⟨"p", ".", lengthGuard.oldFiles "p.go" 36⟩
    let newPackage : Package := ⟨"p", ".", lengthGuard.newFiles "p.go" 54⟩
    diagnostics oldPackage = [⟨"p.go", 1, 19⟩, ⟨"p.go", 1, 25⟩, ⟨"p.go", 1, 31⟩] ∧
      diagnostics newPackage = [⟨"p.go", 1, 19⟩, ⟨"p.go", 1, 47⟩] ∧
      List.Forall₂ (fun access access' => access'.node.bare = access.node.bare ∧
          ((verdict (Index.ofFiles newPackage.files) access').isReported = true ↔
            (verdict (Index.ofFiles oldPackage.files) access).isReported = true ∧
              ∀ container, operandName? access = some container →
                checksLength (some (lengthConditionAt 27 "x")) container.node.text = false))
        lengthGuard.oldInside lengthGuard.newInside := by
  obtain ⟨_, _, _, _, inside⟩ := reported_behind_guard lengthGuard "p" "." "p.go" 36 54
  exact ⟨by decide +kernel, by decide +kernel, inside⟩

end SliceGuard.Check
