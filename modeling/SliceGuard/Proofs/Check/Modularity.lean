import SliceGuard.Proofs.Check.Alike
import SliceGuard.Proofs.Check.Unguarded

/-!
# The verdict on an access does not depend on other bodies

When the body of one function is replaced, what stands before it stays, what stands after it moves on
by some bytes, and only the function and the file around the body are otherwise changed.  Symbols do
not look into bodies, and a climb from outside the body never enters it: of the two changed nodes it
only asks the head of the function.  So all sites outside the body, in the edited file and in the
others, are related by a simulation, and the same accesses are reported in the same order.
-/

namespace SliceGuard.Check

open Syntax (Kind KeepsOrder Node Role Site Span)
open Declarations
open Typing

/-- The nodes around a site and those around its counterpart in another version of the package: the
file and the function that are edited, and inside of them nodes that have only moved. -/
inductive Around (move : Span → Span) (spans : List Span) : List Node → List Node → Prop
  | nil : Around move spans [] []
  | file {old new : Node} (oldFile : old.kind = .sourceFile) (newFile : new.kind = .sourceFile) :
      Around move spans [old] [new]
  | function {old new file file' : Node}
      (isFunction : old.kind = .functionDeclaration ∨ old.kind = .methodDeclaration)
      (kind : new.kind = old.kind) (head : SameHead old new) (oldFile : file.kind = .sourceFile)
      (newFile : file'.kind = .sourceFile) : Around move spans [old, file] [new, file']
  | inside {node : Node} {above above' : List Node} (covered : node.spans ⊆ spans)
      (outer : Around move spans above above') :
      Around move spans (node :: above) (node.relocate move :: above')

/-- A site and its counterpart in another version of the package. -/
structure MovedSite (move : Span → Span) (spans : List Span) (old new : Site) : Prop where
  node : new.node = old.node.relocate move
  covered : old.node.spans ⊆ spans
  around : Around move spans old.above new.above

/-- Sites that are counterparts by some move that keeps the order of places. -/
def Counterpart (old new : Site) : Prop :=
  ∃ (move : Span → Span) (spans : List Span), KeepsOrder move spans ∧ MovedSite move spans old new

theorem MovedSite.below {move : Span → Span} {spans : List Span} {old new : Site}
    (moved : MovedSite move spans old new) {child : Node} (mem : child ∈ old.node.children) :
    MovedSite move spans (old.below child) (new.below (child.relocate move)) where
  node := rfl
  covered := List.Subset.trans (Node.spans_subset_of_mem_children mem) moved.covered
  around := by
    rw [Site.above_below, Site.above_below, moved.node]
    exact .inside moved.covered moved.around

theorem counterpart_parallel : Parallel Counterpart := by
  rintro old new ⟨move, spans, order, moved⟩
  refine ⟨move, moved.node, ?_⟩
  intro child mem
  exact ⟨move, spans, order, moved.below mem⟩

theorem scopeBinding?_of_file {file : Node} (isFile : file.kind = .sourceFile) (above : List Node)
    (child : Node) (name : String) : scopeBinding? ⟨file, above⟩ child name = none := by
  rw [scopeBinding?_eq]
  simp only [isFile]
  rfl

theorem climb_of_file {file : Node} (isFile : file.kind = .sourceFile) (child : Node)
    (name : String) : climb name child [file] = none := by
  rw [climb, scopeBinding?_of_file isFile, climb]

theorem climb_of_function {function file : Node}
    (isFunction : function.kind = .functionDeclaration ∨ function.kind = .methodDeclaration)
    (isFile : file.kind = .sourceFile) (child : Node) (name : String) :
    climb name child [function, file] = functionBinding? function name := by
  have asked : scopeBinding? ⟨function, [file]⟩ child name = functionBinding? function name := by
    rw [scopeBinding?_eq]
    rcases isFunction with isFunction | isFunction <;> simp only [isFunction] <;> rfl
  rw [climb, asked, climb_of_file isFile]
  cases functionBinding? function name <;> rfl

/-- The climb from a site and the climb from its counterpart lead to bindings that are alike. -/
theorem climb_around {move : Span → Span} {spans : List Span} (order : KeepsOrder move spans)
    {above above' : List Node} (around : Around move spans above above') {child : Node}
    (covered : child.span ∈ spans) (name : String) :
    Option.Rel (Binding.Alike Counterpart) (climb name child above)
      (climb name (child.relocate move) above') := by
  induction around generalizing child with
  | nil => exact .none
  | file oldFile newFile =>
    rw [climb_of_file oldFile, climb_of_file newFile]
    exact .none
  | @function old new file file' isFunction kind head oldFile newFile =>
    rw [climb_of_function isFunction oldFile, climb_of_function (kind ▸ isFunction) newFile]
    exact functionBinding?_alike head name
  | @inside node above above' inSpans outer ih =>
    -- The parts of the scope and the child all lie among the spans whose order is kept.
    have scopes : ScopeAlike Counterpart move child (child.relocate move) ⟨node, above⟩
        ⟨node.relocate move, above'⟩ := by
      refine ⟨rfl, ?_⟩
      intro part mem
      have partSpan := inSpans (Node.spans_subset_of_mem_children mem part.span_mem_spans)
      have kept := order part.span partSpan child.span covered
      refine ⟨⟨move, spans, order, ?_⟩, ?_, ?_⟩
      · exact MovedSite.below ⟨rfl, inSpans, outer⟩ mem
      · simpa [Node.start] using kept.1
      · simpa [Node.start, Node.stop] using kept.2
    have bound := scopes.scopeBinding? counterpart_parallel name
    rw [climb, climb]
    generalize scopeBinding? ⟨node, above⟩ child name = binding,
      scopeBinding? ⟨node.relocate move, above'⟩ (child.relocate move) name = binding' at bound
    cases bound with
    | none => exact ih (inSpans node.span_mem_spans)
    | some same => exact .some same

theorem counterpart_simulates : Simulates Counterpart := by
  refine ⟨counterpart_parallel, ?_⟩
  rintro old new ⟨move, spans, order, moved⟩
  have bound := climb_around order moved.around (moved.covered old.node.span_mem_spans)
    old.node.text
  rwa [localBinding?, localBinding?, moved.node, Node.text_relocate]

/-- The nodes around an access guard it as their counterparts guard its counterpart. -/
theorem any_isGuard_around {index index' : Index} (indexes : Index.Alike Counterpart index index')
    {access other : Node} (same : indexName? other = indexName? access) {move : Span → Span}
    {spans : List Span} {above above' : List Node} (around : Around move spans above above')
    (name : String) :
    above'.any (isGuard index' name other) = above.any (isGuard index name access) := by
  induction around with
  | nil => rfl
  | file oldFile newFile => simp [isGuard, oldFile, newFile]
  | function isFunction kind head oldFile newFile =>
    rcases isFunction with isFunction | isFunction
    · simp [isGuard, kind, isFunction, oldFile, newFile]
    · simp [isGuard, kind, isFunction, oldFile, newFile, isSortMethod_alike indexes same head]
  | inside _ _ ih => rw [List.any_cons, List.any_cons, ih, isGuard_relocate indexes same]

/-- An access is reported exactly if its counterpart is. -/
theorem isReported_counterpart {index index' : Index}
    (indexes : Index.Alike Counterpart index index') {old new : Site} (here : Counterpart old new) :
    (verdict index' new).isReported = (verdict index old).isReported := by
  apply isReported_verdict_alike counterpart_simulates indexes here
  intro name
  obtain ⟨move, spans, order, moved⟩ := here
  have same : indexName? new.node = indexName? old.node := by
    rw [moved.node, indexName?_relocate]
  rw [Bool.eq_iff_iff, isGuarded_iff, isGuarded_iff, ← List.any_eq_true, ← List.any_eq_true,
    any_isGuard_around indexes same moved.around name]

theorem reported_append (index : Index) (sites others : List Site) :
    reported index (sites ++ others) = reported index sites ++ reported index others := by
  simp [reported]

theorem reported_counterpart {index index' : Index}
    (indexes : Index.Alike Counterpart index index') {sites others : List Site}
    {related : Site → Site → Prop} (finer : ∀ old new, related old new → Counterpart old new)
    (all : List.Forall₂ related sites others) :
    List.Forall₂ related (reported index sites) (reported index' others) := by
  apply forall₂_filter _ all
  intro old new here
  have counterpart := finer old new here
  rw [counterpart_parallel.kind counterpart, isReported_counterpart indexes counterpart]

theorem preorderAll_moved_of_forall {move : Span → Span} {spans : List Span}
    {nodes above above' : List Node}
    (all : ∀ node ∈ nodes, List.Forall₂ (MovedSite move spans) (node.preorder above)
      ((node.relocate move).preorder above')) :
    List.Forall₂ (MovedSite move spans) (Node.preorderAll above nodes)
      (Node.preorderAll above' (nodes.map (Node.relocate move))) := by
  induction nodes with
  | nil => rw [List.map_nil, Node.preorderAll_nil, Node.preorderAll_nil]; exact .nil
  | cons node rest ih =>
    rw [List.map_cons, Node.preorderAll_cons, Node.preorderAll_cons]
    refine List.rel_append (all node (by simp)) (ih ?_)
    intro other mem
    exact all other (by simp [mem])

/-- The traversals of a tree that only moved go from site to counterpart. -/
theorem preorder_moved {move : Span → Span} {spans : List Span} {above above' : List Node}
    (around : Around move spans above above') {node : Node} (covered : node.spans ⊆ spans) :
    List.Forall₂ (MovedSite move spans) (node.preorder above)
      ((node.relocate move).preorder above') := by
  induction node using Node.childInduction generalizing above above' with
  | step node ih =>
    rw [Node.preorder_eq, Node.preorder_eq, Node.children_relocate]
    refine .cons ⟨rfl, covered, around⟩ (preorderAll_moved_of_forall ?_)
    intro child mem
    exact ih child mem (.inside covered around)
      (List.Subset.trans (Node.spans_subset_of_mem_children mem) covered)

theorem preorderAll_moved {move : Span → Span} {spans : List Span} {above above' : List Node}
    (around : Around move spans above above') {nodes : List Node}
    (covered : Node.spansAll nodes ⊆ spans) :
    List.Forall₂ (MovedSite move spans) (Node.preorderAll above nodes)
      (Node.preorderAll above' (nodes.map (Node.relocate move))) := by
  apply preorderAll_moved_of_forall
  intro node mem
  exact preorder_moved around (List.Subset.trans (Node.spans_subset_of_mem mem) covered)

/-- A file that is opened at the body of one of its functions or methods. -/
structure OpenedFile where
  span : Span
  text : String
  /-- The other declarations, before and after the function. -/
  before : List Node
  after : List Node
  kind : Kind
  isFunction : kind = .functionDeclaration ∨ kind = .methodDeclaration
  functionRole : Option Role
  functionSpan : Span
  functionText : String
  /-- The parts of the function before its body, among them the signature, and those after it. -/
  head : List Node
  tail : List Node
  body : Node
  isBody : body.role = some .body

namespace OpenedFile

/-- The function whose body is open. -/
def function (file : OpenedFile) : Node :=
  .mk file.kind file.functionRole file.functionSpan file.functionText
    (file.head ++ file.body :: file.tail)

/-- The tree of the whole file. -/
def root (file : OpenedFile) : Node :=
  .mk .sourceFile none file.span file.text (file.before ++ file.function :: file.after)

/-- The sites before the body, the file and the function around it apart. -/
def earlier (file : OpenedFile) : List Site :=
  Node.preorderAll [file.root] file.before ++ Node.preorderAll [file.function, file.root] file.head

def inside (file : OpenedFile) : List Site :=
  file.body.preorder [file.function, file.root]

def later (file : OpenedFile) : List Site :=
  Node.preorderAll [file.function, file.root] file.tail ++ Node.preorderAll [file.root] file.after

/-- Another version of a file, with another body: what stands before the body is the same, and what
stands after it is moved by `shift`, as many bytes as the end of the body. -/
structure Edited (shift : Span → Span) (old new : OpenedFile) : Prop where
  kind : new.kind = old.kind
  before : new.before = old.before
  head : new.head = old.head
  tail : new.tail = old.tail.map (Node.relocate shift)
  after : new.after = old.after.map (Node.relocate shift)
  shifts : ∀ span ∈ Node.spansAll (old.tail ++ old.after),
    (shift span).start + old.body.stop = span.start + new.body.stop ∧
      (shift span).stop + old.body.stop = span.stop + new.body.stop

theorem kind_function (file : OpenedFile) : file.function.kind = file.kind := rfl

theorem kind_root (file : OpenedFile) : file.root.kind = .sourceFile := rfl

/-- What is reported of a file is what is reported before, inside and after the body. -/
theorem reported_sites (index : Index) (file : OpenedFile) :
    reported index file.root.sites =
      reported index file.earlier ++ reported index file.inside ++ reported index file.later := by
  have notAccess (node : Node) (above : List Node) (rest : List Site)
      (other : node.kind.isAccess = false) :
      reported index (⟨node, above⟩ :: rest) = reported index rest := by
    simp [reported, other]
  have functionAccess : file.function.kind.isAccess = false := by
    rw [kind_function]
    rcases file.isFunction with isFunction | isFunction <;> rw [isFunction] <;> rfl
  have children : file.root.children = file.before ++ file.function :: file.after := rfl
  have parts : file.function.children = file.head ++ file.body :: file.tail := rfl
  rw [Node.sites, Node.preorder_eq, notAccess _ _ _ (by rw [kind_root]; rfl), children,
    Node.preorderAll_eq, List.flatMap_append, List.flatMap_cons, reported_append, reported_append,
    Node.preorder_eq _ file.function, notAccess _ _ _ functionAccess, parts, Node.preorderAll_eq,
    List.flatMap_append, List.flatMap_cons, reported_append, reported_append]
  simp only [earlier, inside, later, reported_append, Node.preorderAll_eq, List.append_assoc]

theorem child?_function (file : OpenedFile) {role : Role} (notBody : role ≠ .body) :
    file.function.child? role =
      (file.head.find? (Node.plays role)).or (file.tail.find? (Node.plays role)) := by
  have skipped : file.body.plays role = false := by
    simpa [Node.plays, file.isBody] using notBody.symm
  rw [Node.child?, function, Node.children_mk, List.find?_append, List.find?_cons, skipped]

theorem named_root (file : OpenedFile) :
    (Site.root file.root).named =
      (file.before.filter Node.isNamed).map (Site.root file.root).below ++
        (Site.root file.root).below file.function ::
          (file.after.filter Node.isNamed).map (Site.root file.root).below := by
  have isNamed : file.function.isNamed = true := by
    rw [Node.isNamed, kind_function]
    rcases file.isFunction with isFunction | isFunction <;> rw [isFunction] <;> rfl
  have children : file.root.children = file.before ++ file.function :: file.after := rfl
  rw [Site.named, Site.node_root, Node.named, children, List.filter_append, List.filter_cons,
    if_pos isNamed, List.map_append, List.map_cons]

namespace Edited

variable {shift : Span → Span} {old new : OpenedFile}

theorem sameHead (edited : Edited shift old new) : SameHead old.function new.function := by
  intro role notBody
  rw [child?_function old notBody, child?_function new notBody, edited.head, edited.tail,
    Node.find?_map_relocate shift (Node.plays_relocate shift role), Option.map_or, Option.map_or,
    Option.map_map, Node.bare_comp_relocate]

theorem order (edited : Edited shift old new) :
    KeepsOrder shift (Node.spansAll (old.tail ++ old.after)) :=
  Syntax.keepsOrder_of_shift edited.shifts

theorem aroundFunction (edited : Edited shift old new) (move : Span → Span) (spans : List Span) :
    Around move spans [old.function, old.root] [new.function, new.root] := by
  refine .function ?_ ?_ edited.sameHead old.kind_root new.kind_root
  · rw [kind_function]
    exact old.isFunction
  · rw [kind_function, kind_function, edited.kind]

theorem aroundFile (old new : OpenedFile) (move : Span → Span) (spans : List Span) :
    Around move spans [old.root] [new.root] :=
  .file old.kind_root new.kind_root

theorem earlier_moved (edited : Edited shift old new) :
    List.Forall₂ (MovedSite id (Node.spansAll (old.before ++ old.head))) old.earlier
      new.earlier := by
  rw [earlier, earlier, edited.before, edited.head, Node.spansAll_append]
  have outside := preorderAll_moved (aroundFile old new id _)
    (List.subset_append_left (Node.spansAll old.before) (Node.spansAll old.head))
  have signature := preorderAll_moved (edited.aroundFunction id _)
    (List.subset_append_right (Node.spansAll old.before) (Node.spansAll old.head))
  rw [Node.map_relocate_id] at outside signature
  exact List.rel_append outside signature

theorem later_moved (edited : Edited shift old new) :
    List.Forall₂ (MovedSite shift (Node.spansAll (old.tail ++ old.after))) old.later
      new.later := by
  rw [later, later, edited.tail, edited.after, Node.spansAll_append]
  exact List.rel_append
    (preorderAll_moved (edited.aroundFunction shift _) (List.subset_append_left _ _))
    (preorderAll_moved (aroundFile old new shift _) (List.subset_append_right _ _))

theorem functionSymbols_alike (edited : Edited shift old new) (path : String) :
    List.Forall₂ (Symbol.Alike Counterpart)
      (declarationSymbols path ((Site.root old.root).below old.function))
      (declarationSymbols path ((Site.root new.root).below new.function)) := by
  have head := edited.sameHead
  unfold declarationSymbols
  rw [Site.node_below, Site.node_below, kind_function, kind_function, edited.kind]
  rcases old.isFunction with isFunction | isFunction
  · simp only [isFunction]
    exact .cons (functionSymbol_alike head path) .nil
  · simp only [isFunction]
    exact .cons (methodSymbol_alike head path) .nil

theorem declarations_moved (old new : OpenedFile) {move : Span → Span} {nodes : List Node}
    (order : KeepsOrder move (Node.spansAll nodes)) :
    List.Forall₂ Counterpart ((nodes.filter Node.isNamed).map (Site.root old.root).below)
      (((nodes.map (Node.relocate move)).filter Node.isNamed).map (Site.root new.root).below) := by
  rw [Node.filter_map_relocate move (Node.isNamed_relocate move), List.map_map,
    List.forall₂_map_left_iff, List.forall₂_map_right_iff, List.forall₂_same]
  intro node mem
  have covered := Node.spans_subset_of_mem (List.mem_of_mem_filter mem)
  exact ⟨move, _, order, rfl, covered, aroundFile old new move _⟩

/-- Both versions of the file introduce the same symbols. -/
theorem symbols_alike (edited : Edited shift old new) (path : String) :
    List.Forall₂ (Symbol.Alike Counterpart) (symbols path old.root) (symbols path new.root) := by
  have before := declarations_moved old new (Syntax.keepsOrder_id (Node.spansAll old.before))
  have after : KeepsOrder shift (Node.spansAll old.after) := by
    have order := edited.order
    rw [Node.spansAll_append] at order
    intro first memFirst second memSecond
    exact order first (List.mem_append_right _ memFirst) second (List.mem_append_right _ memSecond)
  rw [Node.map_relocate_id] at before
  rw [symbols, symbols, named_root, named_root, edited.before, edited.after, List.flatMap_append,
    List.flatMap_append, List.flatMap_cons, List.flatMap_cons]
  have alike (site other : Site) (same : Counterpart site other) :=
    counterpart_parallel.declarationSymbols same path
  exact List.rel_append (List.rel_flatMap before alike)
    (List.rel_append (edited.functionSymbols_alike path)
      (List.rel_flatMap (declarations_moved old new after) alike))

end Edited

end OpenedFile

theorem counterpart_root (root : Node) : Counterpart (Site.root root) (Site.root root) :=
  ⟨id, root.spans, Syntax.keepsOrder_id _, (root.relocate_id).symm, List.Subset.refl _, .nil⟩

theorem symbols_alike_self (path : String) (root : Node) :
    List.Forall₂ (Symbol.Alike Counterpart) (symbols path root) (symbols path root) :=
  List.rel_flatMap (counterpart_parallel.named (counterpart_root root))
    fun _ _ same => counterpart_parallel.declarationSymbols same path

/-- The index of a package does not depend on a body. -/
theorem index_alike {shift : Span → Span} {old new : OpenedFile}
    (edited : OpenedFile.Edited shift old new) (path : String) (size size' : Nat)
    (first rest : List SourceFile) :
    Index.Alike Counterpart (Index.ofFiles (first ++ ⟨path, size, old.root⟩ :: rest))
      (Index.ofFiles (first ++ ⟨path, size', new.root⟩ :: rest)) := by
  have unedited (files : List SourceFile) :
      List.Forall₂ (Symbol.Alike Counterpart)
        (files.flatMap fun file => symbols file.path file.root)
        (files.flatMap fun file => symbols file.path file.root) := by
    apply List.rel_flatMap (List.forall₂_same.2 fun _ _ => rfl)
    rintro file _ rfl
    exact symbols_alike_self file.path file.root
  unfold Index.ofFiles Index.Alike
  rw [List.flatMap_append, List.flatMap_append, List.flatMap_cons, List.flatMap_cons]
  exact List.rel_append (unedited first)
    (List.rel_append (edited.symbols_alike path) (unedited rest))

/-- A file is reported alike whichever body the package has. -/
theorem fileDiagnostics_alike {index index' : Index}
    (indexes : Index.Alike Counterpart index index') (file : SourceFile) :
    fileDiagnostics index' file = fileDiagnostics index file := by
  have order := Syntax.keepsOrder_id file.root.spans
  have sites := preorder_moved (@Around.nil id file.root.spans) (List.Subset.refl _)
  rw [Node.relocate_id] at sites
  have accesses := reported_counterpart indexes (fun _ _ moved => ⟨id, _, order, moved⟩) sites
  rw [fileDiagnostics_eq_reported, fileDiagnostics_eq_reported]
  apply map_eq _ accesses
  intro access access' moved
  rw [diagnosticAt, diagnosticAt, moved.node, Node.relocate_id]

/-- When a body is edited, the diagnostics outside of it are those of the same accesses in the same
order, in that file and in all others. -/
theorem diagnostics_outside_body {shift : Span → Span} {old new : OpenedFile}
    (edited : OpenedFile.Edited shift old new) (name directory path : String) (size size' : Nat)
    (first rest : List SourceFile) :
    let oldPackage : Package := ⟨name, directory, first ++ ⟨path, size, old.root⟩ :: rest⟩
    let newPackage : Package := ⟨name, directory, first ++ ⟨path, size', new.root⟩ :: rest⟩
    let oldIndex := Index.ofFiles oldPackage.files
    let newIndex := Index.ofFiles newPackage.files
    diagnostics oldPackage =
        first.flatMap (fileDiagnostics oldIndex) ++
          (reported oldIndex old.earlier ++ reported oldIndex old.inside ++
            reported oldIndex old.later).map (diagnosticAt path) ++
          rest.flatMap (fileDiagnostics oldIndex) ∧
      diagnostics newPackage =
        first.flatMap (fileDiagnostics newIndex) ++
          (reported newIndex new.earlier ++ reported newIndex new.inside ++
            reported newIndex new.later).map (diagnosticAt path) ++
          rest.flatMap (fileDiagnostics newIndex) ∧
      (∀ file, fileDiagnostics newIndex file = fileDiagnostics oldIndex file) ∧
      List.Forall₂ (fun access access' : Site => access'.node = access.node)
        (reported oldIndex old.earlier) (reported newIndex new.earlier) ∧
      List.Forall₂ (fun access access' : Site => access'.node = access.node.relocate shift)
        (reported oldIndex old.later) (reported newIndex new.later) := by
  intro oldPackage newPackage oldIndex newIndex
  have indexes : Index.Alike Counterpart oldIndex newIndex :=
    index_alike edited path size size' first rest
  have taken (index : Index) (file : OpenedFile) (bytes : Nat) :
      (first ++ ⟨path, bytes, file.root⟩ :: rest).flatMap (fileDiagnostics index) =
        first.flatMap (fileDiagnostics index) ++
          (reported index file.earlier ++ reported index file.inside ++
            reported index file.later).map (diagnosticAt path) ++
          rest.flatMap (fileDiagnostics index) := by
    rw [List.flatMap_append, List.flatMap_cons, fileDiagnostics_eq_reported,
      OpenedFile.reported_sites]
    exact (List.append_assoc _ _ _).symm
  have earlier := reported_counterpart indexes
    (fun _ _ moved => ⟨id, _, Syntax.keepsOrder_id _, moved⟩) edited.earlier_moved
  have later := reported_counterpart indexes
    (fun _ _ moved => ⟨shift, _, edited.order, moved⟩) edited.later_moved
  refine ⟨taken oldIndex old size, taken newIndex new size', fileDiagnostics_alike indexes, ?_, ?_⟩
  · exact earlier.imp fun access access' moved => by rw [moved.node, Node.relocate_id]
  · exact later.imp fun access access' moved => moved.node

def placeAt (start length : Nat) : Span :=
  ⟨start, start + length, 0, start⟩

/-- The name and the parameters of `func f(x []int)`. -/
def indexingHead (name container : String) (start : Nat) : List Node :=
  [.mk .identifier (some .name) (placeAt (start + 5) 1) name [],
   .mk .parameterList (some .parameters) (placeAt (start + 6) 9) ("(" ++ container ++ " []int)")
    [.mk .parameterDeclaration none (placeAt (start + 7) 7) (container ++ " []int")
      [.mk .identifier (some .name) (placeAt (start + 7) 1) container [],
       .mk .sliceType (some .type) (placeAt (start + 9) 5) "[]int"
        [.mk .typeIdentifier (some .element) (placeAt (start + 11) 3) "int" []]]]]

/-- A body that only indexes the container. -/
def indexingBody (container : String) (start : Nat) : Node :=
  .mk .block (some .body) (placeAt start 8) ("\x7b " ++ container ++ "[0] \x7d")
    [.mk .statementList none (placeAt (start + 2) 4) (container ++ "[0]")
      [.mk .expressionStatement none (placeAt (start + 2) 4) (container ++ "[0]")
        [.mk .indexExpression none (placeAt (start + 2) 4) (container ++ "[0]")
          [.mk .identifier (some .operand) (placeAt (start + 2) 1) container [],
           .mk .intLiteral (some .index) (placeAt (start + 4) 1) "0" []]]]]

/-- Two functions that index their parameters, opened at the body of the first one. -/
def twoFunctions : OpenedFile where
  span := placeAt 0 49
  text := "func f(x []int) \x7b x[0] \x7d func g(y []int) \x7b y[0] \x7d"
  before := []
  after := [.mk .functionDeclaration none (placeAt 25 24) "func g(y []int) \x7b y[0] \x7d"
    (indexingHead "g" "y" 25 ++ [indexingBody "y" 41])]
  kind := .functionDeclaration
  isFunction := .inl rfl
  functionRole := none
  functionSpan := placeAt 0 24
  functionText := "func f(x []int) \x7b x[0] \x7d"
  head := indexingHead "f" "x" 0
  tail := []
  body := indexingBody "x" 16
  isBody := rfl

def sixBack (span : Span) : Span :=
  ⟨span.start - 6, span.stop - 6, span.row, span.column - 6⟩

/-- The same functions, the first one with an empty body. -/
def emptiedFirst : OpenedFile :=
  { twoFunctions with
    span := placeAt 0 43
    text := "func f(x []int) \x7b\x7d func g(y []int) \x7b y[0] \x7d"
    after := twoFunctions.after.map (Node.relocate sixBack)
    functionSpan := placeAt 0 18
    functionText := "func f(x []int) \x7b\x7d"
    body := .mk .block (some .body) (placeAt 16 2) "\x7b\x7d" []
    isBody := rfl }

/-- The access of the first function is gone, that of the second one is still reported. -/
theorem diagnostics_outside_emptied :
    let oldPackage : Package := ⟨"p", ".", [] ++ ⟨"p.go", 49, twoFunctions.root⟩ :: []⟩
    let newPackage : Package := ⟨"p", ".", [] ++ ⟨"p.go", 43, emptiedFirst.root⟩ :: []⟩
    OpenedFile.Edited sixBack twoFunctions emptiedFirst ∧
      diagnostics oldPackage = [⟨"p.go", 1, 19⟩, ⟨"p.go", 1, 44⟩] ∧
      diagnostics newPackage = [⟨"p.go", 1, 38⟩] ∧
      List.Forall₂ (fun access access' : Site => access'.node = access.node.relocate sixBack)
        (reported (Index.ofFiles oldPackage.files) twoFunctions.later)
        (reported (Index.ofFiles newPackage.files) emptiedFirst.later) := by
  have edited : OpenedFile.Edited sixBack twoFunctions emptiedFirst :=
    ⟨rfl, rfl, rfl, rfl, rfl, by decide +kernel⟩
  obtain ⟨_, _, _, _, later⟩ := diagnostics_outside_body edited "p" "." "p.go" 49 43 [] []
  exact ⟨edited, by decide +kernel, by decide +kernel, later⟩

end SliceGuard.Check
