import SliceGuard.Check.Package
import SliceGuard.Proofs.Check.LengthCheck
import SliceGuard.Proofs.Syntax.Preorder

/-!
# What is reported of a file

The accesses that are reported are those of a plain name that is checked and that no node around
guards.  The rules are stated here one by one and on their own; the verdict on every access is shown
to follow them, and the diagnostics of a file to list exactly the unguarded accesses in preorder.
-/

namespace SliceGuard.Check

open Syntax (Kind Node Role Site)
open Declarations
open Typing

/-- An access by position whose index is the plain name `key`. -/
def IndexedBy (access : Node) (key : String) : Prop :=
  access.kind = .indexExpression ∧
    ∃ position, access.child? .index = some position ∧ position.kind = .identifier ∧
      position.text = key

/-- A clause that ranges over the plain name `name`, apart from parentheses, with the plain name
`key` as its first target. -/
def RangesOver (clause : Node) (name key : String) : Prop :=
  (∃ container bare, clause.child? .right = some container ∧
      container.withoutParentheses = some bare ∧ bare.kind = .identifier ∧ bare.text = name) ∧
    ∃ targets first, clause.child? .left = some targets ∧ targets.named.head? = some first ∧
      first.kind = .identifier ∧ first.text = key

/-- A type with the length, the comparison and the exchange that sorting asks for. -/
def Sortable (index : Index) (type : String) : Prop :=
  index.hasMethod type "Len" [] ["int"] = true ∧
    index.hasMethod type "Less" ["int", "int"] ["bool"] = true ∧
    index.hasMethod type "Swap" ["int", "int"] [] = true

/-- The nodes that guard an access to the container `name`. -/
inductive Guards (index : Index) (name : String) (access : Node) : Node → Prop
  /-- An if statement whose condition checks the length of the container. -/
  | length {statement condition : Node} (kind : statement.kind = .ifStatement)
      (here : statement.child? .condition = some condition)
      (checks : ChecksLength name condition) : Guards index name access statement
  /-- A loop over the container whose key is the index of the access. -/
  | range {loop clause : Node} {key : String} (kind : loop.kind = .forStatement)
      (indexed : IndexedBy access key)
      (here : loop.named.find? (·.kind == .rangeClause) = some clause)
      (ranges : RangesOver clause name key) : Guards index name access loop
  /-- A comparison or exchange method of a sortable type with the index of the access among its
  parameters. -/
  | sorting {method title parameters declaration : Node} {type key : String}
      (kind : method.kind = .methodDeclaration) (indexed : IndexedBy access key)
      (named : method.child? .name = some title) (which : title.text = "Less" ∨ title.text = "Swap")
      (receiver : receiverName method = some type) (sortable : Sortable index type)
      (here : method.child? .parameters = some parameters)
      (member : declaration ∈ parameterDeclarations parameters)
      (declares : key ∈ declaredNames declaration) : Guards index name access method

/-- The accesses that are checked: any slice of a name, and an index of a name that is known to be a
slice or an array. -/
def Checked (index : Index) (access operand : Site) : Prop :=
  access.child? .operand = some operand ∧ operand.node.kind = .identifier ∧
    (access.node.kind = .sliceExpression ∨
      access.node.kind = .indexExpression ∧
        (classOf index operand = some .slice ∨ classOf index operand = some .array))

/-- The accesses that are checked and that no node around guards. -/
def Unguarded (index : Index) (access : Site) : Prop :=
  ∃ operand, Checked index access operand ∧
    ∀ node ∈ access.above, ¬ Guards index operand.node.text access.node node

theorem indexName?_eq_some_iff {access : Node} {key : String} :
    indexName? access = some key ↔ IndexedBy access key := by
  unfold indexName? IndexedBy
  cases access.child? .index <;> simp

theorem plainName?_eq_some_iff {node : Node} {name : String} :
    plainName? node = some name ↔ node.kind = .identifier ∧ node.text = name := by
  simp [plainName?]

theorem rangedName?_eq_some_iff {clause : Node} {name : String} :
    rangedName? clause = some name ↔
      ∃ container bare, clause.child? .right = some container ∧
        container.withoutParentheses = some bare ∧ bare.kind = .identifier ∧ bare.text = name := by
  simp only [rangedName?, Option.bind_eq_some_iff, plainName?_eq_some_iff]
  constructor
  · rintro ⟨bare, ⟨container, here, reached⟩, plain⟩
    exact ⟨container, bare, here, reached, plain⟩
  · rintro ⟨container, bare, here, reached, plain⟩
    exact ⟨bare, ⟨container, here, reached⟩, plain⟩

theorem rangeKey?_eq_some_iff {clause : Node} {key : String} :
    rangeKey? clause = some key ↔
      ∃ targets first, clause.child? .left = some targets ∧ targets.named.head? = some first ∧
        first.kind = .identifier ∧ first.text = key := by
  simp only [rangeKey?, Option.bind_eq_some_iff, plainName?_eq_some_iff]
  constructor
  · rintro ⟨first, ⟨targets, here, head⟩, plain⟩
    exact ⟨targets, first, here, head, plain⟩
  · rintro ⟨targets, first, here, head, plain⟩
    exact ⟨first, ⟨targets, here, head⟩, plain⟩

theorem isRangeOver_iff {loop access : Node} {name : String} :
    isRangeOver loop name access = true ↔
      ∃ clause key, loop.named.find? (·.kind == .rangeClause) = some clause ∧
        IndexedBy access key ∧ RangesOver clause name key := by
  unfold isRangeOver
  cases found : loop.named.find? (·.kind == .rangeClause) with
  | none => simp
  | some clause =>
    simp only [Bool.and_eq_true, beq_iff_eq, Option.isSome_iff_exists, Option.some.injEq]
    constructor
    · rintro ⟨⟨ranged, key, indexed⟩, agrees⟩
      rw [indexed] at agrees
      exact ⟨clause, key, rfl, indexName?_eq_some_iff.1 indexed,
        rangedName?_eq_some_iff.1 ranged, rangeKey?_eq_some_iff.1 agrees⟩
    · rintro ⟨_, key, rfl, indexed, ranged, target⟩
      have indexed := indexName?_eq_some_iff.2 indexed
      refine ⟨⟨rangedName?_eq_some_iff.2 ranged, key, indexed⟩, ?_⟩
      rw [indexed, rangeKey?_eq_some_iff.2 target]

theorem isSortable_iff {index : Index} {type : String} :
    index.isSortable type = true ↔ Sortable index type := by
  simp [Index.isSortable, Sortable, and_assoc]

theorem isSortMethod_iff {index : Index} {method access : Node} :
    isSortMethod index method access = true ↔
      (∃ title, method.child? .name = some title ∧ (title.text = "Less" ∨ title.text = "Swap")) ∧
        (∃ type, receiverName method = some type ∧ Sortable index type) ∧
        ∃ key, IndexedBy access key ∧
          ∃ parameters, method.child? .parameters = some parameters ∧
            ∃ declaration ∈ parameterDeclarations parameters, key ∈ declaredNames declaration := by
  have titled : ["Less", "Swap"].contains (nameText method) = true ↔
      ∃ title, method.child? .name = some title ∧
        (title.text = "Less" ∨ title.text = "Swap") := by
    unfold nameText
    cases method.child? .name <;> simp
  have listed (key : String) :
      (parameterNames (method.child? .parameters)).contains key = true ↔
        ∃ parameters, method.child? .parameters = some parameters ∧
          ∃ declaration ∈ parameterDeclarations parameters, key ∈ declaredNames declaration := by
    unfold parameterNames
    cases method.child? .parameters <;> simp
  simp only [isSortMethod, Bool.and_eq_true, titled, Option.any_eq_true, isSortable_iff, listed,
    indexName?_eq_some_iff, and_assoc]

/-- A node around an access is taken for a guard exactly if it is one. -/
theorem isGuard_iff {index : Index} {name : String} {access node : Node} :
    isGuard index name access node = true ↔ Guards index name access node := by
  constructor
  · intro guards
    unfold isGuard at guards
    split at guards
    · obtain ⟨condition, here, checks⟩ := checksLength_iff.1 guards
      exact .length ‹_› here checks
    · obtain ⟨clause, key, here, indexed, ranges⟩ := isRangeOver_iff.1 guards
      exact .range ‹_› indexed here ranges
    · obtain ⟨⟨title, named, which⟩, ⟨type, receiver, sortable⟩, key, indexed, parameters, here,
        declaration, member, declares⟩ := isSortMethod_iff.1 guards
      exact .sorting ‹_› indexed named which receiver sortable here member declares
    · contradiction
  · intro guards
    unfold isGuard
    cases guards with
    | length kind here checks =>
      rw [kind]
      exact checksLength_iff.2 ⟨_, here, checks⟩
    | range kind indexed here ranges =>
      rw [kind]
      exact isRangeOver_iff.2 ⟨_, _, here, indexed, ranges⟩
    | sorting kind indexed named which receiver sortable here member declares =>
      rw [kind]
      exact isSortMethod_iff.2 ⟨⟨_, named, which⟩, ⟨_, receiver, sortable⟩, _, indexed, _, here,
        _, member, declares⟩

theorem isReported_guardVerdict_iff {index : Index} {name : String} {access : Site} :
    (guardVerdict index name access).isReported = true ↔
      ∀ node ∈ access.above, ¬ Guards index name access.node node := by
  have unguarded : guard? index name access = none ↔
      ∀ node ∈ access.above, ¬ Guards index name access.node node := by
    simp [guard?, isGuard_iff]
  rw [← unguarded]
  unfold guardVerdict
  cases guard? index name access <;> simp [Verdict.isReported]

theorem any_isPositional_iff {typeClass : Option TypeClass} :
    typeClass.any TypeClass.isPositional = true ↔
      typeClass = some .slice ∨ typeClass = some .array := by
  rcases typeClass with _ | _ | _ | _ | _ <;> simp [TypeClass.isPositional]

theorem operandName?_eq_some_iff {access operand : Site} :
    operandName? access = some operand ↔
      access.child? .operand = some operand ∧ operand.node.kind = .identifier := by
  rw [operandName?, Option.filter_eq_some_iff]
  simp

/-- The verdict on an access of a plain name, by the kind of the access. -/
theorem isReported_verdict_of_operand {index : Index} {access operand : Site}
    (named : operandName? access = some operand) :
    (verdict index access).isReported = true ↔
      (access.node.kind = .sliceExpression ∨ access.node.kind = .indexExpression ∧
        (classOf index operand = some .slice ∨ classOf index operand = some .array)) ∧
      ∀ node ∈ access.above, ¬ Guards index operand.node.text access.node node := by
  rw [← any_isPositional_iff, classOf, verdict, named, ← isReported_guardVerdict_iff]
  by_cases slices : access.node.kind = .sliceExpression
  · simp [slices]
  by_cases indexes : access.node.kind = .indexExpression
  · by_cases positional : (typeOf index operand).typeClass?.any TypeClass.isPositional
    · simp [indexes, positional]
    · simp [indexes, positional, Verdict.isReported]
  · simp [slices, indexes, Verdict.isReported]

/-- The verdict follows the rules. -/
theorem isReported_verdict_iff {index : Index} {access : Site} :
    (verdict index access).isReported = true ↔ Unguarded index access := by
  constructor
  · intro reported
    cases named : operandName? access with
    | none => simp [verdict, named, Verdict.isReported] at reported
    | some operand =>
      obtain ⟨here, plain⟩ := operandName?_eq_some_iff.1 named
      obtain ⟨checked, unguarded⟩ := (isReported_verdict_of_operand named).1 reported
      exact ⟨operand, ⟨here, plain, checked⟩, unguarded⟩
  · rintro ⟨operand, ⟨here, plain, checked⟩, unguarded⟩
    have named := operandName?_eq_some_iff.2 ⟨here, plain⟩
    exact (isReported_verdict_of_operand named).2 ⟨checked, unguarded⟩

/-- No rule about a slice asks for the declarations of the package. -/
theorem verdict_eq_of_slice {access : Site} (slices : access.node.kind = .sliceExpression)
    (index other : Index) : verdict index access = verdict other access := by
  have unindexed : indexName? access.node = none := by simp [indexName?, slices]
  have guards (name : String) : isGuard index name access.node = isGuard other name access.node := by
    funext node
    unfold isGuard
    split <;> simp [isSortMethod, unindexed]
  unfold verdict guardVerdict guard?
  simp [slices, guards]

theorem isAccess_of_unguarded {index : Index} {access : Site}
    (unguarded : Unguarded index access) : access.node.kind.isAccess = true := by
  obtain ⟨operand, ⟨_, _, slices | ⟨indexes, _⟩⟩, _⟩ := unguarded
  · simp [Kind.isAccess, slices]
  · simp [Kind.isAccess, indexes]

/-- The accesses among some sites that are reported. -/
def reported (index : Index) (sites : List Site) : List Site :=
  sites.filter fun access => access.node.kind.isAccess && (verdict index access).isReported

def diagnosticAt (path : String) (access : Site) : Diagnostic :=
  { file := path, line := access.node.line, column := access.node.column }

theorem fileDiagnostics_eq_reported (index : Index) (file : SourceFile) :
    fileDiagnostics index file = (reported index file.root.sites).map (diagnosticAt file.path) := by
  have swapped : (fun access : Site =>
        access.node.kind.isAccess && (verdict index access).isReported) =
      fun access => (verdict index access).isReported && access.node.kind.isAccess := by
    funext access
    exact Bool.and_comm _ _
  rw [reported, swapped, ← List.filter_filter, ← Node.accesses_eq, fileDiagnostics, verdicts,
    List.filter_map, List.map_map]
  rfl

theorem fileDiagnostics_congr {index index' : Index} {file : SourceFile}
    (same : ∀ access ∈ file.root.sites,
      (verdict index' access).isReported = (verdict index access).isReported) :
    fileDiagnostics index' file = fileDiagnostics index file := by
  rw [fileDiagnostics_eq_reported, fileDiagnostics_eq_reported]
  congr 1
  apply List.filter_congr
  intro access inside
  rw [same access inside]

open Classical in
/-- The diagnostics of a file are its unguarded accesses, each once and in preorder; those of slices
are the same whatever the package declares. -/
theorem fileDiagnostics_eq_unguarded (index : Index) (file : SourceFile) :
    fileDiagnostics index file =
        (file.root.sites.filter fun access => Unguarded index access).map (fun access =>
          { file := file.path, line := access.node.line, column := access.node.column }) ∧
      ∀ (other : Index) (access : Site), access.node.kind = .sliceExpression →
        verdict index access = verdict other access := by
  refine ⟨?_, fun other access slices => verdict_eq_of_slice slices index other⟩
  rw [fileDiagnostics_eq_reported, reported]
  congr 1
  apply List.filter_congr
  intro access _
  rw [Bool.eq_iff_iff, Bool.and_eq_true, isReported_verdict_iff, decide_eq_true_eq]
  exact ⟨And.right, fun unguarded => ⟨isAccess_of_unguarded unguarded, unguarded⟩⟩

end SliceGuard.Check
