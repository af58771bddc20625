import SliceGuard.Proofs.Check.Alike
import SliceGuard.Proofs.Check.Versions
import SliceGuard.Proofs.Syntax.Rejection
import SliceGuard.Proofs.Typing.Comments

/-!
# Comments do not matter where they are not counted

A file is checked with its comments and without them.  Conditions, loops and methods guard the same
accesses, and the accesses have operands of the same types, as long as no comment stands where the
named children of a node are counted or where the first of them is taken.  A comment in such a place
can hide an access or show one.
-/

namespace SliceGuard.Check

open Syntax (Kind Node Role Site)
open Syntax.Node (Everywhere Tidy isWord)
open Declarations
open Typing

section Conditions

variable {texts : Node → String} {node : Node}

theorem withoutParentheses_withoutComments :
    (node.withoutComments texts).withoutParentheses =
      node.withoutParentheses.map (Node.withoutComments texts) := by
  apply Node.descend_withoutComments
  · intro kind picks rule part
    unfold Node.parenthesesRule at rule
    split at rule
    · cases rule
      dsimp only
      rw [Node.isNamed_withoutComments, Node.kind_withoutComments]
    · cases rule
  · intro site inside picks rule child first
    unfold Node.parenthesesRule at rule
    split at rule
    · cases rule
      have picked := List.find?_some first
      rw [Bool.and_eq_true, bne, Bool.not_eq_true'] at picked
      exact picked.2
    · cases rule

theorem plainName?_withoutComments (neat : Neat texts node) :
    plainName? (node.withoutComments texts) = plainName? node := by
  unfold plainName?
  rw [Node.kind_withoutComments]
  split
  case isTrue kind => rw [Node.text_of_isName neat.tidy (by simp_all [Node.isName])]
  case isFalse => rfl

theorem isLengthCall_withoutComments (neat : Neat texts node) :
    isLengthCall (node.withoutComments texts) = isLengthCall node := by
  unfold isLengthCall
  rw [Node.kind_withoutComments, Node.child?_withoutComments neat.tidy]
  cases here : node.child? .function with
  | none => rfl
  | some function =>
    simp only [Option.map_some, Option.any_some, Node.kind_withoutComments]
    by_cases isName : function.kind = .identifier
    · rw [Node.text_of_isName (neat.child? here).tidy (by simp [Node.isName, isName])]
    · rw [beq_false_of_ne isName, Bool.false_and, Bool.false_and]

theorem hasArgument_withoutComments (neat : Neat texts node) (name : String) :
    hasArgument (node.withoutComments texts) name = hasArgument node name := by
  unfold hasArgument
  rw [Node.child?_withoutComments neat.tidy]
  cases here : node.child? .arguments with
  | none => rfl
  | some list =>
    simp only [Option.map_some, Option.any_some, plainName?_eq_name, Node.named_withoutComments]
    apply Syntax.any_kept
    · intro argument mem _
      rw [plainName?_withoutComments ((neat.child? here).named mem)]
    · intro argument _ comment
      rw [Bool.not_eq_false'] at comment
      simp [plainName?, beq_iff_eq.1 comment]

theorem measures_withoutComments (neat : Neat texts node) (name : String) :
    measures name (node.withoutComments texts) = measures name node := by
  rw [measures, measures, isLengthCall_withoutComments neat, hasArgument_withoutComments neat]

theorem operand?_withoutComments (neat : Neat texts node) (role : Role) :
    operand? role (node.withoutComments texts) =
      (operand? role node).map (Node.withoutComments texts) := by
  unfold operand?
  rw [Node.child?_withoutComments neat.tidy]
  cases node.child? role with
  | none => rfl
  | some part => exact withoutParentheses_withoutComments

theorem operands_withoutComments (neat : Neat texts node) :
    operands (node.withoutComments texts) =
      (operands node).map (Node.withoutComments texts) := by
  unfold operands
  rw [operand?_withoutComments neat, operand?_withoutComments neat, List.map_append]
  cases operand? .left node <;> cases operand? .right node <;> rfl

theorem neat_of_mem_operands (neat : Neat texts node) {operand : Node}
    (mem : operand ∈ operands node) : Neat texts operand := by
  have each {role : Role} (reached : operand? role node = some operand) : Neat texts operand := by
    obtain ⟨part, here, inner⟩ := Option.bind_eq_some_iff.1 reached
    exact Everywhere.descend (neat.child? here) inner
  rcases List.mem_append.1 mem with left | right
  · exact each (Option.mem_toList.1 left)
  · exact each (Option.mem_toList.1 right)

theorem any_measures_withoutComments (neat : Neat texts node) (name : String) :
    (operands (node.withoutComments texts)).any (measures name) =
      (operands node).any (measures name) := by
  rw [operands_withoutComments neat]
  refine any_eq ?_ (forall₂_map_and fun operand mem => neat_of_mem_operands neat mem)
  rintro operand _ ⟨part, rfl⟩
  exact measures_withoutComments part name

theorem isCombination_withoutComments (neat : Neat texts node) :
    isCombination (node.withoutComments texts) = isCombination node := by
  unfold isCombination
  rw [Node.child?_withoutComments neat.tidy]
  cases here : node.child? .operator with
  | none => rfl
  | some operator =>
    have spelled : operator.isSpelled = true := by
      simp [Node.isSpelled, Node.plays, Node.role_of_child? here]
    rw [Option.map_some, Option.any_some, Option.any_some,
      Node.text_of_isSpelled (neat.child? here).tidy spelled
        (Node.isComment_of_child? neat.tidy here)]

/-- Conditions check the same lengths without comments. -/
theorem anyChecks_withoutComments {conditions : List Node}
    (neat : ∀ condition ∈ conditions, Neat texts condition) (name : String) :
    anyChecks name (conditions.map (Node.withoutComments texts)) = anyChecks name conditions := by
  have inner {condition node : Node} {pending : List Node}
      (neat : ∀ other ∈ condition :: pending, Neat texts other)
      (reached : condition.withoutParentheses = some node) : Neat texts node :=
    Everywhere.descend (neat condition List.mem_cons_self) reached
  have later {condition : Node} {pending : List Node}
      (neat : ∀ other ∈ condition :: pending, Neat texts other) :
      ∀ other ∈ pending, Neat texts other :=
    fun other mem => neat other (List.mem_cons_of_mem _ mem)
  fun_induction anyChecks name conditions with
  | case1 => rw [List.map_nil, anyChecks]
  | case2 condition pending reached ih =>
    rw [List.map_cons, anyChecks_cons, withoutParentheses_withoutComments, reached]
    exact ih (later neat)
  | case3 condition pending node reached binary measured =>
    rw [List.map_cons, anyChecks_cons, withoutParentheses_withoutComments, reached]
    simp only [Option.map_some, Node.kind_withoutComments, binary, ↓reduceIte,
      any_measures_withoutComments (inner neat reached), measured]
  | case4 condition pending node reached binary measured combines ih =>
    have part := inner neat reached
    rw [List.map_cons, anyChecks_cons, withoutParentheses_withoutComments, reached]
    simp only [Option.map_some, Node.kind_withoutComments, binary, ↓reduceIte,
      any_measures_withoutComments part, measured, isCombination_withoutComments part, combines]
    rw [operands_withoutComments part, ← List.map_append]
    apply ih
    intro other mem
    rcases List.mem_append.1 mem with operand | rest
    · exact neat_of_mem_operands part operand
    · exact later neat other rest
  | case5 condition pending node reached binary measured combines ih =>
    have part := inner neat reached
    rw [List.map_cons, anyChecks_cons, withoutParentheses_withoutComments, reached]
    simp only [Option.map_some, Node.kind_withoutComments, binary, ↓reduceIte,
      any_measures_withoutComments part, measured, isCombination_withoutComments part, combines]
    exact ih (later neat)
  | case6 condition pending node reached other ih =>
    rw [List.map_cons, anyChecks_cons, withoutParentheses_withoutComments, reached]
    simp only [Option.map_some, Node.kind_withoutComments, other]
    exact ih (later neat)

theorem checksLength_withoutComments {condition : Option Node}
    (neat : ∀ node ∈ condition, Neat texts node) (name : String) :
    checksLength (condition.map (Node.withoutComments texts)) name =
      checksLength condition name := by
  cases condition with
  | none => rfl
  | some node =>
    have only : ∀ condition ∈ [node], Neat texts condition := by simpa using neat
    exact anyChecks_withoutComments only name

end Conditions

section Guards

variable {texts : Node → String} {node : Node}

theorem indexName?_withoutComments (neat : Neat texts node) :
    indexName? (node.withoutComments texts) = indexName? node := by
  unfold indexName?
  rw [Node.kind_withoutComments, Node.child?_withoutComments neat.tidy]
  split
  · cases here : node.child? .index with
    | none => rfl
    | some part => exact plainName?_withoutComments (neat.child? here)
  · rfl

theorem rangedName?_withoutComments (neat : Neat texts node) :
    rangedName? (node.withoutComments texts) = rangedName? node := by
  unfold rangedName?
  rw [Node.child?_withoutComments neat.tidy]
  cases here : node.child? .right with
  | none => rfl
  | some container =>
    rw [Option.map_some, Option.bind_some, Option.bind_some, withoutParentheses_withoutComments]
    cases reached : container.withoutParentheses with
    | none => rfl
    | some bare =>
      exact plainName?_withoutComments (Everywhere.descend (neat.child? here) reached)

theorem head?_named_withoutComments (starts : node.startsWithComment = false) :
    (node.withoutComments texts).named.head? =
      node.named.head?.map (Node.withoutComments texts) := by
  rw [Node.named_withoutComments]
  unfold Node.startsWithComment at starts
  cases named : node.named with
  | nil => rfl
  | cons first rest =>
    rw [named, List.head?_cons, Option.any_some] at starts
    rw [List.filter_cons_of_pos (by simp [starts])]
    rfl

theorem rangeKey?_withoutComments (neat : Neat texts node) (kind : node.kind = .rangeClause) :
    rangeKey? (node.withoutComments texts) = rangeKey? node := by
  have starts := neat.tidy.here.targets kind
  unfold rangeKey?
  rw [Node.child?_withoutComments neat.tidy]
  cases here : node.child? .left with
  | none => rfl
  | some left =>
    rw [here, Option.any_some] at starts
    rw [Option.map_some, Option.bind_some, Option.bind_some, head?_named_withoutComments starts]
    cases first : left.named.head? with
    | none => rfl
    | some key =>
      exact plainName?_withoutComments ((neat.child? here).named (List.mem_of_head? first))

theorem isRangeOver_withoutComments (neat : Neat texts node) (name : String) {access : Node}
    (accessed : Neat texts access) :
    isRangeOver (node.withoutComments texts) name (access.withoutComments texts) =
      isRangeOver node name access := by
  unfold isRangeOver
  rw [find?_named_withoutComments (p := (· == .rangeClause)) rfl]
  cases found : node.named.find? (·.kind == .rangeClause) with
  | none => rfl
  | some clause =>
    have part := neat.named (List.mem_of_find?_eq_some found)
    have kind : clause.kind = .rangeClause := by simpa using List.find?_some found
    rw [Option.map_some]
    dsimp only
    rw [rangedName?_withoutComments part, rangeKey?_withoutComments part kind,
      indexName?_withoutComments accessed]

variable {index index' : Index}

/-- A node guards an access without comments if it guards it with them. -/
theorem isGuard_withoutComments (sortable : ∀ type, index'.isSortable type = index.isSortable type)
    (neat : Neat texts node) (name : String) {access : Node} (accessed : Neat texts access) :
    isGuard index' name (access.withoutComments texts) (node.withoutComments texts) =
      isGuard index name access node := by
  unfold isGuard
  rw [Node.kind_withoutComments]
  split
  case h_1 =>
    rw [Node.child?_withoutComments neat.tidy]
    exact checksLength_withoutComments (fun _ here => neat.child? here) name
  case h_2 => exact isRangeOver_withoutComments neat name accessed
  case h_3 kind =>
    unfold isSortMethod
    rw [nameText_withoutComments neat, receiverName_withoutComments neat kind,
      indexName?_withoutComments accessed, Node.child?_withoutComments neat.tidy,
      parameterNames_withoutComments fun _ here => neat.child? here, funext sortable]
  case h_4 => rfl

theorem isGuarded_withoutComments
    (sortable : ∀ type, index'.isSortable type = index.isSortable type) {access : Site}
    (neat : NeatSite texts access) (name : String) :
    isGuarded index' name (access.withoutComments texts) = isGuarded index name access := by
  rw [isGuarded_eq_any, isGuarded_eq_any]
  refine any_eq ?_ (forall₂_map_and neat.above)
  rintro node _ ⟨part, rfl⟩
  exact isGuard_withoutComments sortable part name neat.node

end Guards

/-- A file without its comments. -/
def uncommented (texts : Node → String) (file : SourceFile) : SourceFile :=
  { file with root := file.root.withoutComments texts }

section Files

variable {texts : Node → String} {index index' : Index}
  (all : List.Forall₂ (SymbolKept texts) index.symbols index'.symbols)

include all

theorem isSortable_kept (type : String) : index'.isSortable type = index.isSortable type := by
  refine isSortable_of_symbols (all.imp ?_) type
  intro symbol other same
  exact ⟨same.kind, same.name, same.method⟩

theorem classOf_kept {site other : Site} (same : SiteKept texts site other) :
    classOf index' other = classOf index site :=
  ((carries_kept all).typeWithin stepLimit same).typeClass?_eq

/-- An access is reported without comments if it is reported with them. -/
theorem isReported_withoutComments {access : Site} (neat : NeatSite texts access) :
    (verdict index' (access.withoutComments texts)).isReported =
      (verdict index access).isReported := by
  have operands : operandName? (access.withoutComments texts) =
      (operandName? access).map (Site.withoutComments texts) := by
    unfold operandName?
    rw [Site.child?_withoutComments neat.node.tidy, Option.filter_map]
    simp only [Function.comp_def, Site.node_withoutComments, Node.kind_withoutComments]
  cases named : operandName? access with
  | none =>
    rw [named] at operands
    simp [verdict, named, operands, Verdict.isReported]
  | some operand =>
    rw [named] at operands
    obtain ⟨here, isName⟩ := operandName?_eq_some_iff.1 named
    have part := neat.child? here
    rw [isReported_verdict_eq named, isReported_verdict_eq operands, isChecked, isChecked,
      classOf_kept all part.kept, Site.node_withoutComments, Site.node_withoutComments,
      Node.kind_withoutComments, Node.text_of_isName part.node.tidy (by simp [Node.isName, isName]),
      isGuarded_withoutComments (isSortable_kept all) neat]

theorem fileDiagnostics_other_kept (file : SourceFile) :
    fileDiagnostics index' file = fileDiagnostics index file := by
  apply fileDiagnostics_congr
  intro access _
  exact isReported_of_classOf (funext (isSortable_kept all)) fun _ _ => classOf_kept all (.inl rfl)

theorem fileDiagnostics_uncommented {file : SourceFile} (neat : Neat texts file.root) :
    fileDiagnostics index' (uncommented texts file) = fileDiagnostics index file := by
  -- Accesses are no comments, so they may be looked for among all other nodes.
  have others (index : Index) (sites : List Site) :
      reported index sites = reported index (sites.filter (!·.node.isComment)) := by
    rw [reported, reported, List.filter_filter]
    apply List.filter_congr
    intro site _
    by_cases comment : site.node.kind = .comment
    · simp [comment, Kind.isAccess]
    · simp [Node.isComment, comment]
  have kept : reported index'
      ((file.root.sites.filter (!·.node.isComment)).map (Site.withoutComments texts)) =
        (reported index (file.root.sites.filter (!·.node.isComment))).map
          (Site.withoutComments texts) := by
    rw [reported, List.filter_map, reported]
    congr 1
    apply List.filter_congr
    intro site mem
    obtain ⟨node, above⟩ := Everywhere.within neat
      (Site.within_of_mem_sites (List.mem_filter.1 mem).1)
    rw [Function.comp_apply, isReported_withoutComments all ⟨node, above⟩,
      Site.node_withoutComments, Node.kind_withoutComments]
  rw [fileDiagnostics_eq_reported, fileDiagnostics_eq_reported, others index', others index,
    uncommented, Node.sites_withoutComments neat.tidy, kept, List.map_map]
  apply List.map_congr_left
  intro site _
  simp only [Function.comp_apply, diagnosticAt, Site.node_withoutComments, Node.line, Node.column,
    Node.span_withoutComments]

end Files

theorem symbols_uncommented {texts : Node → String} {before after : List SourceFile}
    {file : SourceFile} (neat : Neat texts file.root) :
    List.Forall₂ (SymbolKept texts) (Index.ofFiles (before ++ file :: after)).symbols
      (Index.ofFiles (before ++ uncommented texts file :: after)).symbols := by
  have others (files : List SourceFile) :
      List.Forall₂ (SymbolKept texts) (Index.ofFiles files).symbols
        (Index.ofFiles files).symbols :=
    List.forall₂_same.2 fun symbol _ => symbolKept_self symbol
  simp only [Index.ofFiles, List.flatMap_append, List.flatMap_cons]
  exact List.rel_append (others before)
    (List.rel_append (symbols_kept neat file.path) (others after))

/-- Where no comment of a file is counted, the file and all others have the same reports without its
comments, at the same positions and in the same order. -/
theorem diagnostics_uncommented {package package' : Package} {before after : List SourceFile}
    {file : SourceFile} {texts : Node → String} (files : package.files = before ++ file :: after)
    (files' : package'.files = before ++ uncommented texts file :: after)
    (tidy : ∀ site ∈ file.root.sites, site.node.Tidy texts)
    (uncounted : ∀ site ∈ file.root.sites, countsComment site.node = false) :
    fileDiagnostics (Index.ofFiles package'.files) (uncommented texts file) =
        fileDiagnostics (Index.ofFiles package.files) file ∧
      (∀ other ∈ before ++ after, fileDiagnostics (Index.ofFiles package'.files) other =
        fileDiagnostics (Index.ofFiles package.files) other) ∧
      diagnostics package' = diagnostics package := by
  have neat : Neat texts file.root := fun site inside => ⟨tidy site inside, uncounted site inside⟩
  have symbols : List.Forall₂ (SymbolKept texts) (Index.ofFiles package.files).symbols
      (Index.ofFiles package'.files).symbols := by
    rw [files, files']
    exact symbols_uncommented neat
  have own := fileDiagnostics_uncommented symbols neat
  have others := fileDiagnostics_other_kept symbols
  refine ⟨own, fun other _ => others other, ?_⟩
  rw [diagnostics, diagnosticsWith, diagnostics, diagnosticsWith]
  generalize Index.ofFiles package.files = index,
    Index.ofFiles package'.files = index' at own others
  rw [files, files', List.flatMap_append, List.flatMap_cons, List.flatMap_append, List.flatMap_cons,
    own, funext others]

/-- A text from a place on, with blanks for all bytes inside of some spans except for line ends. -/
def blankedFrom (spans : List Syntax.Span) : Nat → List Char → List Char
  | _, [] => []
  | start, letter :: rest =>
    let isInside := spans.any fun span => span.start ≤ start && start < span.stop
    (if isInside && letter != '\n' then List.replicate letter.utf8Size ' ' else [letter]) ++
      blankedFrom spans (start + letter.utf8Size) rest

/-- The text of a node with blanks in place of its comments. -/
def blanked (node : Node) : String :=
  let comments := node.sites.filter (·.node.isComment)
  String.ofList (blankedFrom (comments.map (·.node.span)) node.start node.text.toList)

/-- A file with comments that are not counted. -/
def commentedFile : SourceFile :=
  fileOf "a.go" ("package p // a\n" ++
    "func f(y []int) int \x7b x := /* b */ y; return x /* c */ [0] \x7d\n").toUTF8

/-- The comments of the file may be left out. -/
theorem diagnostics_commentedFile :
    diagnostics ⟨"p", ".", [commentedFile]⟩ = [⟨"a.go", 2, 46⟩] ∧
      diagnostics ⟨"p", ".", [uncommented blanked commentedFile]⟩ = [⟨"a.go", 2, 46⟩] := by
  have tidy : ∀ site ∈ commentedFile.root.sites, site.node.Tidy blanked := by decide +kernel
  have uncounted : ∀ site ∈ commentedFile.root.sites, countsComment site.node = false := by
    decide +kernel
  have reported : diagnostics ⟨"p", ".", [commentedFile]⟩ = [⟨"a.go", 2, 46⟩] := by decide +kernel
  have whole := @diagnostics_uncommented ⟨"p", ".", [commentedFile]⟩
    ⟨"p", ".", [uncommented blanked commentedFile]⟩ [] [] commentedFile blanked rfl rfl tidy
    uncounted
  exact ⟨reported, whole.2.2.trans reported⟩

/-- A file with a comment in a list of values. -/
def miscountedFile : SourceFile :=
  fileOf "a.go" ("package p\nfunc f(y []int) int \x7b\n\tx, z := y, /* c */ 0\n" ++
    "\treturn x[z]\n\x7d\n").toUTF8

/-- The comment is taken for a third value, so that the access is reported only without it. -/
theorem comment_hides_access :
    diagnostics ⟨"p", ".", [miscountedFile]⟩ = [] ∧
      diagnostics ⟨"p", ".", [uncommented blanked miscountedFile]⟩ = [⟨"a.go", 4, 9⟩] := by
  decide +kernel

end SliceGuard.Check
