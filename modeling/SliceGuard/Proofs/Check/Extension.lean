import Mathlib.Order.Lattice
import SliceGuard.Proofs.Check.Versions
import SliceGuard.Proofs.Syntax.Rejection
import SliceGuard.Proofs.Typing.Carrying
import SliceGuard.Proofs.Typing.Depth

/-!
# Packages that declare more

An index that declares more names gives every expression the type it had before, if it had one.  So
the accesses that were reported still are, and only index expressions of containers that were
unknown are reported in addition.  An index that has more methods gives every expression the type it
had, and it silences accesses inside the comparison and exchange methods of types that have become
sortable.
-/

namespace SliceGuard.Check

open Syntax (Kind Node Role Site)
open Declarations
open Typing

/-- How an index is asked for a name: as a type, as a variable or constant, or as a function. -/
def lookups : List (Index → String → Option Symbol) :=
  [Index.type?, Index.value?, Index.function?]

/-- An index that declares the same and more: additional names are declared in no way by the first
index, and not by the language as types. -/
structure Extends (index index' : Index) : Prop where
  keeps : ∀ lookup ∈ lookups, ∀ name symbol,
    lookup index name = some symbol → lookup index' name = some symbol
  fresh : ∀ lookup ∈ lookups, ∀ name,
    lookup index name = none → (lookup index' name).isSome = true →
      (∀ other ∈ lookups, other index name = none) ∧ name ∉ predeclaredTypes

/-- The methods of a type, in the order of their declarations. -/
def methodsOf (index : Index) (type : String) : List Symbol :=
  index.methods.filter (·.receiver == type)

/-- Methods of the same type and name, with the same types of parameters and results. -/
structure SameSignature (method other : Symbol) : Prop where
  receiver : other.receiver = method.receiver
  name : other.name = method.name
  parameters : other.parameters.map Parameter.type = method.parameters.map Parameter.type
  results : other.results = method.results

section Types

variable {index index' : Index}

theorem rel_self {α : Type} (value : Option α) : Option.Rel Eq value value :=
  rel_same fun _ _ => rfl

/-- All types and expressions stand for themselves. -/
theorem tracked_self : Tracked Eq Eq (fun _ => True) where
  kind := by rintro type _ rfl; rfl
  name := by rintro type _ rfl _; exact ⟨rfl, trivial⟩
  child? := by rintro type _ rfl role _; exact rel_self _
  core := by rintro type _ rfl; exact rel_self _
  node := by rintro site _ rfl; rfl
  operand := by rintro site _ rfl; exact rel_self _
  inside := by rintro site _ rfl _; exact rel_self _
  argument := by rintro site _ rfl; exact rel_self _

theorem carried_self (binding : Binding) : binding.Carried Eq Eq binding :=
  binding.carried_refl (fun _ => rfl) fun _ => rfl

/-- A lookup that finds nothing in the first index may find anything in the second one, and one that
finds something finds the same. -/
theorem eq_or_gained {first second : Option Symbol}
    (keeps : ∀ symbol, first = some symbol → second = some symbol) :
    second = first ∨ first = none ∧ second.isSome = true := by
  cases first with
  | some symbol => exact .inl (keeps symbol rfl)
  | none =>
    cases second with
    | none => exact .inl rfl
    | some symbol => exact .inr ⟨rfl, rfl⟩

/-- What is known in the smaller index carries over. -/
theorem Extends.carries (more : Extends index index') :
    Carries Eq Eq True (fun _ => True) index index' where
  toTracked := tracked_self
  type? name _ := by
    rcases eq_or_gained (more.keeps Index.type? (by simp [lookups]) name) with
      same | ⟨undeclared, gained⟩
    · rw [same]
      exact .inl (rel_same fun symbol _ => rel_self symbol.type)
    · obtain ⟨nowhere, other⟩ := more.fresh Index.type? (by simp [lookups]) name undeclared gained
      exact .inr ⟨trivial, undeclared, nowhere Index.function? (by simp [lookups]),
        by simpa using other⟩
  function? name _ := by
    rcases eq_or_gained (more.keeps Index.function? (by simp [lookups]) name) with
      same | ⟨undeclared, _⟩
    · rw [same]
      left
      apply rel_same
      intro symbol _
      exact List.forall₂_same.2 fun result _ => rel_self result
    · exact .inr ⟨trivial, undeclared⟩
  binding? := by
    rintro site _ rfl _
    unfold binding?
    cases localBinding? site with
    | some binding => exact .inl (.some (carried_self binding))
    | none =>
      cases declared : index.value? site.node.text with
      | none => exact .inr ⟨trivial, rfl⟩
      | some symbol =>
        rw [more.keeps Index.value? (by simp [lookups]) _ symbol declared]
        exact .inl (.some (carried_self _))

theorem Extends.typeWithin (more : Extends index index') {steps : Nat} {site : Site}
    {info : TypeInfo} (known : typeWithin index steps site = .ok info) :
    typeWithin index' steps site = .ok info :=
  (more.carries.typeWithin steps rfl).eq_ok known

theorem Extends.classOf (more : Extends index index') {site : Site} {typeClass : TypeClass}
    (known : classOf index site = some typeClass) : classOf index' site = some typeClass :=
  (more.carries.typeWithin stepLimit rfl).typeClass? known

/-- Indexes that answer alike extend each other. -/
theorem extends_of_eq (same : ∀ lookup ∈ lookups, lookup index' = lookup index) :
    Extends index index' where
  keeps lookup mem name symbol found := by rw [same lookup mem, found]
  fresh lookup mem name undeclared gained := by
    rw [same lookup mem, undeclared] at gained
    cases gained

theorem classOf_eq_of_lookups (same : ∀ lookup ∈ lookups, lookup index' = lookup index)
    (site : Site) : classOf index' site = classOf index site := by
  have forth := extends_of_eq same
  have back := extends_of_eq fun lookup mem => (same lookup mem).symm
  cases known : classOf index site with
  | some typeClass => exact forth.classOf known
  | none =>
    cases gained : classOf index' site with
    | none => rfl
    | some typeClass =>
      rw [back.classOf gained] at known
      cases known

end Types

section Appending

variable {symbols further : List Symbol}

theorem find?_append (kinds : List SymbolKind) (symbols further : List Symbol) (name : String) :
    Index.find? kinds ⟨symbols ++ further⟩ name =
      (Index.find? kinds ⟨symbols⟩ name).or (Index.find? kinds ⟨further⟩ name) :=
  List.find?_append

theorem find?_of_mem_lookups {lookup : Index → String → Option Symbol} (mem : lookup ∈ lookups) :
    ∃ kinds, SymbolKind.method ∉ kinds ∧ lookup = Index.find? kinds := by
  simp only [lookups, List.mem_cons, List.not_mem_nil, or_false] at mem
  rcases mem with rfl | rfl | rfl
  · exact ⟨[.type], by decide, rfl⟩
  · exact ⟨[.variable, .constant], by decide, rfl⟩
  · exact ⟨[.function], by decide, rfl⟩

/-- Further symbols whose names are new only add to an index. -/
theorem extends_append
    (fresh : ∀ symbol ∈ further, (∀ lookup ∈ lookups, lookup ⟨symbols⟩ symbol.name = none) ∧
      symbol.name ∉ predeclaredTypes) : Extends ⟨symbols⟩ ⟨symbols ++ further⟩ where
  keeps lookup mem name symbol found := by
    obtain ⟨kinds, _, rfl⟩ := find?_of_mem_lookups mem
    rw [find?_append, found, Option.some_or]
  fresh lookup mem name undeclared gained := by
    obtain ⟨kinds, _, rfl⟩ := find?_of_mem_lookups mem
    rw [find?_append, undeclared, Option.none_or, Option.isSome_iff_exists] at gained
    obtain ⟨symbol, found⟩ := gained
    have named := List.find?_some found
    rw [Bool.and_eq_true, beq_iff_eq] at named
    rw [← named.2]
    exact fresh symbol (List.mem_of_find?_eq_some found)

/-- Methods are not found by their names. -/
theorem lookup_append_methods (methods : ∀ symbol ∈ further, symbol.kind = .method)
    {lookup : Index → String → Option Symbol} (mem : lookup ∈ lookups) :
    lookup ⟨symbols ++ further⟩ = lookup ⟨symbols⟩ := by
  obtain ⟨kinds, values, rfl⟩ := find?_of_mem_lookups mem
  funext name
  have nothing : Index.find? kinds ⟨further⟩ name = none := by
    rw [Index.find?, List.find?_eq_none]
    intro symbol listed
    simp [methods symbol listed, values]
  rw [find?_append, nothing, Option.or_none]

theorem methods_append (symbols further : List Symbol) :
    Index.methods ⟨symbols ++ further⟩ = Index.methods ⟨symbols⟩ ++ Index.methods ⟨further⟩ :=
  List.filter_append ..

end Appending

section Reports

variable {index index' : Index}

theorem fileDiagnostics_sublist
    (more : ∀ access : Site, (verdict index access).isReported = true →
      (verdict index' access).isReported = true) (file : SourceFile) :
    (fileDiagnostics index file).Sublist (fileDiagnostics index' file) := by
  rw [fileDiagnostics_eq_reported, fileDiagnostics_eq_reported]
  apply List.Sublist.map
  apply List.monotone_filter_right
  intro access both
  rw [Bool.and_eq_true] at both ⊢
  exact ⟨both.1, more access both.2⟩

theorem hasMethod_eq_any (index : Index) (type method : String) (parameters results : List String) :
    index.hasMethod type method parameters results = (methodsOf index type).any fun symbol =>
      symbol.name == method && symbol.parameters.map Parameter.type == parameters.map some &&
        symbol.results == results := by
  rw [methodsOf, List.any_filter, Index.hasMethod]
  simp only [Bool.and_assoc]

theorem isGuard_eq_of_methods (same : ∀ type, methodsOf index' type = methodsOf index type) :
    isGuard index' = isGuard index := by
  apply isGuard_of_isSortable
  funext type
  simp only [Index.isSortable, hasMethod_eq_any, same]

/-- More declarations only add knowledge: every known type stays the same, every access that was
reported still is, and what is reported in addition indexes a container that was unknown. -/
theorem reported_of_extends (more : Extends index index')
    (same : ∀ type, methodsOf index' type = methodsOf index type) :
    (∀ limit depth site info, typeAt index limit depth site = .ok info →
        typeAt index' limit depth site = .ok info) ∧
      ∀ file : SourceFile,
        (fileDiagnostics index file).Sublist (fileDiagnostics index' file) ∧
          ∀ access ∈ file.root.accesses, (verdict index' access).isReported = true →
            (verdict index access).isReported = false →
              access.node.kind = .indexExpression ∧
                ∃ container, access.child? .operand = some container ∧
                  ∃ cause, typeOf index container = .error cause := by
  refine ⟨?_, fun file => ⟨fileDiagnostics_sublist ?_ file, ?_⟩⟩
  · intro limit depth site info known
    rw [typeAt_eq_typeWithin] at known ⊢
    exact more.typeWithin known
  · intro access reported
    obtain ⟨operand, ⟨here, plain, checked⟩, unguarded⟩ := isReported_verdict_iff.1 reported
    refine isReported_verdict_iff.2 ⟨operand, ⟨here, plain, ?_⟩, ?_⟩
    · exact checked.imp_right fun ⟨indexes, known⟩ => ⟨indexes, known.imp more.classOf more.classOf⟩
    · intro node around guards
      refine unguarded node around (isGuard_iff.1 ?_)
      rw [← isGuard_eq_of_methods same]
      exact isGuard_iff.2 guards
  · intro access _ reported silent
    obtain ⟨operand, ⟨here, plain, checked⟩, unguarded⟩ := isReported_verdict_iff.1 reported
    have unchecked : ¬ Checked index access operand := by
      intro checked
      have stays : (verdict index access).isReported = true := by
        refine isReported_verdict_iff.2 ⟨operand, checked, fun node around guards => ?_⟩
        refine unguarded node around (isGuard_iff.1 ?_)
        rw [isGuard_eq_of_methods same]
        exact isGuard_iff.2 guards
      rw [silent] at stays
      cases stays
    rcases checked with slices | ⟨indexes, positional⟩
    · exact absurd ⟨here, plain, .inl slices⟩ unchecked
    · refine ⟨indexes, operand, here, ?_⟩
      cases known : typeOf index operand with
      | error cause => exact ⟨cause, rfl⟩
      | ok info =>
        -- The class that is known now is the one of the larger index.
        have before : classOf index operand = some info.typeClass := by
          rw [Typing.classOf, known]
          rfl
        rw [more.classOf before, ← before] at positional
        exact absurd ⟨here, plain, .inr ⟨indexes, positional⟩⟩ unchecked

/-- A function that indexes a variable of another file. -/
def indexingFile : SourceFile :=
  fileOf "a.go" "package p\nfunc f(y []int) int \x7b return x[0] + y[1] \x7d\n".toUTF8

/-- The file that declares the variable. -/
def variableFile : SourceFile :=
  fileOf "b.go" "package p\nvar x []int\n".toUTF8

/-- The access to the variable is reported once its file is known. -/
theorem reported_of_variable :
    fileDiagnostics (Index.ofFiles [indexingFile]) indexingFile = [⟨"a.go", 2, 37⟩] ∧
      fileDiagnostics (Index.ofFiles [indexingFile, variableFile]) indexingFile =
        [⟨"a.go", 2, 30⟩, ⟨"a.go", 2, 37⟩] ∧
      (fileDiagnostics (Index.ofFiles [indexingFile]) indexingFile).Sublist
        (fileDiagnostics (Index.ofFiles [indexingFile, variableFile]) indexingFile) := by
  have files : Index.ofFiles [indexingFile, variableFile] =
      ⟨(Index.ofFiles [indexingFile]).symbols ++ symbols variableFile.path variableFile.root⟩ := by
    simp [Index.ofFiles]
  have fresh : ∀ symbol ∈ symbols variableFile.path variableFile.root,
      (∀ lookup ∈ lookups, lookup (Index.ofFiles [indexingFile]) symbol.name = none) ∧
        symbol.name ∉ predeclaredTypes := by
    decide +kernel
  have methods : Index.methods ⟨symbols variableFile.path variableFile.root⟩ = [] := by
    decide +kernel
  have whole := reported_of_extends (extends_append fresh) (by
    intro type
    rw [methodsOf, methodsOf, methods_append, methods, List.append_nil])
  refine ⟨by decide +kernel, by decide +kernel, ?_⟩
  rw [files]
  exact (whole.2 indexingFile).1

section Methods

variable (more : ∀ method ∈ index.methods, ∃ other ∈ index'.methods, SameSignature method other)

include more

theorem hasMethod_mono {type method : String} {parameters results : List String}
    (has : index.hasMethod type method parameters results = true) :
    index'.hasMethod type method parameters results = true := by
  rw [Index.hasMethod, List.any_eq_true] at has ⊢
  obtain ⟨symbol, mem, fits⟩ := has
  obtain ⟨other, mem', same⟩ := more symbol mem
  refine ⟨other, mem', ?_⟩
  rw [same.receiver, same.name, same.parameters, same.results]
  exact fits

theorem sortable_mono {type : String} (sortable : Sortable index type) : Sortable index' type :=
  ⟨hasMethod_mono more sortable.1, hasMethod_mono more sortable.2.1,
    hasMethod_mono more sortable.2.2⟩

theorem guards_mono {name : String} {access node : Node} (guards : Guards index name access node) :
    Guards index' name access node := by
  cases guards with
  | length kind here checks => exact .length kind here checks
  | range kind indexed here ranges => exact .range kind indexed here ranges
  | sorting kind indexed named which receiver sortable here member declares =>
    exact .sorting kind indexed named which receiver (sortable_mono more sortable) here member
      declares

end Methods

/-- A node that guards only in the second index is a comparison or exchange method of a type that is
sortable only there, and the access indexes with one of its parameters. -/
theorem method_of_gained_guard {name : String} {access node : Node}
    (guards : Guards index' name access node) (unguarded : ¬ Guards index name access node) :
    ∃ key, IndexedBy access key ∧ node.kind = .methodDeclaration ∧
      nameText node ∈ ["Less", "Swap"] ∧ key ∈ parameterNames (node.child? .parameters) ∧
      ∃ type, receiverName node = some type ∧ Sortable index' type ∧ ¬ Sortable index type := by
  cases guards with
  | length kind here checks => exact absurd (.length kind here checks) unguarded
  | range kind indexed here ranges => exact absurd (.range kind indexed here ranges) unguarded
  | sorting kind indexed named which receiver sortable here member declares =>
    refine ⟨_, indexed, kind, ?_, ?_, _, receiver, sortable, fun before => unguarded ?_⟩
    · simpa [nameText, named] using which
    · simp only [parameterNames, here, Option.map_some, Option.getD_some]
      exact List.mem_flatMap.2 ⟨_, member, declares⟩
    · exact .sorting kind indexed named which receiver before here member declares

/-- More methods only silence accesses, and only those that index with a parameter of a comparison
or exchange method of a type that becomes sortable. -/
theorem silenced_of_more_methods (same : ∀ lookup ∈ lookups, lookup index' = lookup index)
    (more : ∀ method ∈ index.methods, ∃ other ∈ index'.methods, SameSignature method other)
    (file : SourceFile) :
    (fileDiagnostics index' file).Sublist (fileDiagnostics index file) ∧
      ∀ access ∈ file.root.accesses, (verdict index access).isReported = true →
        (verdict index' access).isReported = false →
          ∃ key, IndexedBy access.node key ∧
            ∃ method ∈ access.above, method.kind = .methodDeclaration ∧
              nameText method ∈ ["Less", "Swap"] ∧
              key ∈ parameterNames (method.child? .parameters) ∧
              ∃ type, receiverName method = some type ∧
                index'.isSortable type = true ∧ index.isSortable type = false := by
  have checked (access operand : Site) : Checked index' access operand ↔
      Checked index access operand := by
    rw [Checked, Checked, classOf_eq_of_lookups same]
  refine ⟨fileDiagnostics_sublist ?_ file, ?_⟩
  · intro access reported
    obtain ⟨operand, here, unguarded⟩ := isReported_verdict_iff.1 reported
    refine isReported_verdict_iff.2 ⟨operand, (checked access operand).1 here, ?_⟩
    exact fun node around guards => unguarded node around (guards_mono more guards)
  · intro access _ reported silent
    obtain ⟨operand, here, unguarded⟩ := isReported_verdict_iff.1 reported
    have guarded : ∃ node ∈ access.above, Guards index' operand.node.text access.node node := by
      by_contra none
      have stays : (verdict index' access).isReported = true :=
        isReported_verdict_iff.2 ⟨operand, (checked access operand).2 here,
          fun node around guards => none ⟨node, around, guards⟩⟩
      rw [silent] at stays
      cases stays
    obtain ⟨method, around, guards⟩ := guarded
    obtain ⟨key, indexed, kind, named, parameter, type, receiver, sortable, unsortable⟩ :=
      method_of_gained_guard guards (unguarded method around)
    exact ⟨key, indexed, method, around, kind, named, parameter, type, receiver,
      isSortable_iff.2 sortable, Bool.eq_false_iff.2 (unsortable ∘ isSortable_iff.1)⟩

/-- A type with a length and a comparison, but without an exchange. -/
def comparingFile : SourceFile :=
  fileOf "a.go" ("package p\ntype s []int\nfunc (x s) Len() int \x7b return 2 \x7d\n" ++
    "func (x s) Less(i, j int) bool \x7b return x[i] < x[0] \x7d\n").toUTF8

/-- The file that declares the exchange. -/
def exchangeFile : SourceFile :=
  fileOf "b.go" "package p\nfunc (x s) Swap(i, j int) \x7b \x7d\n".toUTF8

/-- The exchange makes the type sortable and silences the access by a parameter alone. -/
theorem silenced_of_exchange :
    fileDiagnostics (Index.ofFiles [comparingFile]) comparingFile =
        [⟨"a.go", 4, 41⟩, ⟨"a.go", 4, 48⟩] ∧
      fileDiagnostics (Index.ofFiles [comparingFile, exchangeFile]) comparingFile =
        [⟨"a.go", 4, 48⟩] ∧
      (fileDiagnostics (Index.ofFiles [comparingFile, exchangeFile]) comparingFile).Sublist
        (fileDiagnostics (Index.ofFiles [comparingFile]) comparingFile) := by
  have files : Index.ofFiles [comparingFile, exchangeFile] =
      ⟨(Index.ofFiles [comparingFile]).symbols ++ symbols exchangeFile.path exchangeFile.root⟩ := by
    simp [Index.ofFiles]
  have methods : ∀ symbol ∈ symbols exchangeFile.path exchangeFile.root, symbol.kind = .method := by
    decide +kernel
  refine ⟨by decide +kernel, by decide +kernel, ?_⟩
  rw [files]
  refine (silenced_of_more_methods (fun lookup => lookup_append_methods methods) ?_
    comparingFile).1
  intro method mem
  refine ⟨method, ?_, rfl, rfl, rfl, rfl⟩
  rw [methods_append]
  exact List.mem_append_left _ mem

end Reports

end SliceGuard.Check
