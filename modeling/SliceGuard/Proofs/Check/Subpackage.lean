import SliceGuard.Proofs.Check.Versions

/-!
# Packages inside of other packages

Some of the files of a package are checked by themselves, or together with all others.  Where both
indexes answer alike for the names that stand in the files, the search for a type never leaves them,
and the same accesses are reported.
-/

namespace SliceGuard.Check

open Syntax (Kind Matching Node Role Site)
open Syntax.Node (Asks Rewritten noEdit)
open Declarations
open Typing

/-- The names that stand in some files. -/
def Mentions (files : List SourceFile) (name : String) : Prop :=
  ∃ file ∈ files, ∃ site ∈ file.root.sites, site.node.isName = true ∧ site.node.text = name

/-- Indexes that answer alike for some names. -/
structure Agree (names : String → Prop) (index index' : Index) : Prop where
  type? : ∀ name, names name → index'.type? name = index.type? name
  value? : ∀ name, names name → index'.value? name = index.value? name
  function? : ∀ name, names name → index'.function? name = index.function? name
  isSortable : ∀ name, names name → index'.isSortable name = index.isSortable name

section Agreement

variable {files : List SourceFile} {keeps : SourceFile → Bool} {names : String → Prop}

/-- What is looked for is found in the files that are kept, if none of the others declares it. -/
theorem find?_symbols_filter {wanted : Symbol → Bool}
    (others : ∀ file ∈ files, keeps file = false →
      ∀ symbol ∈ symbols file.path file.root, wanted symbol = false) :
    (Index.ofFiles files).symbols.find? wanted =
      (Index.ofFiles (files.filter keeps)).symbols.find? wanted := by
  unfold Index.ofFiles
  dsimp only
  induction files with
  | nil => rfl
  | cons file files ih =>
    have rest := ih fun other mem => others other (List.mem_cons_of_mem _ mem)
    cases kept : keeps file with
    | true =>
      rw [List.filter_cons_of_pos kept, List.flatMap_cons, List.flatMap_cons, List.find?_append,
        List.find?_append, rest]
    | false =>
      have nothing : (symbols file.path file.root).find? wanted = none :=
        List.find?_eq_none.2 fun symbol mem => by
          simp [others file List.mem_cons_self kept symbol mem]
      rw [List.filter_cons_of_neg (by simp [kept]), List.flatMap_cons, List.find?_append, nothing,
        Option.none_or, rest]

/-- Files that declare none of the names, and no method of a type among them, do not matter. -/
theorem agree_of_undeclared
    (others : ∀ file ∈ files, keeps file = false → ∀ symbol ∈ symbols file.path file.root,
      ¬ names (if symbol.kind = .method then symbol.receiver else symbol.name)) :
    Agree names (Index.ofFiles (files.filter keeps)) (Index.ofFiles files) := by
  -- Methods are looked up by the type of their receiver, and all else by name.
  have found (kinds : List SymbolKind) (values : SymbolKind.method ∉ kinds) (name : String)
      (asked : names name) :
      (Index.ofFiles files).find? kinds name =
        (Index.ofFiles (files.filter keeps)).find? kinds name := by
    apply find?_symbols_filter
    intro file mem left symbol listed
    by_cases isMethod : symbol.kind = .method
    · simp [isMethod, values]
    · have unasked := others file mem left symbol listed
      rw [if_neg isMethod] at unasked
      have other : symbol.name ≠ name := fun same => unasked (same ▸ asked)
      rw [beq_false_of_ne other, Bool.and_false]
  have methods (type method : String) (parameters results : List String) (asked : names type) :
      (Index.ofFiles files).hasMethod type method parameters results =
        (Index.ofFiles (files.filter keeps)).hasMethod type method parameters results := by
    rw [Index.hasMethod, Index.hasMethod, Index.methods, Index.methods, List.any_filter,
      List.any_filter, ← List.isSome_find?, ← List.isSome_find?]
    apply congrArg Option.isSome
    apply find?_symbols_filter
    intro file mem left symbol listed
    by_cases isMethod : symbol.kind = .method
    · have unasked := others file mem left symbol listed
      rw [if_pos isMethod] at unasked
      have other : symbol.receiver ≠ type := fun same => unasked (same ▸ asked)
      simp [other]
    · rw [beq_false_of_ne isMethod, Bool.false_and, Bool.false_and]
  refine ⟨found [.type] (by decide), found [.variable, .constant] (by decide),
    found [.function] (by decide), fun name asked => ?_⟩
  rw [Index.isSortable, Index.isSortable, methods _ _ _ _ asked, methods _ _ _ _ asked,
    methods _ _ _ _ asked]

end Agreement

/-- The sites of some files, each one related to itself. -/
def Here (files : List SourceFile) (old new : Site) : Prop :=
  new = old ∧ ∃ file ∈ files, Site.Within file.root old

section Sites

variable {files : List SourceFile}

theorem asks_of_within {file : SourceFile} (mem : file ∈ files) {site : Site}
    (within : Site.Within file.root site) : Asks (Mentions files) site.node := by
  induction within with
  | root =>
    exact Node.asks_of_sites fun site inside isName => ⟨file, mem, site, inside, isName, rfl⟩
  | step _ child ih => exact ih.child child

theorem rewritten_of_within {file : SourceFile} (mem : file ∈ files) {site : Site}
    (within : Site.Within file.root site) :
    Rewritten (Mentions files) noEdit site.node site.node :=
  .of_bare (asks_of_within mem within) rfl

theorem children_here {file : SourceFile} (mem : file ∈ files) {site : Site}
    (within : Site.Within file.root site) :
    List.Forall₂ (Here files) site.children site.children := by
  rw [List.forall₂_same]
  intro part inside
  obtain ⟨child, listed, rfl⟩ := List.mem_map.1 inside
  exact ⟨rfl, file, mem, .step within listed⟩

theorem matching_here : Matching (Mentions files) noEdit (Here files) where
  node := by
    rintro old _ ⟨rfl, file, mem, within⟩
    exact rewritten_of_within mem within
  step := by
    rintro old _ ⟨rfl, file, mem, within⟩
    exact .inr (children_here mem within)

/-- Whatever a climb ends at stands in the same file. -/
theorem climb_here {name : String} (asked : Mentions files name) {file : SourceFile}
    (mem : file ∈ files) {site : Site} (within : Site.Within file.root site) :
    Option.Rel (Binding.Matched (Mentions files) noEdit (Here files))
      (climb name site.node site.above) (climb name site.node site.above) := by
  induction within with
  | root => exact .none
  | @step node child above outer inside ih =>
    rw [climb_cons]
    refine rel_or (scopeBinding?_matched matching_here asked tells_noEdit rfl ?_) ih
    exact (children_here mem outer).imp fun part _ here =>
      ⟨here, by obtain ⟨rfl, _⟩ := here; exact fun _ => ⟨Iff.rfl, Iff.rfl⟩⟩

/-- The symbols of the files stand for themselves. -/
theorem sameSymbols_self : SameSymbols (Mentions files) noEdit (Here files) (fun _ => false)
    (Index.ofFiles files) (Index.ofFiles files) := by
  apply sameSymbols_ofFiles
  rw [List.forall₂_same]
  intro file mem
  exact symbols_matched (fun _ _ never => never.elim) matching_here (children_here mem .root) _

variable {index : Index}

theorem sameTypes_here (agree : Agree (Mentions files) (Index.ofFiles files) index) :
    SameTypes (Mentions files) noEdit (Index.ofFiles files) index where
  type? name asked := by
    rw [agree.type? name asked]
    exact (sameTypes_of_symbols sameSymbols_self).type? name asked

theorem sameFunction_here (agree : Agree (Mentions files) (Index.ofFiles files) index)
    {name : String} (asked : Mentions files name) :
    SameFunction (Mentions files) noEdit (Index.ofFiles files) index name := by
  rw [SameFunction, agree.function? name asked]
  exact sameFunction_of_symbols (fun _ _ never => never.elim) sameSymbols_self name

/-- An expression of the files has the same class in both indexes. -/
theorem classOf_here (agree : Agree (Mentions files) (Index.ofFiles files) index) {site : Site}
    (here : Here files site site) : classOf index site = classOf (Index.ofFiles files) site := by
  refine Knowledge.Matched.typeClass? (typeWithin_matched matching_here (sameTypes_here agree)
    stepLimit here ?_ fun _ _ _ _ => sameFunction_here agree)
  rintro _ use _ ⟨rfl, file, mem, within⟩ kind
  have asked : Mentions files use.node.text :=
    (asks_of_within mem within).here (by simp [Node.isName, kind])
  refine binding?_matched rfl (climb_here asked mem within) ?_
  rw [agree.value? _ asked]
  exact value?_matched sameSymbols_self rfl

theorem isGuarded_here (agree : Agree (Mentions files) (Index.ofFiles files) index) {site : Site}
    (name : String) {file : SourceFile} (mem : file ∈ files) (within : Site.Within file.root site) :
    isGuarded index name site = isGuarded (Index.ofFiles files) name site := by
  have guards (access : Node) : site.above.any (isGuard index name access) =
      site.above.any (isGuard (Index.ofFiles files) name access) := by
    induction within with
    | root => rfl
    | @step node child above outer inside ih =>
      have here : isGuard index name access node =
          isGuard (Index.ofFiles files) name access node :=
        isGuard_matched (fun _ _ never => never.elim) agree.isSortable
          (rewritten_of_within mem outer) name rfl
      rw [List.any_cons, List.any_cons, ih, here]
  rw [isGuarded_eq_any, isGuarded_eq_any, guards]

/-- The files are reported alike, by themselves or with others. -/
theorem fileDiagnostics_here (agree : Agree (Mentions files) (Index.ofFiles files) index)
    {file : SourceFile} (mem : file ∈ files) :
    fileDiagnostics index file = fileDiagnostics (Index.ofFiles files) file := by
  rw [fileDiagnostics_eq_reported, fileDiagnostics_eq_reported]
  congr 1
  apply List.filter_congr
  intro site inside
  have within := Site.within_of_mem_sites inside
  have reported := isReported_matched matching_here ⟨rfl, file, mem, within⟩
    (fun operand operand' _ here => by
      obtain ⟨rfl, listed⟩ := here
      exact classOf_here agree ⟨rfl, listed⟩)
    (fun _ => false)
    (fun operand _ => by rw [isGuarded_here agree _ mem within, Bool.or_false])
  rw [reported]
  simp

end Sites

end SliceGuard.Check
