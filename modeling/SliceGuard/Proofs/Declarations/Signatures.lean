import SliceGuard.Proofs.Declarations.MethodLookup

/-!
# Aligned signatures

The names, the type texts and the types of a signature are flattened one by one.  A group without a
name counts for the types and not for the names, so names and types stand side by side exactly where
all groups have names.  The type texts of results stand side by side with the types.
-/

namespace SliceGuard.Declarations

open Syntax (Node)

section Lists

variable {α β γ : Type} {f : α → List β} {g : α → List γ}

theorem length_flatMap_le (fewer : ∀ x, (f x).length ≤ (g x).length) (xs : List α) :
    (xs.flatMap f).length ≤ (xs.flatMap g).length := by
  induction xs with
  | nil => exact Nat.le_refl _
  | cons x xs ih =>
    have first := fewer x
    rw [List.flatMap_cons, List.flatMap_cons, List.length_append, List.length_append]
    omega

/-- Where no part is longer, both lists have the same length only if all parts have. -/
theorem length_flatMap_eq_iff (fewer : ∀ x, (f x).length ≤ (g x).length) (xs : List α) :
    (xs.flatMap g).length = (xs.flatMap f).length ↔
      ∀ x ∈ xs, (g x).length = (f x).length := by
  induction xs with
  | nil => simp
  | cons x xs ih =>
    have first := fewer x
    have others := length_flatMap_le fewer xs
    rw [List.forall_mem_cons, ← ih, List.flatMap_cons, List.flatMap_cons, List.length_append,
      List.length_append]
    omega

/-- Lists with parts of the same lengths are paired part by part. -/
theorem zip_flatMap {xs : List α} (same : ∀ x ∈ xs, (f x).length = (g x).length) :
    (xs.flatMap f).zip (xs.flatMap g) = xs.flatMap fun x => (f x).zip (g x) := by
  induction xs with
  | nil => rfl
  | cons x xs ih =>
    rw [List.forall_mem_cons] at same
    rw [List.flatMap_cons, List.flatMap_cons, List.flatMap_cons, List.zip_append same.1,
      ih same.2]

end Lists

section Parameters

/-- All declarations of a list of parameters have names. -/
def AllNamed (list : Node) : Prop :=
  ∀ declaration ∈ parameterDeclarations list, declaration.childrenIn .name ≠ []

/-- The parameters that a declaration has names for, with its type. -/
def ownParameters (declaration : Node) : List Parameter :=
  (declaredNames declaration).map fun name => ⟨name, some (typeText declaration)⟩

theorem length_declaredNames (declaration : Node) :
    (declaredNames declaration).length = (declaration.childrenIn .name).length :=
  List.length_map _

theorem length_declaredNames_le (declaration : Node) :
    (declaredNames declaration).length ≤ groupSize declaration := by
  rw [length_declaredNames]
  by_cases alone : declaration.childrenIn .name = []
  · simp [alone]
  · exact Nat.le_of_eq (groupSize_of_named alone).symm

/-- A group has an entry without a name only if it has no names. -/
theorem groupSize_eq_length_iff (declaration : Node) :
    groupSize declaration = (declaredNames declaration).length ↔
      declaration.childrenIn .name ≠ [] := by
  rw [length_declaredNames]
  by_cases alone : declaration.childrenIn .name = []
  · simp [groupSize_of_unnamed alone, alone]
  · simp [groupSize_of_named alone, alone]

theorem length_parameterTypes_eq_iff (list : Node) :
    (parameterTypes (some list)).length = (parameterNames (some list)).length ↔
      AllNamed list := by
  simp only [parameterTypes, parameterNames, Option.map_some, Option.getD_some]
  rw [length_flatMap_eq_iff (by simpa using length_declaredNames_le)]
  simp only [List.length_replicate, groupSize_eq_length_iff]
  rfl

/-- Where all declarations have names, the parameters of a method are those of its declarations. -/
theorem methodParameters_of_allNamed {list : Node} (named : AllNamed list) :
    methodParameters (some list) = (parameterDeclarations list).flatMap ownParameters := by
  have sizes : ∀ declaration ∈ parameterDeclarations list,
      groupSize declaration = (declaredNames declaration).length :=
    fun declaration mem => (groupSize_eq_length_iff declaration).2 (named declaration mem)
  have lengths := (length_parameterTypes_eq_iff list).2 named
  unfold methodParameters
  dsimp only
  rw [if_pos lengths.symm]
  simp only [parameterNames, parameterTypes, Option.map_some, Option.getD_some]
  rw [zip_flatMap (by simpa using fun d mem => (sizes d mem).symm), List.map_flatMap]
  refine List.flatMap_congr fun declaration mem => ?_
  rw [sizes declaration mem, length_declaredNames, ← List.map_const', declaredNames, List.zip_map',
    List.map_map, ownParameters, declaredNames, List.map_map]
  rfl

/-- Where some declaration has no name, no name is shown. -/
theorem methodParameters_of_not_allNamed {list : Node} (unnamed : ¬ AllNamed list) :
    methodParameters (some list) =
      (parameterTypes (some list)).map fun type => ⟨"", some type⟩ := by
  unfold methodParameters
  dsimp only
  rw [if_neg fun lengths => unnamed ((length_parameterTypes_eq_iff list).1 lengths.symm)]

end Parameters

section Results

/-- The text of a type, which is empty if there is none. -/
def writtenText (type : Option Node) : String :=
  (type.map Node.text).getD ""

/-- A result without declarations of any number of arguments. -/
def NoneVariadic (result : Node) : Prop :=
  ∀ child ∈ result.children, child.kind ≠ .variadicParameterDeclaration

theorem mem_of_mem_flattened {nodes : List Node} {entry : Node} (mem : entry ∈ flattened nodes) :
    entry ∈ nodes := by
  obtain ⟨declaration, declares, repeated⟩ := List.mem_flatMap.1 mem
  rw [List.eq_of_mem_replicate repeated]
  exact List.mem_of_mem_filter declares

/-- The texts of results are those of their types. -/
theorem resultTypes_eq {result : Node} (plain : NoneVariadic result) :
    resultTypes (some result) = (resultTypeNodes (some result)).map writtenText := by
  by_cases isList : result.kind = .parameterList
  · rw [resultTypeNodes_eq isList plain, List.map_map]
    simp only [resultTypes, isList, beq_self_eq_true, if_true, parameterTypes_eq]
    refine List.map_congr_left fun entry mem => ?_
    have kind := plain entry (mem_of_mem_flattened mem)
    simp [typeText, writtenText, kind]
  · simp [resultTypes, resultTypeNodes, isList, writtenText]

/-- The symbol of a function shows the texts of the results of its declaration. -/
theorem results_of_mem_symbols {file : String} {root : Node} {symbol : Symbol}
    (mem : symbol ∈ symbols file root) (isFunction : symbol.kind = .function) :
    symbol.results = resultTypes symbol.type := by
  rcases mem_symbols_cases mem with ⟨function, _, _, rfl⟩ | ⟨method, _, _, rfl⟩ | ⟨other, _⟩
  · rfl
  · cases isFunction
  · exact absurd isFunction other

/-- The texts that a function of the package shows for its results are those of their types. -/
theorem results_of_function? {files : List SourceFile} {title : String} {symbol : Symbol}
    (found : (Index.ofFiles files).function? title = some symbol)
    (plain : ∀ result, symbol.type = some result → NoneVariadic result) :
    symbol.results = (resultTypeNodes symbol.type).map writtenText := by
  have isFunction := List.find?_some found
  obtain ⟨file, _, mem⟩ := List.mem_flatMap.1 (List.mem_of_find?_eq_some found)
  rw [results_of_mem_symbols mem (by simpa using (Bool.and_eq_true_iff.1 isFunction).1)]
  cases written : symbol.type with
  | none => rfl
  | some result => exact resultTypes_eq (plain result written)

end Results

end SliceGuard.Declarations
