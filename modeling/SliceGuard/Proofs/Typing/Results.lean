import SliceGuard.Proofs.Declarations.Signatures
import SliceGuard.Proofs.Typing.GivenTypes

/-!
# Results of functions

The variables that share a call of a function are typed by its results, in order.  The texts that
the symbol of the function shows for its results are those of the types, place by place, because a
signature is flattened in one way for all of its readers.
-/

namespace SliceGuard.Typing

open Syntax (Node Site)
open Syntax.Node (typeNamed)
open Declarations

/-- What a declaration says of a name: in the scope that it stands in, or through a symbol that it
introduces into the package. -/
inductive Binds (declaration : Site) (name : String) : Binding → Prop
  | inside {binding : Binding} (found : statementBinding? declaration name = some binding) :
      Binds declaration name binding
  | package {file : String} {symbol : Symbol} (kind : declaration.node.kind = .varDeclaration)
      (introduced : symbol ∈ declarationSymbols file declaration) (titled : symbol.name = name) :
      Binds declaration name (symbolBinding symbol)

/-- A call of a function by its name, with or without parentheses around it. -/
def CallsByName (value : Site) (title : String) : Prop :=
  ∃ call function, innerSite value value.node.size = some call ∧ Calls call function ∧
    function.kind = .identifier ∧ function.text = title

/-- What is known of the result at a position: what is underlying the type there, which has the text
that the symbol shows, or nothing if there is no such result. -/
def TypedByResult (index : Index) (symbol : Symbol) (position : Nat) (known : Knowledge) : Prop :=
  (∃ type, (resultTypeNodes symbol.type)[position]? = some type ∧
    symbol.results[position]? = some (writtenText type) ∧ known = underlying index type) ∨
  symbol.results.length ≤ position ∧ known = .error .untyped

section Shared

variable {declaration value : Site} {name title : String} {position : Nat}

/-- A name that is declared once is said to have its share of the value. -/
theorem Binds.eq_shared {binding : Binding} (binds : Binds declaration name binding)
    (shares : SharesValue (.statement declaration) name value position)
    (once : (Declaration.statement declaration).names.count name ≤ 1) :
    binding = .initialized (.shared value position) := by
  cases binds with
  | inside found => exact (declares_of_statementBinding? found).unique once shares.declares
  | package kind introduced titled =>
    obtain ⟨spec, listed, place, here, reads⟩ := exists_of_mem_declarationSymbols kind introduced
    rw [titled] at here
    have tells := Declaration.Declares.value kind listed here
    exact reads.trans (tells.unique once shares.declares)

/-- A variable that shares a value is introduced into the package, where it is declared there. -/
theorem exists_symbol_of_shares (shares : SharesValue (.statement declaration) name value position)
    (kind : declaration.node.kind = .varDeclaration) (file : String) :
    ∃ symbol ∈ declarationSymbols file declaration, symbol.name = name := by
  cases shares with
  | short isShort => simp [kind] at isShort
  | @spec _ spec _ _ _ _ mem untyped only several here =>
    rw [declaredNames, List.getElem?_map, Option.map_eq_some_iff] at here
    obtain ⟨title, placed, rfl⟩ := here
    have paired := List.mk_mem_zipIdx_iff_getElem?.2 placed
    simp only [declarationSymbols, kind, List.mem_flatMap]
    exact ⟨_, ⟨spec, mem, List.mem_map_of_mem paired⟩, rfl⟩

/-- A share of a call has the type of the result at its position. -/
theorem shareType_typedByResult {index : Index} {symbol : Symbol} (calls : CallsByName value title)
    (found : index.function? title = some symbol)
    (aligned : symbol.results = (resultTypeNodes symbol.type).map writtenText) (follow : Follow) :
    TypedByResult index symbol position (shareType index follow value position) := by
  obtain ⟨call, function, inner, isCall, plain, rfl⟩ := calls
  have reads : shareType index follow value position = resultAt index call.node position := by
    simp only [shareType, inner, isCall.kind]
  rw [reads, resultAt]
  simp only [isCall.called, plain, beq_self_eq_true, if_true, found]
  cases here : (resultTypeNodes symbol.type)[position]? with
  | some type => exact .inl ⟨type, here, by rw [aligned, List.getElem?_map, here]; rfl, rfl⟩
  | none =>
    refine .inr ⟨?_, rfl⟩
    rw [aligned, List.length_map]
    exact List.getElem?_eq_none_iff.1 here

end Shared

/-- The names, type texts and types of a signature are flattened alike.  A list of parameters has a
type text for each name of each declaration, and for each declaration without a name, so that there
are as many names as types exactly if all declarations have names.  A method then shows each name
with the type of its declaration, and otherwise the types alone.  The texts of results are those of
their types, so the names that share a call are typed by the results that the symbol shows. -/
theorem signatures_aligned (files : List SourceFile) :
    (∀ list : Node,
      (∃ entries, Entries list.children entries ∧
        parameterTypes (some list) = entries.map typeText) ∧
      ((parameterTypes (some list)).length = (parameterNames (some list)).length ↔
        AllNamed list)) ∧
    (∀ file ∈ files, ∀ symbol ∈ symbols file.path file.root, symbol.kind = .method →
      ∃ method ∈ file.root.children, method.kind = .methodDeclaration ∧
        methodSymbol file.path method = symbol ∧
        ∀ list, method.child? .parameters = some list →
          (AllNamed list →
            symbol.parameters = (parameterDeclarations list).flatMap ownParameters) ∧
          (¬ AllNamed list → symbol.parameters =
            (parameterTypes (some list)).map fun type => ⟨"", some type⟩)) ∧
    (∀ result : Node, NoneVariadic result →
      resultTypes (some result) = (resultTypeNodes (some result)).map writtenText) ∧
    ∀ title symbol, (Index.ofFiles files).function? title = some symbol →
      (∀ result, symbol.type = some result → NoneVariadic result) →
      ∀ value, CallsByName value title →
      ∀ declaration name position, IsTarget (.statement declaration) name value position →
        Uncommented (.statement declaration) →
        (Declaration.statement declaration).names.count name ≤ 1 →
        (statementBinding? declaration name).isSome = true ∧
        (declaration.node.kind = .varDeclaration →
          ∀ file, ∃ symbol ∈ declarationSymbols file declaration, symbol.name = name) ∧
        ∀ binding, Binds declaration name binding → ∀ follow,
          TypedByResult (Index.ofFiles files) symbol position
            (bindingType (Index.ofFiles files) follow binding) := by
  refine ⟨fun list => ⟨⟨_, entries_iff.2 rfl, parameterTypes_eq list⟩,
    length_parameterTypes_eq_iff list⟩, fun file _ symbol mem isMethod => ?_,
    fun result plain => resultTypes_eq plain, ?_⟩
  · obtain ⟨method, inside, kind, rfl⟩ := mem_symbols_method_iff.1 ⟨mem, isMethod⟩
    refine ⟨method, inside, kind, rfl, fun list here => ⟨fun named => ?_, fun unnamed => ?_⟩⟩
    · rw [methodSymbol, here]
      exact methodParameters_of_allNamed named
    · rw [methodSymbol, here]
      exact methodParameters_of_not_allNamed unnamed
  · intro title symbol found plain value calls declaration name position takes uncommented once
    have shares := takes.sharesValue uncommented
    refine ⟨statementBinding?_isSome shares.declares, exists_symbol_of_shares shares,
      fun binding binds follow => ?_⟩
    rw [binds.eq_shared shares once]
    exact shareType_typedByResult calls found (results_of_function? found plain) follow

/-- The method `func (s) weigh(i, j int, by row) int`. -/
def weighMethod : Node :=
  methodOf (typeNamed none "s") "weigh"
    [parameterGroup ["i", "j"] "int", comma, parameterGroup ["by"] "row"]
    (typeNamed none "int")

/-- The results `(a, b int, c row)`. -/
def splitResults : Node :=
  .mk .parameterList (some .result) default "(a, b int, c row)"
    [parameterGroup ["a", "b"] "int", comma, parameterGroup ["c"] "row"]

def splitFunction : Node :=
  .mk .functionDeclaration none default ""
    [.mk .identifier (some .name) default "split" [],
      .mk .parameterList (some .parameters) default "()" [], splitResults]

def splitRoot : Node :=
  .mk .sourceFile none default "" [splitFunction, weighMethod]

def splitFiles : List SourceFile :=
  [⟨"p.go", 0, splitRoot⟩]

/-- The call `split()`. -/
def splitCall : Node :=
  .mk .callExpression none default "split()"
    [.mk .identifier (some .function) default "split" [],
      .mk .argumentList (some .arguments) default "()" []]

def splitName (name : String) : Node :=
  .mk .identifier none default name []

def splitValues : Node :=
  .mk .expressionList (some .right) default "split()" [splitCall]

/-- The statement `x, y, z := split()`. -/
def splitStatement : Node :=
  .mk .shortVarDeclaration none default "x, y, z := split()"
    [.mk .expressionList (some .left) default "x, y, z"
      [splitName "x", comma, splitName "y", comma, splitName "z"], splitValues]

/-- The last variable has the type of the last result, which is the third one although there are two
groups of results. -/
theorem signatures_splitFiles :
    (methodSymbol "p.go" weighMethod).parameters =
        [⟨"i", some "int"⟩, ⟨"j", some "int"⟩, ⟨"by", some "row"⟩] ∧
      resultTypes (some splitResults) = ["int", "int", "row"] ∧
      ∃ binding, statementBinding? (Site.root splitStatement) "z" = some binding ∧
        ∀ follow, ∃ type, writtenText type = "row" ∧
          bindingType (Index.ofFiles splitFiles) follow binding =
            underlying (Index.ofFiles splitFiles) type := by
  obtain ⟨-, methods, results, shared⟩ := signatures_aligned splitFiles
  have plain : NoneVariadic splitResults := by
    simp [NoneVariadic, splitResults, parameterGroup, comma]
  refine ⟨?_, (results splitResults plain).trans rfl, ?_⟩
  · obtain ⟨mem, isMethod⟩ := (@mem_symbols_method_iff "p.go" splitRoot _).2
      ⟨weighMethod, by simp [splitRoot], rfl, rfl⟩
    obtain ⟨method, inside, kind, same, pairs⟩ := methods _ List.mem_cons_self _ mem isMethod
    obtain rfl : method = weighMethod := by
      rcases List.mem_cons.1 inside with rfl | last
      · cases kind
      · exact List.mem_singleton.1 last
    have named : AllNamed (.mk .parameterList (some .parameters) default ""
        [parameterGroup ["i", "j"] "int", comma, parameterGroup ["by"] "row"]) := by
      unfold AllNamed
      decide
    exact ((pairs _ rfl).1 named).trans rfl
  · have takes : IsTarget (.statement (Site.root splitStatement)) "z"
        (((Site.root splitStatement).below splitValues).below splitCall) 2 :=
      .short rfl rfl (by decide) rfl rfl rfl
    have uncommented : Uncommented (.statement (Site.root splitStatement)) := by
      rintro statement ⟨⟩
      decide
    have calls : CallsByName (((Site.root splitStatement).below splitValues).below splitCall)
        "split" := ⟨_, _, rfl, ⟨rfl, rfl⟩, rfl, rfl⟩
    have single : ∀ result, (functionSymbol "p.go" splitFunction).type = some result →
        NoneVariadic result := by
      rintro result ⟨⟩
      exact plain
    obtain ⟨isBound, _, typed⟩ := shared "split" _ rfl single _ calls _ "z" 2 takes
      uncommented (by decide)
    obtain ⟨binding, found⟩ := Option.isSome_iff_exists.1 isBound
    refine ⟨binding, found, fun follow => ?_⟩
    rcases typed binding (.inside found) follow with ⟨type, _, shown, known⟩ | ⟨beyond, _⟩
    · exact ⟨type, (Option.some.inj shown).symm, known⟩
    · exact absurd beyond (by decide)

/-- A file with three targets of a call, and what stands between the first two. -/
def threeTargets (between : String) : String :=
  "package p\n\nfunc f() (int, map[int]int, []int)\n\nfunc g() int \x7b\n\tn," ++ between ++
    "m, s := f()\n\treturn m[n] + s[n]\n\x7d\n"

/-- The texts of the results of the functions of a file. -/
def shownResults (file : SourceFile) : List (List String) :=
  ((symbols file.path file.root).filter (·.kind == .function)).map Symbol.results

/-- A comment after the first target moves the others by one place, so that the second target is
typed by the third result, and the third one by none. -/
theorem comment_moves_targets :
    (SourceFile.parse? "p.go" (threeTargets " /* of */ ").toUTF8).map
        (fun file => (shownResults file, accessedClasses file)) =
          some ([["int", "map[int]int", "[]int"], ["int"]], [some .slice, none]) ∧
      (SourceFile.parse? "p.go" (threeTargets " ").toUTF8).map
        (fun file => (shownResults file, accessedClasses file)) =
          some ([["int", "map[int]int", "[]int"], ["int"]], [some .map, some .slice]) := by
  decide +kernel

end SliceGuard.Typing
