import SliceGuard.Declarations.Symbol
import SliceGuard.Syntax.Source

/-!
# The index of a package

All symbols of the files of a package, in order.  Of several declarations of a name the first one
counts, and types, values, functions and methods are kept apart.
-/

namespace SliceGuard.Declarations

/-- The symbols of a package. -/
structure Index where
  symbols : List Symbol
deriving Repr, Inhabited

namespace Index

def ofFiles (files : List SourceFile) : Index :=
  ⟨files.flatMap fun file => Declarations.symbols file.path file.root⟩

/-- The first symbol of some kinds with a name. -/
def find? (kinds : List SymbolKind) (index : Index) (name : String) : Option Symbol :=
  index.symbols.find? fun symbol => kinds.contains symbol.kind && symbol.name == name

def type? (index : Index) (name : String) : Option Symbol :=
  index.find? [.type] name

def value? (index : Index) (name : String) : Option Symbol :=
  index.find? [.variable, .constant] name

def function? (index : Index) (name : String) : Option Symbol :=
  index.find? [.function] name

def typeNames (index : Index) : List String :=
  (index.symbols.filter (·.kind == .type)).map Symbol.name

theorem mem_typeNames_of_type? {index : Index} {name : String} {symbol : Symbol}
    (found : index.type? name = some symbol) : name ∈ index.typeNames := by
  have member := List.mem_of_find?_eq_some found
  have holds := List.find?_some found
  simp only [List.contains_cons, List.contains_nil, Bool.or_false, Bool.and_eq_true,
    beq_iff_eq] at holds
  exact List.mem_map.2 ⟨symbol, List.mem_filter.2 ⟨member, by simp [holds.1]⟩, holds.2⟩

/-- All methods with a receiver type. -/
def methods (index : Index) : List Symbol :=
  index.symbols.filter fun symbol => symbol.kind == .method && symbol.receiver != ""

/-- Whether a type has a method of exactly these parameter and result types. -/
def hasMethod (index : Index) (type method : String) (parameters results : List String) : Bool :=
  index.methods.any fun symbol =>
    symbol.receiver == type && symbol.name == method &&
      symbol.parameters.map Parameter.type == parameters.map some && symbol.results == results

/-- Whether a type can be sorted: it has a length, a comparison and an exchange by positions. -/
def isSortable (index : Index) (type : String) : Bool :=
  index.hasMethod type "Len" [] ["int"] && index.hasMethod type "Less" ["int", "int"] ["bool"] &&
    index.hasMethod type "Swap" ["int", "int"] []

/-- The types that have methods, in order of their first method, with the names of the methods. -/
def methodTable (index : Index) : List (String × List String) :=
  (index.methods.map Symbol.receiver).eraseDups.map fun type =>
    (type, (index.methods.filter (·.receiver == type)).map Symbol.name)

end Index

end SliceGuard.Declarations
