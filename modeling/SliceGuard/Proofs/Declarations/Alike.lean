import SliceGuard.Declarations.Index
import SliceGuard.Proofs.Declarations.Relocation
import SliceGuard.Proofs.Syntax.Correspondence

/-!
# Packages with the same declarations

Two sites that stand for one another in two versions of a package have the same tree below them, node
by node, at whatever places.  Symbols are alike if they say the same, apart from the places of their
types and with values that stand for one another.  What is looked up in two indexes of symbols that
are alike is alike.
-/

namespace SliceGuard.Declarations

open Syntax (Kind Node Role Site Span)

section Children

variable {related : Site → Site → Prop} {move : Span → Span} {old new : Site}

theorem child?_of_children (moved : new.node = old.node.relocate move)
    (children : ∀ child ∈ old.node.children,
      related (old.below child) (new.below (child.relocate move))) (role : Role) :
    Option.Rel related (old.child? role) (new.child? role) := by
  rw [Site.child?, Site.child?, moved, Node.child?_relocate]
  cases found : old.node.child? role with
  | none => exact .none
  | some child => exact .some (children child (Node.mem_children_of_child? found))

theorem named_of_children (moved : new.node = old.node.relocate move)
    (children : ∀ child ∈ old.node.children,
      related (old.below child) (new.below (child.relocate move))) :
    List.Forall₂ related old.named new.named := by
  rw [Site.named, Site.named, moved, Node.named_relocate, List.map_map,
    List.forall₂_map_left_iff, List.forall₂_map_right_iff, List.forall₂_same]
  intro child mem
  exact children child (Node.mem_named_iff.1 mem).1

end Children

/-- Related sites have the same tree below them, at whatever places and related node by node. -/
def Parallel (related : Site → Site → Prop) : Prop :=
  ∀ old new, related old new → ∃ move : Span → Span, new.node = old.node.relocate move ∧
    ∀ child ∈ old.node.children, related (old.below child) (new.below (child.relocate move))

namespace Parallel

variable {related : Site → Site → Prop} {old new : Site}

theorem bare (parallel : Parallel related) (here : related old new) :
    new.node.bare = old.node.bare := by
  obtain ⟨move, moved, _⟩ := parallel old new here
  rw [moved, Node.bare_relocate]

theorem kind (parallel : Parallel related) (here : related old new) :
    new.node.kind = old.node.kind := by
  obtain ⟨move, moved, _⟩ := parallel old new here
  rw [moved, Node.kind_relocate]

theorem text (parallel : Parallel related) (here : related old new) :
    new.node.text = old.node.text := by
  obtain ⟨move, moved, _⟩ := parallel old new here
  rw [moved, Node.text_relocate]

theorem child? (parallel : Parallel related) (here : related old new) (role : Role) :
    Option.Rel related (old.child? role) (new.child? role) := by
  obtain ⟨move, moved, children⟩ := parallel old new here
  exact child?_of_children moved children role

theorem named (parallel : Parallel related) (here : related old new) :
    List.Forall₂ related old.named new.named := by
  obtain ⟨move, moved, children⟩ := parallel old new here
  exact named_of_children moved children

end Parallel

/-- Values that stand for one another. -/
inductive Initializer.Alike (related : Site → Site → Prop) : Initializer → Initializer → Prop
  | own {old new : Site} (value : related old new) : Alike related (.own old) (.own new)
  | shared {old new : Site} (value : related old new) (position : Nat) :
      Alike related (.shared old position) (.shared new position)

/-- Symbols that say the same. -/
structure Symbol.Alike (related : Site → Site → Prop) (old new : Symbol) : Prop where
  name : new.name = old.name
  kind : new.kind = old.kind
  type : new.type.map Node.bare = old.type.map Node.bare
  value : Option.Rel (Initializer.Alike related) old.value new.value
  receiver : new.receiver = old.receiver
  parameters : new.parameters = old.parameters
  results : new.results = old.results

/-- Indexes of symbols that say the same. -/
def Index.Alike (related : Site → Site → Prop) (old new : Index) : Prop :=
  List.Forall₂ (Symbol.Alike related) old.symbols new.symbols

/-- A symbol says the same as itself. -/
theorem Symbol.Alike.refl {related : Site → Site → Prop} (self : ∀ site, related site site)
    (symbol : Symbol) : Symbol.Alike related symbol symbol where
  name := rfl
  kind := rfl
  type := rfl
  value := by
    cases symbol.value with
    | none => exact .none
    | some value =>
      cases value with
      | own site => exact .some (.own (self site))
      | shared site position => exact .some (.shared (self site) position)
  receiver := rfl
  parameters := rfl
  results := rfl

namespace Index.Alike

variable {related : Site → Site → Prop} {old new : Index}

theorem refl (self : ∀ site, related site site) (index : Index) :
    Index.Alike related index index :=
  List.forall₂_same.2 fun symbol _ => Symbol.Alike.refl self symbol

theorem find? (alike : Index.Alike related old new) (kinds : List SymbolKind) (name : String) :
    Option.Rel (Symbol.Alike related) (old.find? kinds name) (new.find? kinds name) := by
  apply rel_find? _ alike
  intro symbol other same
  rw [same.kind, same.name]

theorem typeNames (alike : Index.Alike related old new) : new.typeNames = old.typeNames := by
  unfold Index.typeNames
  refine map_eq (fun _ _ same => Symbol.Alike.name same) (forall₂_filter ?_ alike)
  intro symbol other same
  rw [same.kind]

theorem hasMethod (alike : Index.Alike related old new) : new.hasMethod = old.hasMethod := by
  funext type method parameters results
  unfold Index.hasMethod Index.methods
  refine any_eq ?_ (forall₂_filter ?_ alike)
  · intro symbol other same
    rw [same.receiver, same.name, same.parameters, same.results]
  · intro symbol other same
    rw [same.kind, same.receiver]

theorem isSortable (alike : Index.Alike related old new) : new.isSortable = old.isSortable := by
  funext type
  unfold Index.isSortable
  rw [alike.hasMethod]

end Index.Alike

section

variable {related : Site → Site → Prop} {old new : Site}

theorem Parallel.valueSpecs (parallel : Parallel related) (here : related old new) :
    List.Forall₂ related (valueSpecs old) (valueSpecs new) := by
  unfold Declarations.valueSpecs
  apply List.rel_flatMap (parallel.named here)
  intro child other same
  simp only [parallel.kind same]
  split
  · exact .cons same .nil
  · split
    · apply forall₂_filter _ (parallel.named same)
      intro spec another same
      rw [parallel.kind same]
    · exact .nil

theorem Parallel.namedIn (parallel : Parallel related) (here : related old new) (role : Role) :
    List.Forall₂ related (((old.child? role).map Site.named).getD [])
      (((new.child? role).map Site.named).getD []) := by
  generalize first : old.child? role = child, second : new.child? role = other
  have children := parallel.child? here role
  rw [first, second] at children
  cases children with
  | none => exact .nil
  | some same => exact parallel.named same

theorem Parallel.specValues (parallel : Parallel related) (here : related old new) :
    List.Forall₂ related (specValues old) (specValues new) :=
  parallel.namedIn here .value

theorem own_alike {values others : List Site} (all : List.Forall₂ related values others)
    (position : Nat) :
    Option.Rel (Initializer.Alike related) ((values[position]?).map .own)
      ((others[position]?).map .own) := by
  have here := rel_getElem? all position
  generalize first : values[position]? = value, second : others[position]? = other at here
  cases here with
  | none => exact .none
  | some same => exact .some (.own same)

theorem initializer?_alike {values others : List Site}
    (all : List.Forall₂ related values others) (position count : Nat) :
    Option.Rel (Initializer.Alike related) (initializer? values position count)
      (initializer? others position count) := by
  unfold initializer?
  rw [all.length_eq]
  split
  · cases all with
    | nil => exact .none
    | cons here _ => exact .some (.shared here position)
  · split
    · exact own_alike all position
    · exact .none

theorem Parallel.specSymbols (parallel : Parallel related) (here : related old new)
    (file : String) (kind : SymbolKind) :
    List.Forall₂ (Symbol.Alike related) (specSymbols file kind old)
      (specSymbols file kind new) := by
  obtain ⟨move, moved, _⟩ := parallel old new here
  unfold Declarations.specSymbols
  dsimp only
  rw [moved, Node.childrenIn_relocate, List.zipIdx_map, List.map_map, List.length_map,
    List.forall₂_map_left_iff, List.forall₂_map_right_iff, List.forall₂_same]
  intro entry _
  refine ⟨?_, rfl, ?_, ?_, rfl, rfl, rfl⟩
  · simp
  · simp
  · exact initializer?_alike (parallel.specValues here) _ _

theorem functionSymbol_alike {function other : Node} (head : SameHead function other)
    (file : String) :
    Symbol.Alike related (functionSymbol file function) (functionSymbol file other) where
  name := head.nameText
  kind := rfl
  type := head .result (by decide)
  value := .none
  receiver := rfl
  parameters := congrArg (List.map _) head.parameterNames
  results := head.resultTypes

theorem methodSymbol_alike {method other : Node} (head : SameHead method other) (file : String) :
    Symbol.Alike related (methodSymbol file method) (methodSymbol file other) where
  name := head.nameText
  kind := rfl
  type := head .result (by decide)
  value := .none
  receiver := congrArg (Option.getD · "") head.receiverName
  parameters := head.methodParameters
  results := head.resultTypes

theorem Parallel.typeSymbols (parallel : Parallel related) (here : related old new)
    (file : String) :
    List.Forall₂ (Symbol.Alike related) (typeSymbols file old.node)
      (typeSymbols file new.node) := by
  obtain ⟨move, moved, _⟩ := parallel old new here
  unfold Declarations.typeSymbols
  dsimp only
  rw [moved, Node.named_relocate,
    Node.filter_map_relocate move (fun node => by rw [Node.kind_relocate]), List.map_map,
    List.forall₂_map_left_iff, List.forall₂_map_right_iff, List.forall₂_same]
  intro spec _
  have head := SameHead.of_bare (Node.bare_relocate move spec)
  exact ⟨head.nameText, rfl, head .type (by decide), .none, rfl, rfl, rfl⟩

/-- Declarations that stand for one another introduce symbols that are alike. -/
theorem Parallel.declarationSymbols (parallel : Parallel related) (here : related old new)
    (file : String) :
    List.Forall₂ (Symbol.Alike related) (declarationSymbols file old)
      (declarationSymbols file new) := by
  have head := SameHead.of_bare (parallel.bare here)
  unfold Declarations.declarationSymbols
  rw [parallel.kind here]
  split
  · exact .cons (functionSymbol_alike head file) .nil
  · exact .cons (methodSymbol_alike head file) .nil
  · exact parallel.typeSymbols here file
  · exact List.rel_flatMap (parallel.valueSpecs here)
      fun _ _ same => parallel.specSymbols same file .variable
  · exact List.rel_flatMap (parallel.valueSpecs here)
      fun _ _ same => parallel.specSymbols same file .constant
  · exact .nil

end

end SliceGuard.Declarations
