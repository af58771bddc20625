import Mathlib.Data.List.Basic
import SliceGuard.Declarations.Symbol
import SliceGuard.Proofs.Syntax.Layout
import SliceGuard.Proofs.Syntax.TopLevel

/-!
# The names a file declares

The names of a package are declared in few places of a file, which are told apart by the kinds of
the nodes around them.  The symbols of a file are compared with all names that stand in such a place
anywhere in its tree.  Specifications of constants are the exception: there the commas have the role
of names too, and so they are listed as symbols between the names.
-/

namespace SliceGuard.Declarations

open Syntax (Kind Node Site)
open Syntax.Grammar (IsExtra IsTitled IsTopLevel WithCommas IsTypeSpec IsVariableSpec IsVariableList
  IsConstantSpec
  declaringKinds)

/-- Where names are declared: the kinds of the nodes around them, the outermost one first, with what
the names stand for. -/
def declaringPlaces : List (List Kind × SymbolKind) :=
  [([.sourceFile, .functionDeclaration], .function),
   ([.sourceFile, .methodDeclaration], .method),
   ([.sourceFile, .typeDeclaration, .typeSpec], .type),
   ([.sourceFile, .typeDeclaration, .typeAlias], .type),
   ([.sourceFile, .varDeclaration, .varSpec], .variable),
   ([.sourceFile, .varDeclaration, .varSpecList, .varSpec], .variable),
   ([.sourceFile, .constDeclaration, .constSpec], .constant)]

/-- The place inside of nodes, of which the nearest one comes first. -/
def place (around : List Node) : List Kind :=
  (around.map Node.kind).reverse

def isIdentifier (kind : Kind) : Bool :=
  kind == .identifier || kind == .fieldIdentifier || kind == .typeIdentifier

/-- A node in the role of a name, with what is declared in its place. -/
def title? (site : Site) : Option (Node × SymbolKind) :=
  if site.node.plays .name then
    (declaringPlaces.lookup (place site.above)).map fun kind => (site.node, kind)
  else none

/-- All nodes of a tree in the role of a declared name, in document order. -/
def titles (root : Node) : List (Node × SymbolKind) :=
  root.sites.filterMap title?

/-- The identifiers that are declared in a tree, in document order. -/
def declared (root : Node) : List (Node × SymbolKind) :=
  (titles root).filter fun title => isIdentifier title.1.kind

/-- The names of a specification without the signs between them. -/
def specTitles (spec : Node) : List Node :=
  (spec.childrenIn .name).filter fun title => isIdentifier title.kind

/-- What a symbol says of a declared name. -/
def Symbol.shown (symbol : Symbol) : String × SymbolKind :=
  (symbol.name, symbol.kind)

section Places

/-- No name is declared in a place or anywhere inside it. -/
def IsDead (path : List Kind) : Prop :=
  ∀ entry ∈ declaringPlaces, ¬ path <+: entry.1

theorem lookup_of_isDead {path : List Kind} (dead : IsDead path) :
    declaringPlaces.lookup path = none := by
  rw [List.lookup_eq_none_iff]
  intro entry mem
  rw [bne_iff_ne]
  rintro rfl
  exact dead entry mem List.prefix_rfl

theorem IsDead.append {path : List Kind} (dead : IsDead path) (more : List Kind) :
    IsDead (path ++ more) :=
  fun entry mem within => dead entry mem ((List.prefix_append path more).trans within)

theorem place_cons (node : Node) (around : List Node) :
    place (node :: around) = place around ++ [node.kind] := by
  simp [place]

/-- The titles of a node and below it. -/
def titlesFrom (around : List Node) (node : Node) : List (Node × SymbolKind) :=
  (node.preorder around).filterMap title?

theorem titlesFrom_eq (around : List Node) (node : Node) :
    titlesFrom around node =
      (title? ⟨node, around⟩).toList ++ node.children.flatMap (titlesFrom (node :: around)) := by
  unfold titlesFrom
  rw [Node.preorder_eq, Node.preorderAll_eq, List.filterMap_cons, List.filterMap_flatMap]
  cases title? ⟨node, around⟩ <;> rfl

theorem titlesFrom_of_isDead {around : List Node} (dead : IsDead (place around)) (node : Node) :
    titlesFrom around node = [] := by
  induction node using Node.childInduction generalizing around with
  | step node ih =>
    have here : title? ⟨node, around⟩ = none := by
      simp [title?, lookup_of_isDead dead]
    rw [titlesFrom_eq, here, List.flatMap_eq_nil_iff.2]
    · rfl
    · intro child mem
      refine ih child mem ?_
      rw [place_cons]
      exact dead.append _

theorem mem_of_lookup {path : List Kind} {kind : SymbolKind}
    (isPlace : declaringPlaces.lookup path = some kind) : (path, kind) ∈ declaringPlaces := by
  obtain ⟨before, after, split, _⟩ := List.lookup_eq_some_iff.1 isPlace
  rw [split]
  simp

/-- No declaring place is inside another one. -/
theorem isDead_inside {path : List Kind} {kind : SymbolKind}
    (isPlace : declaringPlaces.lookup path = some kind) (inner : Kind) :
    IsDead (path ++ [inner]) := by
  have apart : ∀ entry ∈ declaringPlaces, ∀ other ∈ declaringPlaces, entry.1 <+: other.1 →
      other.1.length ≤ entry.1.length := by decide
  intro entry mem within
  have short := apart (path, kind) (mem_of_lookup isPlace) entry mem
    ((List.prefix_append _ _).trans within)
  have long := within.length_le
  simp only [List.length_append, List.length_singleton] at short long
  omega

/-- Nothing is declared inside of signs and comments. -/
theorem isDead_of_isExtra {part : Node} (isExtra : IsExtra part) (around : List Node) :
    IsDead (place (part :: around)) := by
  have free : ∀ entry ∈ declaringPlaces, .token ∉ entry.1 ∧ .comment ∉ entry.1 := by decide
  intro entry mem within
  have inside : part.kind ∈ entry.1 := by
    rw [place_cons] at within
    exact within.subset (by simp)
  rcases isExtra with isToken | isComment
  · exact (free entry mem).1 (isToken ▸ inside)
  · exact (free entry mem).2 (isComment ▸ inside)

theorem titlesFrom_of_lookup_eq_none {around : List Node}
    (outside : declaringPlaces.lookup (place around) = none) (node : Node) :
    titlesFrom around node = node.children.flatMap (titlesFrom (node :: around)) := by
  rw [titlesFrom_eq]
  simp [title?, outside]

/-- In a place where nothing is declared, nodes in which nothing is declared have no titles. -/
theorem titlesFrom_eq_nil {around : List Node} {node : Node}
    (outside : declaringPlaces.lookup (place around) = none)
    (dead : IsDead (place (node :: around))) : titlesFrom around node = [] := by
  rw [titlesFrom_of_lookup_eq_none outside, List.flatMap_eq_nil_iff]
  exact fun child _ => titlesFrom_of_isDead dead child

/-- The titles of a declaring node are its children in the role of names. -/
theorem titlesFrom_of_lookup_eq_some {around : List Node} {node : Node} {kind : SymbolKind}
    (outside : declaringPlaces.lookup (place around) = none)
    (isPlace : declaringPlaces.lookup (place (node :: around)) = some kind) :
    titlesFrom around node = (node.childrenIn .name).map fun title => (title, kind) := by
  have each (child : Node) : titlesFrom (node :: around) child =
      (if child.plays .name then some (child, kind) else none).toList := by
    have dead : IsDead (place (child :: node :: around)) := by
      rw [place_cons]
      exact isDead_inside isPlace child.kind
    rw [titlesFrom_eq, List.flatMap_eq_nil_iff.2 fun inner _ => titlesFrom_of_isDead dead inner,
      List.append_nil, title?, isPlace]
    rfl
  rw [titlesFrom_of_lookup_eq_none outside, funext each, ← List.filterMap_eq_flatMap_toList,
    Node.childrenIn, ← List.filterMap_eq_map, List.filterMap_filter]
  rfl

end Places

section Symbols

/-- Only the nodes that are picked count, the others give nothing. -/
theorem flatMap_filter_eq {α β : Type} {all : List α} {picks : α → Bool} {f g : α → List β}
    (each : ∀ a ∈ all, g a = if picks a then f a else []) :
    (all.filter picks).flatMap f = all.flatMap g := by
  induction all with
  | nil => rfl
  | cons a rest ih =>
    rw [List.flatMap_cons, each a (by simp), ← ih fun b mem => each b (by simp [mem]),
      List.filter_cons]
    split <;> simp

theorem shown_specSymbols (file : String) (kind : SymbolKind) (spec : Site) :
    (specSymbols file kind spec).map Symbol.shown =
      (spec.node.childrenIn .name).map fun title => (title.text, kind) := by
  unfold specSymbols
  rw [List.map_map]
  conv_rhs => rw [← List.zipIdx_map_fst 0 (spec.node.childrenIn .name), List.map_map]
  rfl

theorem nameText_of_isTitled {node title : Node} (titled : node.childrenIn .name = [title]) :
    nameText node = title.text := by
  rw [nameText, Node.child?, ← List.head?_filter, ← Node.childrenIn, titled]
  rfl

variable {around : List Node} {node child : Node} {file : String}

/-- The titles of a node as symbols show them. -/
def shownTitles (around : List Node) (node : Node) : List (String × SymbolKind) :=
  (titlesFrom around node).map (Prod.map Node.text id)

theorem shownTitles_of_lookup_eq_none (outside : declaringPlaces.lookup (place around) = none)
    (node : Node) :
    shownTitles around node = node.children.flatMap (shownTitles (node :: around)) := by
  rw [shownTitles, titlesFrom_of_lookup_eq_none outside, List.map_flatMap]
  rfl

theorem shownTitles_of_titled {kind : SymbolKind} {title : Node}
    (outside : declaringPlaces.lookup (place around) = none)
    (isPlace : declaringPlaces.lookup (place (node :: around)) = some kind)
    (titled : node.childrenIn .name = [title]) :
    shownTitles around node = [(nameText node, kind)] := by
  rw [shownTitles, titlesFrom_of_lookup_eq_some outside isPlace, titled,
    nameText_of_isTitled titled]
  rfl

/-- A part of a declaration of values: a specification, or a sign or comment beside it. -/
inductive IsSpecPart (kind : SymbolKind) (around : List Node) (part : Node) : Prop
  | extra (isExtra : IsExtra part)
  | spec (isSpec : part.kind = .varSpec ∨ part.kind = .constSpec)
      (isPlace : declaringPlaces.lookup (place (part :: around)) = some kind)

theorem shownTitles_of_isSpecPart (file : String) {kind : SymbolKind}
    (outside : declaringPlaces.lookup (place around) = none) (part : IsSpecPart kind around node) :
    shownTitles around node =
      if (node.kind == .varSpec || node.kind == .constSpec) && node.isNamed then
        (specSymbols file kind ⟨node, around⟩).map Symbol.shown
      else [] := by
  cases part with
  | extra isExtra =>
    rw [shownTitles, titlesFrom_eq_nil outside (isDead_of_isExtra isExtra around)]
    rcases isExtra with isToken | isComment
    · simp [isToken]
    · simp [isComment]
  | spec isSpec isPlace =>
    rw [shownTitles, titlesFrom_of_lookup_eq_some outside isPlace, shown_specSymbols]
    rcases isSpec with isSpec | isSpec <;> simp [isSpec, Node.isNamed, Kind.isNamed]

/-- The symbols of the specifications directly in a node. -/
theorem shown_specs (file : String) {kind : SymbolKind} (site : Site)
    (outside : declaringPlaces.lookup (place (site.node :: site.above)) = none)
    (parts : ∀ part ∈ site.node.children, IsSpecPart kind (site.node :: site.above) part) :
    ((site.named.filter fun part => part.node.kind == .varSpec || part.node.kind == .constSpec
      ).flatMap (specSymbols file kind)).map Symbol.shown =
      site.node.children.flatMap (shownTitles (site.node :: site.above)) := by
  rw [Site.named, List.filter_map, Node.named, List.filter_filter, List.flatMap_map,
    List.map_flatMap]
  exact flatMap_filter_eq fun part mem =>
    shownTitles_of_isSpecPart file outside (parts part mem)

/-- The symbols of a declaration of values, whose specifications stand directly in it or in a
list. -/
theorem shown_valueSpecs (file : String) {kind : SymbolKind} (declaration : Site)
    (outside : declaringPlaces.lookup (place (declaration.node :: declaration.above)) = none)
    (parts : ∀ part ∈ declaration.node.children,
      IsSpecPart kind (declaration.node :: declaration.above) part ∨
        part.kind = .varSpecList ∧
          declaringPlaces.lookup (place (part :: declaration.node :: declaration.above)) = none ∧
          ∀ inner ∈ part.children,
            IsSpecPart kind (part :: declaration.node :: declaration.above) inner) :
    ((valueSpecs declaration).flatMap (specSymbols file kind)).map Symbol.shown =
      declaration.node.children.flatMap (shownTitles (declaration.node :: declaration.above)) := by
  unfold valueSpecs
  rw [List.flatMap_assoc, List.map_flatMap, Site.named, List.flatMap_map, Node.named]
  refine flatMap_filter_eq fun part mem => ?_
  rcases parts part mem with isPart | ⟨isList, inside, inner⟩
  · rw [shownTitles_of_isSpecPart file outside isPart]
    cases isPart with
    | extra isExtra => rcases isExtra with isToken | isComment <;> simp [*]
    | spec isSpec _ =>
      rcases isSpec with isSpec | isSpec <;> simp [isSpec, Node.isNamed, Kind.isNamed, Site.below]
  · have listed := shown_specs file (declaration.below part) inside inner
    rw [shownTitles_of_lookup_eq_none outside]
    simpa [isList, Node.isNamed, Kind.isNamed] using listed.symm

variable {root : Node}

theorem place_top (isFile : root.kind = .sourceFile) (top : Node) :
    place [top, root] = [.sourceFile, top.kind] := by
  simp [place, isFile]

theorem place_inTop (isFile : root.kind = .sourceFile) (top inner : Node) :
    place [inner, top, root] = [.sourceFile, top.kind, inner.kind] := by
  simp [place, isFile]

theorem place_inList (isFile : root.kind = .sourceFile) (top list inner : Node) :
    place [inner, list, top, root] = [.sourceFile, top.kind, list.kind, inner.kind] := by
  simp [place, isFile]

theorem shown_typeSymbols (file : String) (isFile : root.kind = .sourceFile) {declaration : Node}
    (kind : declaration.kind = .typeDeclaration)
    (specs : ∀ part ∈ declaration.children, IsExtra part ∨ IsTypeSpec part) :
    (typeSymbols file declaration).map Symbol.shown =
      declaration.children.flatMap (shownTitles [declaration, root]) := by
  have outside : declaringPlaces.lookup (place [declaration, root]) = none := by
    rw [place_top isFile, kind]
    rfl
  unfold typeSymbols
  rw [List.map_map, Node.named, List.filter_filter, List.map_eq_flatMap]
  refine flatMap_filter_eq fun part mem => ?_
  rcases specs part mem with isExtra | ⟨isSpec, title, titled, _⟩
  · rw [shownTitles, titlesFrom_eq_nil outside (isDead_of_isExtra isExtra _)]
    rcases isExtra with isExtra | isExtra <;> simp [isExtra]
  · have isPlace : declaringPlaces.lookup (place [part, declaration, root]) = some .type := by
      rw [place_inTop isFile, kind]
      rcases isSpec with isSpec | isSpec <;> rw [isSpec] <;> rfl
    rw [shownTitles_of_titled outside isPlace titled]
    rcases isSpec with isSpec | isSpec <;>
      simp [isSpec, Node.isNamed, Kind.isNamed, Symbol.shown]

/-- What stands at the top of a file is shown by its symbols. -/
theorem shown_declarationSymbols (file : String) (isFile : root.kind = .sourceFile)
    {declaration : Node} (isTopLevel : IsTopLevel declaration) :
    (declarationSymbols file ⟨declaration, [root]⟩).map Symbol.shown =
      shownTitles [root] declaration := by
  have outside : declaringPlaces.lookup (place [root]) = none := by
    rw [place, List.map_singleton, isFile]
    rfl
  cases isTopLevel with
  | function kind titled =>
    have isPlace : declaringPlaces.lookup (place [declaration, root]) = some .function := by
      rw [place_top isFile, kind]
      rfl
    obtain ⟨title, titled, _⟩ := titled
    rw [shownTitles_of_titled outside isPlace titled]
    simp [declarationSymbols, kind, Symbol.shown, functionSymbol]
  | method kind titled =>
    have isPlace : declaringPlaces.lookup (place [declaration, root]) = some .method := by
      rw [place_top isFile, kind]
      rfl
    obtain ⟨title, titled, _⟩ := titled
    rw [shownTitles_of_titled outside isPlace titled]
    simp [declarationSymbols, kind, Symbol.shown, methodSymbol]
  | typeSpecs kind specs =>
    rw [shownTitles_of_lookup_eq_none outside, ← shown_typeSymbols file isFile kind specs]
    simp [declarationSymbols, kind]
  | variableSpecs kind specs =>
    rw [shownTitles_of_lookup_eq_none outside]
    simp only [declarationSymbols, kind]
    refine shown_valueSpecs file ⟨declaration, [root]⟩ ?_ fun part mem => ?_
    · rw [place_top isFile, kind]
      rfl
    rcases specs part mem with isExtra | isSpec | ⟨isList, inner⟩
    · exact .inl (.extra isExtra)
    · refine .inl (.spec (.inl isSpec.1) ?_)
      rw [place_inTop isFile, kind, isSpec.1]
      rfl
    · refine .inr ⟨isList, ?_, fun spec inside => ?_⟩
      · rw [place_inTop isFile, kind, isList]
        rfl
      rcases inner spec inside with isExtra | isSpec
      · exact .extra isExtra
      · refine .spec (.inl isSpec.1) ?_
        rw [place_inList isFile, kind, isList, isSpec.1]
        rfl
  | constantSpecs kind specs =>
    rw [shownTitles_of_lookup_eq_none outside]
    simp only [declarationSymbols, kind]
    refine shown_valueSpecs file ⟨declaration, [root]⟩ ?_ fun part mem => .inl ?_
    · rw [place_top isFile, kind]
      rfl
    rcases specs part mem with isExtra | isSpec
    · exact .extra isExtra
    · refine .spec (.inr isSpec.1) ?_
      rw [place_inTop isFile, kind, isSpec.1]
      rfl
  | other kind =>
    have dead : IsDead (place [declaration, root]) := by
      have declaring : ∀ entry ∈ declaringPlaces, ∀ kind, [.sourceFile, kind] <+: entry.1 →
          kind ∈ declaringKinds := by
        simp [declaringPlaces, declaringKinds, List.cons_prefix_cons]
      rw [place_top isFile]
      exact fun entry mem within => kind (declaring entry mem _ within)
    rw [shownTitles, titlesFrom_eq_nil outside dead]
    simp only [declaringKinds, List.mem_cons, List.not_mem_nil, or_false, not_or] at kind
    unfold declarationSymbols
    split <;> simp_all

/-- The symbols of a file show all its titles. -/
theorem shown_symbols (file : String) (isFile : root.kind = .sourceFile)
    (tops : ∀ top ∈ root.children, IsTopLevel top) :
    (symbols file root).map Symbol.shown = (titles root).map (Prod.map Node.text id) := by
  have outside : declaringPlaces.lookup (place []) = none := rfl
  have named : (symbols file root).map Symbol.shown =
      root.children.flatMap (shownTitles [root]) := by
    rw [symbols, List.map_flatMap, Site.named, List.flatMap_map, Node.named]
    refine flatMap_filter_eq fun top mem => ?_
    rw [← shown_declarationSymbols file isFile (tops top mem)]
    split
    · rfl
    · rename_i unnamed
      have isToken : top.kind = .token := by simpa [Node.isNamed] using unnamed
      simp [declarationSymbols, isToken]
  exact named.trans (shownTitles_of_lookup_eq_none outside root).symm

end Symbols

section Names

variable {root : Node}

/-- What is known of a node in which names are declared. -/
inductive IsDeclaring (root : Node) (site : Site) : SymbolKind → Prop
  | titled {kind : SymbolKind} {titleKind : Kind} (isName : isIdentifier titleKind = true)
      (titled : IsTitled titleKind site.node) (single : kind ≠ .variable ∧ kind ≠ .constant) :
      IsDeclaring root site kind
  | variableSpec {declaration : Node} (mem : declaration ∈ root.named)
      (kind : declaration.kind = .varDeclaration) (listed : site ∈ valueSpecs ⟨declaration, [root]⟩)
      (isSpec : IsVariableSpec site.node) : IsDeclaring root site .variable
  | constantSpec {declaration : Node} (mem : declaration ∈ root.named)
      (kind : declaration.kind = .constDeclaration)
      (listed : site ∈ valueSpecs ⟨declaration, [root]⟩)
      (isSpec : IsConstantSpec site.node) : IsDeclaring root site .constant

theorem mem_valueSpecs_of_child {declaration : Site} {spec : Node}
    (mem : spec ∈ declaration.node.children)
    (isSpec : spec.kind = .varSpec ∨ spec.kind = .constSpec) :
    declaration.below spec ∈ valueSpecs declaration := by
  unfold valueSpecs
  refine List.mem_flatMap.2 ⟨declaration.below spec, List.mem_map.2 ⟨spec, ?_, rfl⟩, ?_⟩
  · exact Node.mem_named_iff.2 ⟨mem, by rcases isSpec with isSpec | isSpec <;> simp [isSpec]⟩
  · rcases isSpec with isSpec | isSpec <;> simp [isSpec]

theorem mem_valueSpecs_of_list {declaration : Site} {list spec : Node}
    (mem : list ∈ declaration.node.children) (isList : list.kind = .varSpecList)
    (inside : spec ∈ list.children) (isSpec : spec.kind = .varSpec) :
    (declaration.below list).below spec ∈ valueSpecs declaration := by
  unfold valueSpecs
  refine List.mem_flatMap.2 ⟨declaration.below list, List.mem_map.2 ⟨list, ?_, rfl⟩, ?_⟩
  · exact Node.mem_named_iff.2 ⟨mem, by simp [isList]⟩
  · have named : spec ∈ list.named := Node.mem_named_iff.2 ⟨inside, by simp [isSpec]⟩
    simp only [Site.node_below, isList]
    exact List.mem_filter.2 ⟨List.mem_map.2 ⟨spec, named, rfl⟩, by simp [isSpec]⟩

theorem not_isExtra {node : Node} {kind : Kind} (here : node.kind = kind) (noToken : kind ≠ .token)
    (noComment : kind ≠ .comment) : ¬ IsExtra node := by
  rintro (isToken | isComment)
  · exact noToken (here.symm.trans isToken)
  · exact noComment (here.symm.trans isComment)

section Depths

variable (isFile : root.kind = .sourceFile) (tops : ∀ top ∈ root.children, IsTopLevel top)
  {top list inner : Node} {kind : SymbolKind}

include isFile tops

theorem isDeclaring_top (mem : top ∈ root.children)
    (listed : (place [top, root], kind) ∈ declaringPlaces) :
    IsDeclaring root ⟨top, [root]⟩ kind := by
  simp only [place_top isFile, declaringPlaces, List.mem_cons, Prod.mk.injEq, List.cons.injEq,
    List.not_mem_nil, reduceCtorEq, true_and, and_true, and_false, false_and, or_false] at listed
  rcases listed with ⟨isFunction, rfl⟩ | ⟨isMethod, rfl⟩
  · exact .titled rfl ((tops top mem).titled_of_function isFunction) (by decide)
  · exact .titled rfl ((tops top mem).titled_of_method isMethod) (by decide)

theorem isDeclaring_inTop (mem : top ∈ root.children) (inside : inner ∈ top.children)
    (listed : (place [inner, top, root], kind) ∈ declaringPlaces) :
    IsDeclaring root ⟨inner, [top, root]⟩ kind := by
  have named (some : top.kind ≠ .token) : top ∈ root.named := Node.mem_named_iff.2 ⟨mem, some⟩
  have ofTypes (isTypes : top.kind = .typeDeclaration) (isSpec : ¬ IsExtra inner) :
      IsDeclaring root ⟨inner, [top, root]⟩ .type :=
    .titled rfl (((tops top mem).typeSpecs_of_kind isTypes inner inside).resolve_left isSpec).2
      (by decide)
  simp only [place_inTop isFile, declaringPlaces, List.mem_cons, Prod.mk.injEq, List.cons.injEq,
    List.not_mem_nil, reduceCtorEq, true_and, and_true, and_false, false_and, or_false,
    false_or] at listed
  rcases listed with ⟨⟨isTypes, isSpec⟩, rfl⟩ | ⟨⟨isTypes, isSpec⟩, rfl⟩ |
    ⟨⟨isVariables, isSpec⟩, rfl⟩ | ⟨⟨isConstants, isSpec⟩, rfl⟩
  · exact ofTypes isTypes (not_isExtra isSpec (by decide) (by decide))
  · exact ofTypes isTypes (not_isExtra isSpec (by decide) (by decide))
  · refine .variableSpec (named (by simp [isVariables])) isVariables
      (mem_valueSpecs_of_child inside (.inl isSpec)) ?_
    rcases (tops top mem).variableSpecs_of_kind isVariables inner inside with
      isExtra | isVariable | isList
    · exact absurd isExtra (not_isExtra isSpec (by decide) (by decide))
    · exact isVariable
    · simp [IsVariableList, isSpec] at isList
  · refine .constantSpec (named (by simp [isConstants])) isConstants
      (mem_valueSpecs_of_child inside (.inr isSpec)) ?_
    exact ((tops top mem).constantSpecs_of_kind isConstants inner inside).resolve_left
      (not_isExtra isSpec (by decide) (by decide))

theorem isDeclaring_inList (mem : top ∈ root.children) (inTop : list ∈ top.children)
    (inside : inner ∈ list.children)
    (listed : (place [inner, list, top, root], kind) ∈ declaringPlaces) :
    IsDeclaring root ⟨inner, [list, top, root]⟩ kind := by
  simp only [place_inList isFile, declaringPlaces, List.mem_cons, Prod.mk.injEq, List.cons.injEq,
    List.not_mem_nil, reduceCtorEq, true_and, and_true, and_false, false_and, or_false,
    false_or] at listed
  obtain ⟨⟨isVariables, isList, isSpec⟩, rfl⟩ := listed
  refine .variableSpec (Node.mem_named_iff.2 ⟨mem, by simp [isVariables]⟩) isVariables
    (mem_valueSpecs_of_list inTop isList inside isSpec) ?_
  rcases (tops top mem).variableSpecs_of_kind isVariables list inTop with
    isExtra | isVariable | ⟨_, specs⟩
  · exact absurd isExtra (not_isExtra isList (by decide) (by decide))
  · simp [IsVariableSpec, isList] at isVariable
  · exact (specs inner inside).resolve_left (not_isExtra isSpec (by decide) (by decide))

/-- Names are declared only by what stands at the top of a file. -/
theorem isDeclaring_of_lookup {site : Site} (within : Site.Within root site)
    (isPlace : declaringPlaces.lookup (place (site.node :: site.above)) = some kind) :
    IsDeclaring root site kind := by
  have listed := mem_of_lookup isPlace
  -- The place says how deep the node stands.
  have short : ∀ entry ∈ declaringPlaces, 2 ≤ entry.1.length ∧ entry.1.length ≤ 4 := by decide
  have bounds := short _ listed
  simp only [place, List.length_reverse, List.length_map, List.length_cons] at bounds
  rcases within with _ | ⟨_ | ⟨_ | ⟨_ | ⟨_, _⟩, inFile⟩, inTop⟩, inside⟩
  · simp at bounds
  · exact isDeclaring_top isFile tops inside listed
  · exact isDeclaring_inTop isFile tops inTop inside listed
  · exact isDeclaring_inList isFile tops inFile inTop inside listed
  · simp only [List.length_cons] at bounds
    omega

end Depths

/-- A specification with commas has one comma less than names. -/
theorem length_of_withCommas {names : List Node} (all : WithCommas names) :
    names.length + 1 = 2 * (names.filter fun title => isIdentifier title.kind).length := by
  induction all with
  | last isName => simp [isName, isIdentifier]
  | more isName isComma _ ih =>
    rw [List.filter_cons_of_pos (by simp [isName, isIdentifier]),
      List.filter_cons_of_neg (by simp [isComma, isIdentifier])]
    simp only [List.length_cons]
    omega

/-- One name has no comma beside it. -/
theorem eq_singleton_of_withCommas {names : List Node} (all : WithCommas names)
    (few : (names.filter fun title => isIdentifier title.kind).length ≤ 1) :
    ∃ title, names = [title] ∧ title.kind = .identifier := by
  have count := length_of_withCommas all
  cases all with
  | last isName => exact ⟨_, rfl, isName⟩
  | more =>
    simp only [List.length_cons] at count
    omega

theorem identifier_or_token_of_withCommas {names : List Node} (all : WithCommas names)
    {title : Node} (mem : title ∈ names) :
    isIdentifier title.kind = true ∨ title.kind = .token := by
  induction all with
  | last isName =>
    rw [List.mem_singleton.1 mem]
    exact .inl (by simp [isName, isIdentifier])
  | more isName isComma _ ih =>
    rcases List.mem_cons.1 mem with rfl | mem
    · exact .inl (by simp [isName, isIdentifier])
    · rcases List.mem_cons.1 mem with rfl | mem
      · exact .inr isComma
      · exact ih mem

theorem specTitles_of_variableSpec {spec : Node} (isSpec : IsVariableSpec spec) :
    specTitles spec = spec.childrenIn .name := by
  rw [specTitles, List.filter_eq_self]
  intro title mem
  simp [isSpec.2 title mem, isIdentifier]

/-- A title is a name of the node in which it is declared. -/
theorem exists_of_mem_titles {title : Node × SymbolKind} (mem : title ∈ titles root) :
    ∃ site ∈ root.sites,
      declaringPlaces.lookup (place (site.node :: site.above)) = some title.2 ∧
        title.1 ∈ site.node.childrenIn .name := by
  obtain ⟨⟨node, above⟩, inside, found⟩ := List.mem_filterMap.1 mem
  unfold title? at found
  split at found
  · rename_i isName
    obtain ⟨kind, isPlace, rfl⟩ := Option.map_eq_some_iff.1 found
    cases Site.within_of_mem_sites inside with
    | root => cases isPlace
    | step outer child =>
      refine ⟨⟨_, _⟩, outer.mem_sites, isPlace, ?_⟩
      exact List.mem_filter.2 ⟨child, isName⟩
  · cases found

theorem length_specSymbols (file : String) (kind : SymbolKind) (spec : Site) :
    (specSymbols file kind spec).length = (spec.node.childrenIn .name).length := by
  simp [specSymbols]

/-- The symbols of a specification stand together among the symbols of the file. -/
theorem specSymbols_among_symbols {file : String} {declaration : Node} {spec : Site}
    {kind : SymbolKind} (mem : declaration ∈ root.named)
    (shared : declarationSymbols file ⟨declaration, [root]⟩ =
      (valueSpecs ⟨declaration, [root]⟩).flatMap (specSymbols file kind))
    (listed : spec ∈ valueSpecs ⟨declaration, [root]⟩) :
    specSymbols file kind spec <:+: symbols file root := by
  have inDeclaration : specSymbols file kind spec <:+:
      declarationSymbols file ⟨declaration, [root]⟩ := by
    rw [shared, List.flatMap_def]
    exact List.infix_of_mem_flatten (List.mem_map_of_mem listed)
  refine inDeclaration.trans ?_
  rw [symbols, List.flatMap_def]
  exact List.infix_of_mem_flatten (List.mem_map_of_mem (List.mem_map_of_mem mem))

variable (isFile : root.kind = .sourceFile) (tops : ∀ top ∈ root.children, IsTopLevel top)

include isFile tops

/-- Only constants have titles that are no identifiers. -/
theorem identifier_or_comma {title : Node × SymbolKind} (mem : title ∈ titles root) :
    isIdentifier title.1.kind = true ∨ title.1.kind = .token ∧ title.2 = .constant := by
  obtain ⟨site, inside, isPlace, isName⟩ := exists_of_mem_titles mem
  obtain ⟨title, kind⟩ := title
  cases isDeclaring_of_lookup isFile tops (Site.within_of_mem_sites inside) isPlace with
  | titled isIdentifier titled _ =>
    obtain ⟨only, names, here⟩ := titled
    rw [names, List.mem_singleton] at isName
    subst isName
    exact .inl (here ▸ isIdentifier)
  | variableSpec _ _ _ isSpec => exact .inl (by simp [isSpec.2 title isName, isIdentifier])
  | constantSpec _ _ _ isSpec =>
    exact (identifier_or_token_of_withCommas isSpec.2 isName).imp_right fun isComma =>
      ⟨isComma, rfl⟩

/-- Where every specification of constants has one name, all titles are identifiers. -/
theorem declared_eq_titles
    (single : ∀ site ∈ root.sites,
      declaringPlaces.lookup (place (site.node :: site.above)) = some .constant →
      (specTitles site.node).length ≤ 1) :
    declared root = titles root := by
  rw [declared, List.filter_eq_self]
  intro title mem
  refine (identifier_or_comma isFile tops mem).resolve_right ?_
  rintro ⟨isComma, isConstant⟩
  obtain ⟨site, inside, isPlace, isName⟩ := exists_of_mem_titles mem
  rw [isConstant] at isPlace
  have few := single site inside isPlace
  cases isDeclaring_of_lookup isFile tops (Site.within_of_mem_sites inside) isPlace with
  | titled _ _ several => exact several.2 rfl
  | constantSpec _ _ _ isSpec =>
    obtain ⟨only, names, isIdentifier⟩ := eq_singleton_of_withCommas isSpec.2 few
    rw [names, List.mem_singleton] at isName
    rw [isName, isIdentifier] at isComma
    cases isComma

/-- A specification of variables has a symbol for each of its names. -/
theorem specSymbols_of_variables (file : String) {spec : Site} (inside : spec ∈ root.sites)
    (isPlace : declaringPlaces.lookup (place (spec.node :: spec.above)) = some .variable) :
    specSymbols file .variable spec <:+: symbols file root ∧
      (specSymbols file .variable spec).length = (specTitles spec.node).length := by
  cases isDeclaring_of_lookup isFile tops (Site.within_of_mem_sites inside) isPlace with
  | titled _ _ several => exact absurd rfl several.1
  | variableSpec mem kind listed isSpec =>
    refine ⟨specSymbols_among_symbols mem (by simp [declarationSymbols, kind]) listed, ?_⟩
    rw [specTitles_of_variableSpec isSpec, length_specSymbols]

/-- A specification of constants has a symbol for each of its names and for each comma. -/
theorem specSymbols_of_constants (file : String) {spec : Site} (inside : spec ∈ root.sites)
    (isPlace : declaringPlaces.lookup (place (spec.node :: spec.above)) = some .constant) :
    specSymbols file .constant spec <:+: symbols file root ∧
      (specSymbols file .constant spec).length + 1 = 2 * (specTitles spec.node).length := by
  cases isDeclaring_of_lookup isFile tops (Site.within_of_mem_sites inside) isPlace with
  | titled _ _ several => exact absurd rfl several.2
  | constantSpec mem kind listed isSpec =>
    refine ⟨specSymbols_among_symbols mem (by simp [declarationSymbols, kind]) listed, ?_⟩
    rw [length_specSymbols, length_of_withCommas isSpec.2, specTitles]

end Names

/-- An accepted file has one symbol for each node in the role of a declared name, in document order,
with the text of the node and what it stands for.  These are the declared identifiers and the commas
between the names of constants.  So where constants are specified one by one, there is one symbol
for each declared identifier and no other, and a specification of `n` variables always has `n`
symbols; one of `n` constants has a symbol more for each of its `n - 1` commas. -/
theorem symbols_of_declared_names {path : String} {bytes : ByteArray} {file : SourceFile}
    (accepted : SourceFile.parse? path bytes = some file) :
    (symbols path file.root).map Symbol.shown =
        (titles file.root).map (Prod.map Node.text id) ∧
      (∀ title ∈ titles file.root,
        isIdentifier title.1.kind = true ∨ title.1.kind = .token ∧ title.2 = .constant) ∧
      ((∀ site ∈ file.root.sites,
          declaringPlaces.lookup (place (site.node :: site.above)) = some .constant →
          (specTitles site.node).length ≤ 1) →
        (symbols path file.root).map Symbol.shown =
          (declared file.root).map (Prod.map Node.text id)) ∧
      ∀ spec ∈ file.root.sites,
        (declaringPlaces.lookup (place (spec.node :: spec.above)) = some .variable →
          specSymbols path .variable spec <:+: symbols path file.root ∧
            (specSymbols path .variable spec).length = (specTitles spec.node).length) ∧
        (declaringPlaces.lookup (place (spec.node :: spec.above)) = some .constant →
          specSymbols path .constant spec <:+: symbols path file.root ∧
            (specSymbols path .constant spec).length + 1 = 2 * (specTitles spec.node).length) := by
  obtain ⟨isFile, tops⟩ : file.root.kind = .sourceFile ∧
      ∀ top ∈ file.root.children, IsTopLevel top := by
    obtain ⟨root, tree, rfl⟩ := Option.map_eq_some_iff.1 accepted
    exact Syntax.isTopLevel_of_tree? tree
  refine ⟨shown_symbols path isFile tops, fun title mem => identifier_or_comma isFile tops mem,
    fun single => ?_, fun spec inside => ⟨?_, ?_⟩⟩
  · rw [declared_eq_titles isFile tops single]
    exact shown_symbols path isFile tops
  · exact specSymbols_of_variables isFile tops path inside
  · exact specSymbols_of_constants isFile tops path inside

/-- A file with names in every declaring place. -/
def declaringBytes : ByteArray :=
  ("package p\ntype (\n\tT []int\n\tU = T\n)\nvar a, b = 1, 2\nvar (\n\tc T\n)\n" ++
    "const k = 1\nfunc f(x T) \x7b\n\tvar y = x\n\x7d\nfunc (t T) m() \x7b \x7d\n").toUTF8

/-- The names of this file are listed in order, without those of parameters and local variables. -/
theorem symbols_of_declaringBytes : ∃ file, SourceFile.parse? "p.go" declaringBytes = some file ∧
    (symbols "p.go" file.root).map Symbol.shown =
      (declared file.root).map (Prod.map Node.text id) ∧
    (symbols "p.go" file.root).map Symbol.shown =
      [("T", .type), ("U", .type), ("a", .variable), ("b", .variable), ("c", .variable),
        ("k", .constant), ("f", .function), ("m", .method)] := by
  have shown : (SourceFile.parse? "p.go" declaringBytes).map (fun file =>
      (symbols "p.go" file.root).map Symbol.shown) =
        some [("T", .type), ("U", .type), ("a", .variable), ("b", .variable), ("c", .variable),
          ("k", .constant), ("f", .function), ("m", .method)] := by
    decide +kernel
  have single : ∀ file ∈ SourceFile.parse? "p.go" declaringBytes,
      ∀ site ∈ file.root.sites,
        declaringPlaces.lookup (place (site.node :: site.above)) = some .constant →
          (specTitles site.node).length ≤ 1 := by
    decide +kernel
  obtain ⟨file, parses, listed⟩ := Option.map_eq_some_iff.1 shown
  exact ⟨file, parses, (symbols_of_declared_names parses).2.2.1 (single file parses), listed⟩

/-- The file `package p; const A, B = 1, 2`. -/
def constantBytes : ByteArray :=
  "package p\n\nconst A, B = 1, 2\n".toUTF8

/-- The comma between two constants is listed as a constant of its own. -/
theorem comma_among_symbols :
    (SourceFile.parse? "p.go" constantBytes).map (fun file =>
      ((symbols "p.go" file.root).map Symbol.shown,
        (declared file.root).map (Prod.map Node.text id))) =
      some ([("A", .constant), (",", .constant), ("B", .constant)],
        [("A", .constant), ("B", .constant)]) := by
  decide +kernel

end SliceGuard.Declarations
