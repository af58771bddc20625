import SliceGuard.Proofs.Typing.Chains
import SliceGuard.Proofs.Typing.Uses

/-!
# Elements of containers

An element of a container is got by an index, through a variable that is given an indexed value, as
the target of a range, or by an index into a part of the container.  In all these ways the element
has the type that the container says, as long as the search does not go deeper than its limit.  So
indexes that follow each other take off the layers of a type one by one, up to the limit.
-/

namespace SliceGuard.Typing

open Syntax (Node Site)
open Declarations

/-- An index expression with its operand. -/
def Indexes (container site : Site) : Prop :=
  site.node.kind = .indexExpression ∧ site.child? .operand = some container

/-- A slice expression with its operand. -/
def Slices (container site : Site) : Prop :=
  site.node.kind = .sliceExpression ∧ site.child? .operand = some container

/-- The ways to an element of a container, with the number of values that are followed from the
element to the container. -/
inductive ElementOf (index : Index) (container : Site) : Nat → Site → Prop
  | indexed {site : Site} (indexes : Indexes container site) : ElementOf index container 1 site
  /-- A variable `v := e[i]` or `var v = e[i]`. -/
  | given {use site : Site} {declaration : Declaration} (indexes : Indexes container site)
      (refers : RefersTo index use declaration)
      (gives : GivesValue declaration use.node.text site) : ElementOf index container 2 use
  /-- The first target of `v, ok := e[i]`. -/
  | tested {use site : Site} {declaration : Declaration} (indexes : Indexes container site)
      (refers : RefersTo index use declaration)
      (shares : SharesValue declaration use.node.text site 0) : ElementOf index container 2 use
  /-- The target of a range that is not its key. -/
  | ranged {use clause : Site} {position : Nat} (ranges : clause.child? .right = some container)
      (refers : RefersTo index use (.range clause))
      (here : (rangeTexts clause)[position]? = some use.node.text) (second : position ≠ 0) :
      ElementOf index container 1 use

/-- The key of a range over a container. -/
inductive KeyOf (index : Index) (container : Site) : Site → Prop
  | ranged {use clause : Site} (ranges : clause.child? .right = some container)
      (refers : RefersTo index use (.range clause))
      (here : (rangeTexts clause)[0]? = some use.node.text) : KeyOf index container use

/-- One layer of a type: what it stands for in the end is a container of elements. -/
def Layer (index : Index) (type element : Node) : Prop :=
  ∃ last info, Passes anyChild index type last ∧ Means index last info ∧
    info.typeClass.isContainer = true ∧ info.element = some element

/-- What is left of a type when a number of layers is taken off. -/
inductive Peels (index : Index) (type : Node) : Nat → Node → Prop
  | zero : Peels index type 0 type
  | succ {layers : Nat} {outer inner : Node} (peels : Peels index type layers outer)
      (layer : Layer index outer inner) : Peels index type (layers + 1) inner

/-- A number of indexes that follow each other. -/
inductive IndexedTimes (base : Site) : Nat → Site → Prop
  | zero : IndexedTimes base 0 base
  | succ {times : Nat} {operand site : Site} (inner : IndexedTimes base times operand)
      (indexes : Indexes operand site) : IndexedTimes base (times + 1) site

variable {index : Index} {limit depth : Nat} {container site : Site} {info : TypeInfo}

theorem typeAt_of_indexes (within : depth ≤ limit) (indexes : Indexes container site) :
    typeAt index limit depth site =
      (typeAt index limit (depth + 1) container).bind (elementOf index) := by
  rw [typeAt_eq within]
  simp [expressionType, indexes.1, indexes.2, Follow.maybe]
  rfl

theorem typeAt_of_slices (within : depth ≤ limit) (slices : Slices container site) :
    typeAt index limit depth site = (typeAt index limit (depth + 1) container).map sliceOf := by
  rw [typeAt_eq within]
  simp [expressionType, slices.1, slices.2, Follow.maybe]
  rfl

/-- The element of a known container. -/
theorem typeAt_of_indexed (indexes : Indexes container site)
    (known : typeAt index limit (depth + 1) container = .ok info)
    (holds : info.typeClass.isContainer = true) :
    typeAt index limit depth site = underlying index info.element := by
  have within := within_of_typeAt known
  rw [typeAt_of_indexes (by omega) indexes, known]
  simp [Except.bind, elementOf, holds]

/-- The part of a known container is a slice of its elements. -/
theorem typeAt_of_sliced (slices : Slices container site)
    (known : typeAt index limit (depth + 1) container = .ok info)
    (positional : info.typeClass.isPositional = true) :
    typeAt index limit depth site = .ok { typeClass := .slice, element := info.element } := by
  have within := within_of_typeAt known
  rw [typeAt_of_slices (by omega) slices, known]
  simp [Except.map, sliceOf, positional]

/-- The target of a range over a known container. -/
theorem typeAt_of_ranged {use clause : Site} {position : Nat}
    (ranges : clause.child? .right = some container) (refers : RefersTo index use (.range clause))
    (here : (rangeTexts clause)[position]? = some use.node.text)
    (known : typeAt index limit (depth + 1) container = .ok info) :
    typeAt index limit depth use = rangeTarget index info position := by
  have within := within_of_typeAt known
  rw [refers.typeAt (by omega) (.range here), ranges]
  simp [bindingType, Follow.maybe, known]
  rfl

/-- All ways to an element lead to the type that the container says. -/
theorem typeAt_of_elementOf {steps : Nat} (element : ElementOf index container steps site)
    (known : typeAt index limit (depth + steps) container = .ok info)
    (holds : info.typeClass.isContainer = true) :
    typeAt index limit depth site = underlying index info.element := by
  have within := within_of_typeAt known
  cases element with
  | indexed indexes => exact typeAt_of_indexed indexes known holds
  | given indexes refers gives =>
    rw [refers.typeAt (by omega) gives.declares]
    exact typeAt_of_indexed indexes known holds
  | @tested use site declaration indexes refers shares =>
    have inner : innerSite site site.node.size = some site :=
      innerSite_of_kind_ne (by simp [indexes.1])
    rw [refers.typeAt (by omega) shares.declares, bindingType, shareType, inner]
    simp only [indexes.1]
    exact typeAt_of_indexed indexes known holds
  | ranged ranges refers here second =>
    rw [typeAt_of_ranged ranges refers here known, rangeTarget, if_neg second, if_pos holds]

/-- The key of a range over a known container. -/
theorem typeAt_of_keyOf (key : KeyOf index container site)
    (known : typeAt index limit (depth + 1) container = .ok info)
    (holds : info.typeClass.isContainer = true) :
    typeAt index limit depth site =
      if info.typeClass = .map then underlying index info.key else .ok .plain := by
  cases key with
  | ranged ranges refers here =>
    rw [typeAt_of_ranged ranges refers here known, rangeTarget, if_pos rfl]
    cases kind : info.typeClass with
    | slice | array | map => simp
    | other => simp [kind, TypeClass.isContainer] at holds

/-- A layer is what is known of a type. -/
theorem underlying_of_layer {type element : Node} (layer : Layer index type element) :
    ∃ info, underlying index type = .ok info ∧ info.typeClass.isContainer = true ∧
      info.element = some element := by
  obtain ⟨last, info, passes, means, holds, here⟩ := layer
  exact ⟨info, settled_unique passes means (settled_underlying index type), holds, here⟩

theorem Layer.unique {type element element' : Node} (layer : Layer index type element)
    (layer' : Layer index type element') : element' = element := by
  obtain ⟨info, known, _, here⟩ := underlying_of_layer layer
  obtain ⟨info', known', _, here'⟩ := underlying_of_layer layer'
  obtain rfl := Except.ok.inj (known.symm.trans known')
  exact Option.some.inj (here'.symm.trans here)

/-- Only one type is left. -/
theorem Peels.unique {type left left' : Node} {layers : Nat} (peels : Peels index type layers left)
    (peels' : Peels index type layers left') : left' = left := by
  induction peels generalizing left' with
  | zero =>
    cases peels'
    rfl
  | succ _ layer ih =>
    cases peels' with
    | succ outer layer' =>
      obtain rfl := ih outer
      exact layer.unique layer'

/-- Layers may be taken off in two parts. -/
theorem exists_of_peels {type core : Node} {layers fewer : Nat}
    (peels : Peels index type layers core) (le : fewer ≤ layers) :
    ∃ left, Peels index type fewer left ∧ Peels index left (layers - fewer) core := by
  induction peels with
  | zero =>
    obtain rfl := Nat.le_zero.1 le
    exact ⟨type, .zero, .zero⟩
  | @succ layers outer inner peels layer ih =>
    rcases Nat.lt_or_eq_of_le le with less | rfl
    · obtain ⟨left, first, rest⟩ := ih (by omega)
      refine ⟨left, first, ?_⟩
      rw [Nat.succ_sub (by omega)]
      exact rest.succ layer
    · exact ⟨inner, peels.succ layer, by rw [Nat.sub_self]; exact .zero⟩

/-- Each index takes off one layer. -/
theorem typeAt_of_indexedTimes {base : Site} {type left : Node} {times : Nat}
    (indexed : IndexedTimes base times site) (peels : Peels index type times left)
    (declared : typeAt index limit (depth + times) base = underlying index type)
    (within : depth + times ≤ limit) :
    typeAt index limit depth site = underlying index left := by
  induction indexed generalizing depth left with
  | zero =>
    cases peels
    exact declared
  | @succ times operand site inner indexes ih =>
    cases peels with
    | @succ _ outer _ peels layer =>
      obtain ⟨info, known, holds, here⟩ := underlying_of_layer layer
      have told : typeAt index limit (depth + 1) operand = underlying index outer :=
        ih peels (by rwa [Nat.add_right_comm]) (by omega)
      rw [typeAt_of_indexed indexes (told.trans known) holds, here]

/-- Beyond the limit nothing is known of an indexed value. -/
theorem typeAt_of_many_indexes {base : Site} {times : Nat} (indexed : IndexedTimes base times site)
    (beyond : limit < depth + times) : typeAt index limit depth site = .error .tooDeep := by
  induction indexed generalizing depth with
  | zero => exact typeAt_of_lt beyond base
  | succ inner indexes ih =>
    rcases Nat.lt_or_ge limit depth with deep | within
    · exact typeAt_of_lt deep _
    · rw [typeAt_of_indexes within indexes, ih (by omega)]
      rfl

/-- All ways of getting an element agree.  An element of a known container has the type that the
container says, in whatever way it is got, and the key of a range has the type of the keys of a map
or is plain; a part of a slice or an array is a slice of the same elements.  So the indexes that
follow a variable of a written type take off its layers one by one, at most 32 of them, and beyond
that nothing is known. -/
theorem elements_agree (index : Index) :
    (∀ (limit depth : Nat) (container : Site) (info : TypeInfo) (element : Node),
      info.typeClass.isContainer = true → info.element = some element →
      (∀ steps site, ElementOf index container steps site →
        typeAt index limit (depth + steps) container = .ok info →
        typeAt index limit depth site = underlying index element) ∧
      (∀ key, KeyOf index container key → typeAt index limit (depth + 1) container = .ok info →
        typeAt index limit depth key =
          if info.typeClass = .map then underlying index info.key else .ok .plain) ∧
      (info.typeClass.isPositional = true → ∀ sliced, Slices container sliced →
        (typeAt index limit (depth + 1) container = .ok info →
          typeAt index limit depth sliced =
            .ok { typeClass := .slice, element := some element }) ∧
        ∀ site, Indexes sliced site → typeAt index limit (depth + 2) container = .ok info →
          typeAt index limit depth site = underlying index element)) ∧
    ∀ (use : Site) (declaration : Declaration) (type core : Node) (layers : Nat),
      RefersTo index use declaration → GivesType declaration use.node.text type →
      Peels index type layers core →
      ∀ times site, IndexedTimes use times site →
        (times ≤ min layers 32 → ∃ left, (∀ other, Peels index type times other ↔ other = left) ∧
          Peels index left (layers - times) core ∧ typeOf index site = underlying index left) ∧
        (32 < times → classOf index site = none) := by
  refine ⟨fun limit depth container info element holds here => ⟨?_, ?_, ?_⟩, ?_⟩
  · intro steps site way known
    rw [← here]
    exact typeAt_of_elementOf way known holds
  · intro key isKey known
    exact typeAt_of_keyOf isKey known holds
  · intro positional sliced slices
    refine ⟨fun known => ?_, fun site indexes known => ?_⟩
    · rw [← here]
      exact typeAt_of_sliced slices known positional
    · have part := typeAt_of_sliced slices known positional
      rw [typeAt_of_indexed indexes part rfl, here]
  · intro use declaration type core layers refers gives peels times site indexed
    refine ⟨fun few => ?_, fun many => ?_⟩
    · obtain ⟨left, first, rest⟩ := exists_of_peels peels (by omega : times ≤ layers)
      refine ⟨left, fun other => ⟨first.unique, fun same => same ▸ first⟩, rest, ?_⟩
      rw [typeOf_eq_typeAt]
      exact typeAt_of_indexedTimes indexed first (refers.typeAt (by omega) gives.declares)
        (by omega)
    · rw [classOf, typeOf_eq_typeAt, typeAt_of_many_indexes indexed (by omega)]
      rfl

/-- In `func (x [][]int) { v := x[0]; v }` the variable `v` is an element of `x`, and the access
`x[0]` takes off the first of the two layers. -/
theorem elements_of_rows :
    typeAt ⟨[]⟩ 32 2 rowsUse = .ok { typeClass := .slice, element := some rowType } ∧
      ElementOf ⟨[]⟩ rowsUse 2 (rowUse firstRow) ∧
      typeAt ⟨[]⟩ 32 0 (rowUse firstRow) = underlying ⟨[]⟩ rowType ∧
      RefersTo ⟨[]⟩ rowsUse (.parameters rowsList) ∧
      (∃ core, Peels ⟨[]⟩ rowsType 2 core) ∧
      typeOf ⟨[]⟩ firstRowSite = underlying ⟨[]⟩ rowType := by
  have known : typeAt ⟨[]⟩ 32 2 rowsUse =
      .ok { typeClass := .slice, element := some rowType } := by
    rw [(refersTo_rowsUse ⟨[]⟩).typeAt (by decide) givesType_rowsList.declares]
    rfl
  have indexes : Indexes rowsUse firstRowSite := ⟨rfl, rfl⟩
  have element : ElementOf ⟨[]⟩ rowsUse 2 (rowUse firstRow) :=
    .given indexes (refersTo_rowUse ⟨[]⟩ laidOut_firstRow rfl rfl)
      (givesValue_rowDeclaration rfl)
  have layers : Peels ⟨[]⟩ rowsType 2 cellType :=
    .succ (.succ .zero ⟨rowsType, _, .refl, .slice rfl, rfl, rfl⟩)
      ⟨rowType, _, .refl, .slice rfl, rfl, rfl⟩
  have agree := elements_agree ⟨[]⟩
  obtain ⟨left, only, _, told⟩ := (agree.2 rowsUse _ rowsType cellType 2 (refersTo_rowsUse ⟨[]⟩)
    givesType_rowsList layers 1 _ (.succ .zero indexes)).1 (by decide)
  obtain rfl := (only rowType).1 (.succ .zero ⟨rowsType, _, .refl, .slice rfl, rfl, rfl⟩)
  refine ⟨known, element, ?_, refersTo_rowsUse ⟨[]⟩, ⟨cellType, layers⟩, told⟩
  exact (agree.1 32 0 rowsUse _ rowType rfl rfl).1 2 (rowUse firstRow) element known

end SliceGuard.Typing
