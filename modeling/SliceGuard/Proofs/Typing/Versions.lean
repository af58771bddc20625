import SliceGuard.Proofs.Declarations.Alike
import SliceGuard.Proofs.Syntax.Rewriting
import SliceGuard.Proofs.Typing.Lead

/-!
# Types in two versions of a package

Where two versions of a package declare the same types, as far as these are asked for, and where
every name on the way to a type is bound alike and every function called there has the same results,
an expression leads to the same class in both versions.  The induction is on the number of values
that are followed: what an expression leads to in one version corresponds to what it leads to in the
other one.
-/

namespace SliceGuard.Typing

open Syntax (Kind Matching Node Role Site)
open Syntax.Node (Rewritten editedKinds mayDiffer_of_kind mayDiffer_of_role)
open Declarations
open Relation (ReflTransGen)

section Definitions

variable (names : String → Prop) (edit : Node → Node → Prop)

/-- Types that are the same up to edits inside their parts. -/
structure TypeInfo.Matched (info other : TypeInfo) : Prop where
  typeClass : other.typeClass = info.typeClass
  element : Option.Rel (Rewritten names edit) info.element other.element
  key : Option.Rel (Rewritten names edit) info.key other.key

inductive Knowledge.Matched : Knowledge → Knowledge → Prop
  | error (cause : Unknown) : Matched (.error cause) (.error cause)
  | ok {info other : TypeInfo} (same : info.Matched names edit other) :
      Matched (.ok info) (.ok other)

/-- Bindings that say the same of a name in two versions. -/
inductive Binding.Matched (related : Site → Site → Prop) : Binding → Binding → Prop
  | constant : Matched related .constant .constant
  | typed {type other : Option Node} (same : Option.Rel (Rewritten names edit) type other) :
      Matched related (.typed type) (.typed other)
  | variadic {element other : Option Node}
      (same : Option.Rel (Rewritten names edit) element other) :
      Matched related (.variadic element) (.variadic other)
  | initialized {value other : Initializer} (same : Initializer.Alike related value other) :
      Matched related (.initialized value) (.initialized other)
  | ranged {container other : Option Site} (same : Option.Rel related container other)
      (position : Nat) : Matched related (.ranged container position) (.ranged other position)
  | untold : Matched related .untold .untold

inductive Lead.Matched (related : Site → Site → Prop) : Lead → Lead → Prop
  | settled {knowledge other : Knowledge} (same : Knowledge.Matched names edit knowledge other) :
      Matched related (.settled knowledge) (.settled other)
  | through {value other : Site} (same : related value other) (passage : Passage) :
      Matched related (.through value passage) (.through other passage)

/-- Indexes that give the same types for the names that are asked for. -/
structure SameTypes (old new : Index) : Prop where
  type? : ∀ name, names name →
    Option.Rel (fun symbol other => Option.Rel (Rewritten names edit) symbol.type other.type)
      (old.type? name) (new.type? name)

/-- Indexes that give the same results for a function. -/
def SameFunction (old new : Index) (name : String) : Prop :=
  Option.Rel (fun symbol other => List.Forall₂ (Option.Rel (Rewritten names edit))
    (resultTypeNodes symbol.type) (resultTypeNodes other.type))
    (old.function? name) (new.function? name)

end Definitions

/-- The function that a call names. -/
def calledName? (call : Node) : Option String :=
  (call.child? .function).bind fun function =>
    if function.kind == .identifier then some function.text else none

/-- The function whose results a binding shares. -/
def sharedFunction? : Binding → Option String
  | .initialized (.shared value _) =>
    (innerSite value value.node.size).bind fun call => calledName? call.node
  | _ => none

/-- The function whose results an expression asks for by itself. -/
def askedFunction? (index : Index) (site : Site) : Option String :=
  match site.node.kind with
  | .identifier => (binding? index site).bind sharedFunction?
  | .callExpression => calledName? site.node
  | _ => none

variable {names : String → Prop} {edit : Node → Node → Prop} {related : Site → Site → Prop}
  {index index' : Index}

theorem Knowledge.Matched.typeClass? {knowledge other : Knowledge}
    (same : Knowledge.Matched names edit knowledge other) :
    other.typeClass? = knowledge.typeClass? := by
  cases same with
  | error cause => rfl
  | ok same => exact congrArg some same.typeClass

theorem TypeInfo.matched_plain : TypeInfo.plain.Matched names edit TypeInfo.plain :=
  ⟨rfl, .none, .none⟩

theorem Knowledge.matched_plain : Knowledge.Matched names edit (.ok .plain) (.ok .plain) :=
  .ok TypeInfo.matched_plain

theorem core_matched {type other : Option Node}
    (same : Option.Rel (Rewritten names edit) type other) :
    Option.Rel (Rewritten names edit) (type.bind typeCore) (other.bind typeCore) := by
  cases same with
  | none => exact .none
  | some same =>
    apply same.descend
    · intro kind picks rule
      unfold coreRule at rule
      split at rule
      · rfl
      · rfl
      · cases rule
    · intro kind picks rule old new head
      unfold coreRule at rule
      split at rule <;> cases rule
      · exact head.isNamed
      · exact head.plays .type

theorem writtenOut_matched {core other : Node} (same : Rewritten names edit core other) :
    Knowledge.Matched names edit (writtenOut core) (writtenOut other) := by
  have child (role : Role) (must : core.mayDiffer = false) := same.child? must role
  unfold writtenOut
  rw [same.kind]
  split
  case h_1 kind => exact .ok ⟨rfl, child .element (mayDiffer_of_kind kind rfl), .none⟩
  case h_2 kind => exact .ok ⟨rfl, child .element (mayDiffer_of_kind kind rfl), .none⟩
  case h_3 kind => exact .ok ⟨rfl, child .element (mayDiffer_of_kind kind rfl), .none⟩
  case h_4 kind =>
    have must := mayDiffer_of_kind kind rfl
    exact .ok ⟨rfl, child .value must, child .key must⟩
  case h_5 => exact .error .foreignType
  case h_6 => exact Knowledge.matched_plain

theorem isTypeName_matched {core other : Node} (same : Rewritten names edit core other) :
    isTypeName other = isTypeName core := by
  rw [isTypeName, isTypeName, same.kind]

/-- The name of a type is the same in both versions, and it is asked for. -/
theorem text_of_isTypeName {core other : Node} (same : Rewritten names edit core other)
    (isName : isTypeName core = true) : other.text = core.text ∧ names core.text := by
  have kinds : core.kind = .typeIdentifier ∨ core.kind = .identifier := by
    simpa [isTypeName] using isName
  constructor
  · exact same.head.text_of_kind (by tauto)
  · exact same.head.asked (by rcases kinds with kind | kind <;> simp [Node.isName, kind])

theorem mem_typeNames_iff {name : String} :
    name ∈ index.typeNames ↔ (index.type? name).isSome = true := by
  constructor
  · intro mem
    obtain ⟨symbol, listed, rfl⟩ := List.mem_map.1 mem
    obtain ⟨listed, kind⟩ := List.mem_filter.1 listed
    rw [Index.type?, Index.find?, List.find?_isSome]
    exact ⟨symbol, listed, by simpa using kind⟩
  · intro found
    obtain ⟨symbol, found⟩ := Option.isSome_iff_exists.1 found
    exact Index.mem_typeNames_of_type? found

namespace SameTypes

/-- A type that is declared in one version is declared in the other one, with the same core. -/
theorem core_of_type? (same : SameTypes names edit index index') {name : String}
    (asked : names name) {symbol : Symbol} (declared : index.type? name = some symbol) :
    ∃ other, index'.type? name = some other ∧
      Option.Rel (Rewritten names edit) (symbol.type.bind typeCore)
        (other.type.bind typeCore) := by
  have symbols := same.type? name asked
  rw [declared] at symbols
  obtain ⟨other, found, types⟩ := exists_of_rel_some symbols
  exact ⟨other, found, core_matched types⟩

/-- A name that is asked for stands for the same type, where the same names are fresh. -/
theorem followName (same : SameTypes names edit index index') {fresh fresh' : List String}
    (agree : ∀ name, names name → (name ∈ fresh' ↔ name ∈ fresh)) {name : String}
    (asked : names name) :
    Knowledge.Matched names edit (followName index fresh name)
      (Typing.followName index' fresh' name) := by
  -- The fresh names are those of all declared types, of which the versions may have different ones
  -- that are not asked for.
  fun_induction Typing.followName index fresh name generalizing fresh' with
  | case1 fresh name undeclared =>
    have symbols := same.type? name asked
    rw [undeclared] at symbols
    rw [Typing.followName.eq_def index', eq_none_of_rel_none symbols]
    unfold undeclaredType
    dsimp only
    split
    · exact Knowledge.matched_plain
    · exact .error _
  | case2 fresh name symbol declared isFresh coreless =>
    obtain ⟨other, found, cores⟩ := same.core_of_type? asked declared
    rw [coreless] at cores
    rw [Typing.followName.eq_def index', found]
    simp only [(agree name asked).2 isFresh, ↓reduceIte, eq_none_of_rel_none cores]
    exact .error _
  | case3 fresh name symbol declared isFresh core reached isName ih =>
    obtain ⟨other, found, cores⟩ := same.core_of_type? asked declared
    rw [reached] at cores
    obtain ⟨core', reached', part⟩ := exists_of_rel_some cores
    obtain ⟨text, askedCore⟩ := text_of_isTypeName part isName
    rw [Typing.followName.eq_def index', found]
    simp only [(agree name asked).2 isFresh, ↓reduceIte, reached', isTypeName_matched part, isName,
      text]
    refine ih ?_ askedCore
    intro name askedName
    rw [mem_without_iff, mem_without_iff, agree name askedName]
  | case4 fresh name symbol declared isFresh core reached notName =>
    obtain ⟨other, found, cores⟩ := same.core_of_type? asked declared
    rw [reached] at cores
    obtain ⟨core', reached', part⟩ := exists_of_rel_some cores
    rw [Typing.followName.eq_def index', found]
    simp only [(agree name asked).2 isFresh, ↓reduceIte, reached', isTypeName_matched part, notName]
    exact writtenOut_matched part
  | case5 fresh name symbol declared notFresh =>
    obtain ⟨other, found, _⟩ := same.core_of_type? asked declared
    rw [Typing.followName.eq_def index', found]
    simp only [(agree name asked).not.2 notFresh, ↓reduceIte]
    exact .error _

theorem isSome_type? (same : SameTypes names edit index index') {name : String}
    (asked : names name) : (index'.type? name).isSome = (index.type? name).isSome := by
  have symbols := same.type? name asked
  generalize index.type? name = symbol, index'.type? name = other at symbols
  cases symbols <;> rfl

theorem namedType (same : SameTypes names edit index index') {name : String}
    (asked : names name) :
    Knowledge.Matched names edit (namedType index name) (Typing.namedType index' name) := by
  apply same.followName _ asked
  intro other askedOther
  rw [mem_typeNames_iff, mem_typeNames_iff, same.isSome_type? askedOther]

theorem underlying (same : SameTypes names edit index index') {type other : Option Node}
    (types : Option.Rel (Rewritten names edit) type other) :
    Knowledge.Matched names edit (underlying index type) (Typing.underlying index' other) := by
  have cores := core_matched types
  unfold Typing.underlying
  generalize type.bind typeCore = core, other.bind typeCore = core' at cores
  cases cores with
  | none => exact .error _
  | @some core core' part =>
    dsimp only
    rw [isTypeName_matched part]
    split
    case isTrue isName =>
      obtain ⟨text, asked⟩ := text_of_isTypeName part isName
      rw [text]
      exact same.namedType asked
    case isFalse => exact writtenOut_matched part

theorem onlyResult (same : SameTypes names edit index index') {name : String}
    (symbols : SameFunction names edit index index' name) :
    Knowledge.Matched names edit (onlyResult index name) (Typing.onlyResult index' name) := by
  unfold SameFunction at symbols
  unfold Typing.onlyResult
  generalize index.function? name = symbol, index'.function? name = symbol' at symbols
  cases symbols with
  | none => exact .error _
  | @some symbol symbol' types =>
    simp only [Option.map_some]
    generalize resultTypeNodes symbol.type = first, resultTypeNodes symbol'.type = second at types
    cases types with
    | nil => exact .error _
    | cons here rest =>
      cases rest with
      | nil => exact same.underlying here
      | cons _ _ => exact .error _

theorem resultAt (same : SameTypes names edit index index') {call other : Node}
    (calls : Rewritten names edit call other) (kind : call.kind = .callExpression)
    (results : ∀ name, calledName? call = some name → names name →
      SameFunction names edit index index' name)
    (position : Nat) :
    Knowledge.Matched names edit (resultAt index call position)
      (Typing.resultAt index' other position) := by
  have functions := calls.child? (mayDiffer_of_kind kind rfl) .function
  unfold calledName? at results
  unfold Typing.resultAt
  generalize call.child? .function = function,
    other.child? .function = function' at functions results
  cases functions with
  | none => exact .error _
  | @some function function' part =>
    dsimp only
    rw [part.kind]
    split
    case isFalse => exact .error _
    case isTrue isName =>
      have isName : function.kind = .identifier := by simpa using isName
      have asked : names function.text := part.head.asked (by simp [Node.isName, isName])
      have symbols := results function.text (by simp [isName]) asked
      unfold SameFunction at symbols
      rw [part.head.text_of_kind (.inl isName)]
      generalize index.function? function.text = symbol,
        index'.function? function.text = symbol' at symbols
      cases symbols with
      | none => exact .error _
      | @some symbol symbol' types =>
        have found := rel_getElem? types position
        dsimp only
        generalize (resultTypeNodes symbol.type)[position]? = first,
          (resultTypeNodes symbol'.type)[position]? = second at found
        cases found with
        | none => exact .error _
        | some here => exact same.underlying here

/-- What a passage makes of two versions of a type. -/
theorem apply (same : SameTypes names edit index index') {info other : TypeInfo}
    (types : info.Matched names edit other) (passage : Passage) :
    Knowledge.Matched names edit (passage.apply index info) (passage.apply index' other) := by
  cases passage with
  | same => exact .ok types
  | sliced =>
    refine .ok ?_
    unfold sliceOf
    rw [types.typeClass]
    split
    · exact ⟨rfl, types.element, .none⟩
    · exact TypeInfo.matched_plain
  | indexed =>
    change Knowledge.Matched names edit (elementOf index info) (elementOf index' other)
    unfold elementOf
    rw [types.typeClass]
    split
    · exact same.underlying types.element
    · exact Knowledge.matched_plain
  | ranged position =>
    change Knowledge.Matched names edit (rangeTarget index info position)
      (rangeTarget index' other position)
    unfold rangeTarget
    rw [types.typeClass]
    split
    · split
      · exact same.underlying types.key
      · exact Knowledge.matched_plain
      · exact Knowledge.matched_plain
      · exact .error _
    · split
      · exact same.underlying types.element
      · exact .error _

end SameTypes

theorem size_lt_of_mem_named {site part : Site} (mem : part ∈ site.named) :
    part.node.size < site.node.size := by
  obtain ⟨node, named, rfl⟩ := List.mem_map.1 mem
  exact Node.size_lt_of_mem (Node.mem_named_iff.1 named).1

section Leads

variable {old new : Site}

theorem Lead.matched_toward {value other : Option Site} (same : Option.Rel related value other)
    (passage : Passage) :
    Lead.Matched names edit related (.toward passage value) (.toward passage other) := by
  cases same with
  | none => exact .settled (.error _)
  | some here => exact .through here passage

theorem callArguments_matched (matching : Matching names edit related) (here : related old new)
    (kind : old.node.kind = .callExpression) :
    List.Forall₂ related (callArguments old) (callArguments new) := by
  have must := mayDiffer_of_kind kind rfl
  apply forall₂_filter _ (matching.namedIn here must (by decide : Role.arguments ≠ .initializer))
  intro argument other part
  rw [matching.kind part]

theorem rel_inside (matching : Matching names edit related) (here : related old new)
    (kind : old.node.kind = .parenthesizedExpression) :
    Option.Rel related (old.named.find? (·.node.kind != .comment))
      (new.named.find? (·.node.kind != .comment)) := by
  apply rel_find? _ (matching.named here (mayDiffer_of_kind kind rfl))
  intro part other same
  rw [matching.kind same]

/-- Parentheses are left alike in both versions. -/
theorem innerSite_matched (matching : Matching names edit related) (here : related old new)
    {limit limit' : Nat} (enough : old.node.size ≤ limit) (enough' : new.node.size ≤ limit') :
    Option.Rel related (innerSite old limit) (innerSite new limit') := by
  -- Each version is limited by its own size, so the limits go down by themselves.
  induction limit generalizing old new limit' with
  | zero =>
    have := old.node.size_pos
    omega
  | succ limit ih =>
    obtain ⟨limit', rfl⟩ : ∃ fewer, limit' = fewer + 1 :=
      ⟨limit' - 1, by have := new.node.size_pos; omega⟩
    unfold innerSite
    rw [matching.kind here]
    split
    case isFalse => exact .some here
    case isTrue kind =>
      have inside := rel_inside matching here (by simpa using kind)
      cases first : old.named.find? (·.node.kind != .comment) with
      | none =>
        rw [first] at inside
        rw [eq_none_of_rel_none inside]
        exact .none
      | some part =>
        rw [first] at inside
        obtain ⟨part', first', same⟩ := exists_of_rel_some inside
        rw [first']
        have smaller := size_lt_of_mem_named (List.mem_of_find?_eq_some first)
        have smaller' := size_lt_of_mem_named (List.mem_of_find?_eq_some first')
        exact ih same (by omega) (by omega)

theorem namedCallLead_matched (matching : Matching names edit related)
    (same : SameTypes names edit index index') {name : String} (asked : names name)
    (results : SameFunction names edit index index' name) {arguments others : List Site}
    (all : List.Forall₂ related arguments others) :
    Lead.Matched names edit related (namedCallLead index name arguments)
      (namedCallLead index' name others) := by
  have first : Option.Rel related arguments.head? others.head? := by
    cases all with
    | nil => exact .none
    | cons here _ => exact .some here
  unfold namedCallLead
  split
  · refine .settled (same.underlying ?_)
    generalize arguments.head? = argument, others.head? = argument' at first
    cases first with
    | none => exact .none
    | some here => exact .some (matching.node here)
  · exact .settled Knowledge.matched_plain
  · exact Lead.matched_toward first .same
  · exact .settled Knowledge.matched_plain
  · exact .settled Knowledge.matched_plain
  · exact .settled Knowledge.matched_plain
  · rw [same.isSome_type? asked]
    split
    · exact .settled (same.namedType asked)
    · exact .settled (same.onlyResult results)

theorem callLead_matched (matching : Matching names edit related)
    (same : SameTypes names edit index index') (here : related old new)
    (kind : old.node.kind = .callExpression)
    (results : ∀ name, calledName? old.node = some name → names name →
      SameFunction names edit index index' name) :
    Lead.Matched names edit related (callLead index old) (callLead index' new) := by
  have arguments := callArguments_matched matching here kind
  have functions := (matching.node here).child? (mayDiffer_of_kind kind rfl) .function
  unfold calledName? at results
  unfold callLead
  generalize old.node.child? .function = function,
    new.node.child? .function = function' at functions results
  cases functions with
  | none => exact .settled (.error _)
  | @some function function' part =>
    dsimp only
    rw [part.kind]
    split
    case isTrue isName =>
      have isName : function.kind = .identifier := by simpa using isName
      have asked : names function.text := part.head.asked (by simp [Node.isName, isName])
      rw [part.head.text_of_kind (.inl isName)]
      exact namedCallLead_matched matching same asked
        (results function.text (by simp [isName]) asked) arguments
    case isFalse =>
      split
      · exact .settled (same.underlying (.some part))
      · exact .settled (.error _)

theorem shareLead_matched (matching : Matching names edit related)
    (same : SameTypes names edit index index') (here : related old new) (position : Nat)
    (results : ∀ name, sharedFunction? (.initialized (.shared old position)) = some name →
      names name → SameFunction names edit index index' name) :
    Lead.Matched names edit related (shareLead index old position)
      (shareLead index' new position) := by
  have values := innerSite_matched matching here (Nat.le_refl _) (Nat.le_refl _)
  simp only [sharedFunction?] at results
  unfold shareLead
  generalize innerSite old old.node.size = value,
    innerSite new new.node.size = value' at values results
  cases values with
  | none => exact .settled (.error _)
  | @some value value' part =>
    dsimp only
    rw [matching.kind part]
    split
    case h_1 kind => exact .settled (same.resultAt (matching.node part) kind results position)
    case h_2 | h_3 =>
      split
      · exact .through part .same
      · exact .settled Knowledge.matched_plain
      · exact .settled (.error _)
    case h_4 =>
      split
      · exact .settled Knowledge.matched_plain
      · exact .settled (.error _)
    case h_5 => exact .settled (.error _)

theorem bindingLead_matched (matching : Matching names edit related)
    (same : SameTypes names edit index index') {binding other : Binding}
    (bindings : Binding.Matched names edit related binding other)
    (results : ∀ name, sharedFunction? binding = some name → names name →
      SameFunction names edit index index' name) :
    Lead.Matched names edit related (bindingLead index binding) (bindingLead index' other) := by
  cases bindings with
  | constant => exact .settled Knowledge.matched_plain
  | typed type => exact .settled (same.underlying type)
  | variadic element => exact .settled (.ok ⟨rfl, element, .none⟩)
  | initialized value =>
    cases value with
    | own here => exact .through here .same
    | shared here position => exact shareLead_matched matching same here position results
  | ranged container position => exact Lead.matched_toward container (.ranged position)
  | untold => exact .settled (.error _)

/-- What an expression leads to corresponds in both versions, where a name is bound alike. -/
theorem expressionLead_matched (matching : Matching names edit related)
    (same : SameTypes names edit index index') (here : related old new)
    (bound : old.node.kind = .identifier →
      Option.Rel (Binding.Matched names edit related) (binding? index old) (binding? index' new))
    (results : ∀ name, askedFunction? index old = some name → names name →
      SameFunction names edit index index' name) :
    Lead.Matched names edit related (expressionLead index old) (expressionLead index' new) := by
  have child (role : Role) (must : old.node.mayDiffer = false) :=
    matching.child? here must role
  have type (must : old.node.mayDiffer = false) := (matching.node here).child? must .type
  unfold askedFunction? at results
  unfold expressionLead
  rw [matching.kind here]
  split
  case h_1 kind =>
    have bound := bound kind
    rw [kind] at results
    rw [matching.text here kind]
    generalize binding? index old = binding, binding? index' new = binding' at bound results
    cases bound with
    | none => exact .settled (.error _)
    | some bindings => exact bindingLead_matched matching same bindings results
  case h_2 kind => exact Lead.matched_toward (rel_inside matching here kind) .same
  case h_3 | h_4 => exact .settled Knowledge.matched_plain
  case h_5 kind | h_6 kind | h_7 kind =>
    exact .settled (same.underlying (type (mayDiffer_of_kind kind rfl)))
  case h_8 kind => exact Lead.matched_toward (child .operand (mayDiffer_of_kind kind rfl)) .sliced
  case h_9 kind => exact Lead.matched_toward (child .operand (mayDiffer_of_kind kind rfl)) .indexed
  case h_10 kind =>
    rw [kind] at results
    exact callLead_matched matching same here kind results
  case h_11 => exact .settled (.error _)

/-- An expression has the same type in both versions, where the names on the way to it are bound
alike. -/
theorem typeWithin_matched (matching : Matching names edit related)
    (same : SameTypes names edit index index') (steps : Nat) (here : related old new)
    (bound : ∀ use use', Reaches index old use → related use use' → use.node.kind = .identifier →
      Option.Rel (Binding.Matched names edit related) (binding? index use)
        (binding? index' use'))
    (results : ∀ use name, Reaches index old use → askedFunction? index use = some name →
      names name → SameFunction names edit index index' name) :
    Knowledge.Matched names edit (typeWithin index steps old) (typeWithin index' steps new) := by
  induction steps generalizing old new with
  | zero => exact .error _
  | succ steps ih =>
    have leads := expressionLead_matched matching same here (bound old new .refl here)
      fun name => results old name .refl
    rw [typeWithin_succ, typeWithin_succ]
    generalize lead : expressionLead index old = first,
      expressionLead index' new = second at leads
    cases leads with
    | settled same => exact same
    | @through value value' part passage =>
      have further {use : Site} (reached : Reaches index value use) : Reaches index old use :=
        ReflTransGen.head ⟨passage, lead⟩ reached
      have followed := ih part (fun use use' reached => bound use use' (further reached))
        fun use name reached => results use name (further reached)
      change Knowledge.Matched names edit (typeWithin index steps value >>= passage.apply index)
        (typeWithin index' steps value' >>= passage.apply index')
      generalize typeWithin index steps value = answer,
        typeWithin index' steps value' = answer' at followed
      cases followed with
      | error cause => exact .error cause
      | ok types => exact same.apply types passage

end Leads

end SliceGuard.Typing
