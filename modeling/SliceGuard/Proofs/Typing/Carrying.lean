import SliceGuard.Proofs.Typing.Declaration
import SliceGuard.Proofs.Typing.Versions

/-!
# What carries over to another package

Two packages are compared by the types and the expressions that stand for one another in them.  What
stands for one another leads to what stands for one another, and where both indexes answer alike for
the names that are asked on the way, an expression has the same type in both packages.  The second
package may also be allowed to know more than the first one: then every type that is known carries
over, and only what is unknown may change.  The induction is on the number of values that are
followed.
-/

namespace SliceGuard.Typing

open Syntax (Kind Node Role Site)
open Declarations

section Definitions

variable (types : Node → Node → Prop) (sites : Site → Site → Prop) (gains : Prop)

/-- The same class, with elements and keys that stand for one another. -/
structure TypeInfo.Carried (info other : TypeInfo) : Prop where
  typeClass : other.typeClass = info.typeClass
  element : Option.Rel types info.element other.element
  key : Option.Rel types info.key other.key

/-- What is known stays known, and what is unknown stays unknown unless something is gained. -/
inductive Knowledge.Carried : Knowledge → Knowledge → Prop
  | known {info other : TypeInfo} (same : info.Carried types other) : Carried (.ok info) (.ok other)
  | unknown (cause other : Unknown) : Carried (.error cause) (.error other)
  | gained (may : gains) (cause : Unknown) (knowledge : Knowledge) :
      Carried (.error cause) knowledge

/-- Bindings that say the same of a name.  Of the targets of a range only the first one is told
apart from the others. -/
inductive Binding.Carried : Binding → Binding → Prop
  | constant : Carried .constant .constant
  | typed {type other : Option Node} (same : Option.Rel types type other) :
      Carried (.typed type) (.typed other)
  | variadic {element other : Option Node} (same : Option.Rel types element other) :
      Carried (.variadic element) (.variadic other)
  | initialized {value other : Initializer} (same : Initializer.Alike sites value other) :
      Carried (.initialized value) (.initialized other)
  | ranged {container other : Option Site} (same : Option.Rel sites container other)
      {position position' : Nat} (first : position' = 0 ↔ position = 0) :
      Carried (.ranged container position) (.ranged other position')
  | untold : Carried .untold .untold

inductive Lead.Carried : Lead → Lead → Prop
  | settled {knowledge other : Knowledge} (same : knowledge.Carried types gains other) :
      Carried (.settled knowledge) (.settled other)
  | through {value other : Site} (same : sites value other) {passage passage' : Passage}
      (alike : ∀ index, passage'.apply index = passage.apply index) :
      Carried (.through value passage) (.through other passage')
  | gained (may : gains) (cause : Unknown) (lead : Lead) : Carried (.settled (.error cause)) lead

variable (names : String → Prop)

/-- Types and expressions that stand for one another lead to others that do, and they ask for no
other names. -/
structure Tracked : Prop where
  kind : ∀ type other, types type other → other.kind = type.kind
  name : ∀ type other, types type other → isTypeName type = true →
    other.text = type.text ∧ names type.text
  child? : ∀ type other, types type other → ∀ role, role ≠ .name →
    Option.Rel types (type.child? role) (other.child? role)
  core : ∀ type other, types type other → Option.Rel types (typeCore type) (typeCore other)
  node : ∀ site other, sites site other → types site.node other.node
  operand : ∀ site other, sites site other →
    Option.Rel sites (site.child? .operand) (other.child? .operand)
  inside : ∀ site other, sites site other → site.node.kind = .parenthesizedExpression →
    Option.Rel sites (site.named.find? (·.node.kind != .comment))
      (other.named.find? (·.node.kind != .comment))
  argument : ∀ site other, sites site other →
    Option.Rel sites (callArguments site).head? (callArguments other).head?

/-- Indexes that answer alike, apart from what the second one may declare in addition: names that
mean nothing where they are asked for in the first one. -/
structure Carries (index index' : Index) : Prop extends Tracked types sites names where
  type? : ∀ name, names name →
    Option.Rel (fun symbol other => Option.Rel types symbol.type other.type) (index.type? name)
        (index'.type? name) ∨
      gains ∧ index.type? name = none ∧ index.function? name = none ∧
        predeclaredTypes.contains name = false
  function? : ∀ name, names name →
    Option.Rel (fun symbol other => List.Forall₂ (Option.Rel types) (resultTypeNodes symbol.type)
        (resultTypeNodes other.type)) (index.function? name) (index'.function? name) ∨
      gains ∧ index.function? name = none
  binding? : ∀ site other, sites site other → site.node.kind = .identifier →
    Option.Rel (Binding.Carried types sites) (binding? index site) (binding? index' other) ∨
      gains ∧ binding? index site = none

end Definitions

variable {types : Node → Node → Prop} {sites : Site → Site → Prop} {gains : Prop}
  {names : String → Prop} {index index' : Index}

theorem Knowledge.carried_plain : Knowledge.Carried types gains (.ok .plain) (.ok .plain) :=
  .known ⟨rfl, .none, .none⟩

theorem Binding.carried_refl (reflTypes : ∀ type, types type type)
    (reflSites : ∀ site, sites site site) (binding : Binding) :
    binding.Carried types sites binding := by
  cases binding with
  | constant => exact .constant
  | typed type => exact .typed (rel_same fun _ _ => reflTypes _)
  | variadic element => exact .variadic (rel_same fun _ _ => reflTypes _)
  | initialized value =>
    cases value with
    | own value => exact .initialized (.own (reflSites value))
    | shared value position => exact .initialized (.shared (reflSites value) position)
  | ranged container position => exact .ranged (rel_same fun _ _ => reflSites _) Iff.rfl
  | untold => exact .untold

theorem Binding.ofValues_carried {values others : List Site}
    (all : List.Forall₂ sites values others) (position count : Nat) :
    (Binding.ofValues values position count).Carried types sites
      (.ofValues others position count) := by
  have same := assigned?_alike all position count
  unfold Binding.ofValues
  generalize assigned? values position count = value,
    assigned? others position count = value' at same
  cases same with
  | none => exact .untold
  | some here => exact .initialized here

theorem symbolBinding_carried {symbol other : Symbol} (kind : other.kind = symbol.kind)
    (type : Option.Rel types symbol.type other.type)
    (value : symbol.kind ≠ .constant →
      Option.Rel (Initializer.Alike sites) symbol.value other.value) :
    (symbolBinding symbol).Carried types sites (symbolBinding other) := by
  unfold symbolBinding
  rw [kind]
  split
  case isTrue => exact .constant
  case isFalse isVariable =>
    have value := value (by simpa using isVariable)
    generalize symbol.type = first, other.type = second at type
    cases type with
    | some here => exact .typed (.some here)
    | none =>
      generalize symbol.value = first, other.value = second at value
      cases value with
      | none => exact .untold
      | some here => exact .initialized here

/-- A name is bound by the scopes around it, or else by the package. -/
theorem binding?_eq_or (index : Index) (use : Site) :
    binding? index use =
      (localBinding? use).or ((index.value? use.node.text).map symbolBinding) := by
  unfold binding?
  cases localBinding? use <;> rfl

/-- A class that is known is the same in both packages. -/
theorem Knowledge.Carried.typeClass? {knowledge other : Knowledge}
    (same : knowledge.Carried types gains other) {typeClass : TypeClass}
    (known : knowledge.typeClass? = some typeClass) : other.typeClass? = some typeClass := by
  cases same with
  | known same => rw [← known]; exact congrArg some same.typeClass
  | unknown | gained => cases known

theorem Knowledge.Carried.typeClass?_eq {knowledge other : Knowledge}
    (same : knowledge.Carried types False other) : other.typeClass? = knowledge.typeClass? := by
  cases same with
  | known same => exact congrArg some same.typeClass
  | unknown => rfl
  | gained may => exact may.elim

theorem Knowledge.Carried.eq_ok {knowledge other : Knowledge}
    (same : knowledge.Carried Eq gains other) {info : TypeInfo} (known : knowledge = .ok info) :
    other = .ok info := by
  have equal {type other : Option Node} (both : Option.Rel Eq type other) : other = type := by
    cases both with
    | none => rfl
    | some same => rw [same]
  subst known
  cases same with
  | @known _ told same =>
    obtain ⟨typeClass, element, key⟩ := told
    obtain ⟨classes, elements, keys⟩ := same
    dsimp only at classes elements keys
    rw [classes, equal elements, equal keys]

namespace Tracked

variable (tracked : Tracked types sites names)

include tracked

theorem isTypeName {core other : Node} (same : types core other) :
    isTypeName other = Typing.isTypeName core := by
  rw [Typing.isTypeName, Typing.isTypeName, tracked.kind _ _ same]

theorem coreOf {type other : Option Node} (same : Option.Rel types type other) :
    Option.Rel types (type.bind typeCore) (other.bind typeCore) := by
  cases same with
  | none => exact .none
  | some same => exact tracked.core _ _ same

theorem writtenOut {core other : Node} (same : types core other) :
    Knowledge.Carried types gains (writtenOut core) (Typing.writtenOut other) := by
  have child := tracked.child? _ _ same
  unfold Typing.writtenOut
  rw [tracked.kind _ _ same]
  split
  case h_1 | h_2 | h_3 => exact .known ⟨rfl, child .element (by decide), .none⟩
  case h_4 => exact .known ⟨rfl, child .value (by decide), child .key (by decide)⟩
  case h_5 => exact .unknown _ _
  case h_6 => exact Knowledge.carried_plain

theorem siteKind {site other : Site} (same : sites site other) :
    other.node.kind = site.node.kind :=
  tracked.kind _ _ (tracked.node _ _ same)

/-- Parentheses are left alike, each within the limit of its own size. -/
theorem innerSite {site other : Site} (same : sites site other) {limit limit' : Nat}
    (enough : site.node.size ≤ limit) (enough' : other.node.size ≤ limit') :
    Option.Rel sites (innerSite site limit) (Typing.innerSite other limit') := by
  induction limit generalizing site other limit' with
  | zero =>
    have := site.node.size_pos
    omega
  | succ limit ih =>
    obtain ⟨limit', rfl⟩ : ∃ fewer, limit' = fewer + 1 :=
      ⟨limit' - 1, by have := other.node.size_pos; omega⟩
    unfold Typing.innerSite
    rw [tracked.siteKind same]
    split
    case isFalse => exact .some same
    case isTrue kind =>
      have inside := tracked.inside _ _ same (by simpa using kind)
      cases first : site.named.find? (·.node.kind != .comment) with
      | none =>
        rw [first] at inside
        rw [eq_none_of_rel_none inside]
        exact .none
      | some part =>
        rw [first] at inside
        obtain ⟨part', first', alike⟩ := exists_of_rel_some inside
        rw [first']
        have smaller := size_lt_of_mem_named (List.mem_of_find?_eq_some first)
        have smaller' := size_lt_of_mem_named (List.mem_of_find?_eq_some first')
        exact ih alike (by omega) (by omega)

end Tracked

namespace Carries

variable (carries : Carries types sites gains names index index')

include carries

theorem core_of_type? {name : String} (asked : names name) {symbol : Symbol}
    (declared : index.type? name = some symbol) :
    ∃ other, index'.type? name = some other ∧
      Option.Rel types (symbol.type.bind typeCore) (other.type.bind typeCore) := by
  rcases carries.type? name asked with symbols | ⟨_, undeclared, _⟩
  · rw [declared] at symbols
    obtain ⟨other, found, same⟩ := exists_of_rel_some symbols
    exact ⟨other, found, carries.coreOf same⟩
  · rw [declared] at undeclared
    cases undeclared

/-- A name that is asked for stands for the same type, where the same declared names are fresh. -/
theorem followName {fresh fresh' : List String}
    (agree : ∀ name, names name → (index.type? name).isSome = true →
      (name ∈ fresh' ↔ name ∈ fresh)) {name : String} (asked : names name) :
    Knowledge.Carried types gains (followName index fresh name)
      (Typing.followName index' fresh' name) := by
  -- An additional type may be fresh in the second package alone, but only a name that means nothing
  -- in the first one can lead to it.
  fun_induction Typing.followName index fresh name generalizing fresh' with
  | case1 fresh name undeclared =>
    rw [undeclaredType]
    rcases carries.type? name asked with symbols | ⟨may, _, _, other⟩
    · rw [undeclared] at symbols
      rw [Typing.followName.eq_def index', eq_none_of_rel_none symbols]
      dsimp only
      rw [undeclaredType]
      split
      · exact Knowledge.carried_plain
      · exact .unknown _ _
    · simp only [other, Bool.false_eq_true, if_false]
      exact .gained may _ _
  | case2 fresh name symbol declared isFresh coreless =>
    obtain ⟨other, found, cores⟩ := carries.core_of_type? asked declared
    rw [coreless] at cores
    have isFresh' := (agree name asked (by simp [declared])).2 isFresh
    rw [Typing.followName.eq_def index', found]
    simp only [isFresh', ↓reduceIte, eq_none_of_rel_none cores]
    exact .unknown _ _
  | case3 fresh name symbol declared isFresh core reached isName ih =>
    obtain ⟨other, found, cores⟩ := carries.core_of_type? asked declared
    rw [reached] at cores
    obtain ⟨core', reached', same⟩ := exists_of_rel_some cores
    obtain ⟨text, askedCore⟩ := carries.name _ _ same isName
    have isFresh' := (agree name asked (by simp [declared])).2 isFresh
    rw [Typing.followName.eq_def index', found]
    simp only [isFresh', ↓reduceIte, reached', carries.isTypeName same, isName, text]
    refine ih ?_ askedCore
    intro name askedName isDeclared
    rw [mem_without_iff, mem_without_iff, agree name askedName isDeclared]
  | case4 fresh name symbol declared isFresh core reached notName =>
    obtain ⟨other, found, cores⟩ := carries.core_of_type? asked declared
    rw [reached] at cores
    obtain ⟨core', reached', same⟩ := exists_of_rel_some cores
    have isFresh' := (agree name asked (by simp [declared])).2 isFresh
    rw [Typing.followName.eq_def index', found]
    simp only [isFresh', ↓reduceIte, reached', carries.isTypeName same, notName]
    exact carries.writtenOut same
  | case5 fresh name symbol declared notFresh =>
    obtain ⟨other, found, _⟩ := carries.core_of_type? asked declared
    have notFresh' := (agree name asked (by simp [declared])).not.2 notFresh
    rw [Typing.followName.eq_def index', found]
    simp only [notFresh', ↓reduceIte]
    exact .unknown _ _

theorem namedType {name : String} (asked : names name) :
    Knowledge.Carried types gains (namedType index name) (Typing.namedType index' name) := by
  apply carries.followName _ asked
  intro other askedOther declared
  obtain ⟨symbol, found⟩ := Option.isSome_iff_exists.1 declared
  obtain ⟨symbol', found', _⟩ := carries.core_of_type? askedOther found
  simp [mem_typeNames_iff, found, found']

theorem underlying {type other : Option Node} (same : Option.Rel types type other) :
    Knowledge.Carried types gains (underlying index type) (Typing.underlying index' other) := by
  have cores := carries.coreOf same
  unfold Typing.underlying
  generalize type.bind typeCore = core, other.bind typeCore = core' at cores
  cases cores with
  | none => exact .unknown _ _
  | some same =>
    dsimp only
    rw [carries.isTypeName same]
    split
    case isTrue isName =>
      obtain ⟨text, asked⟩ := carries.name _ _ same isName
      rw [text]
      exact carries.namedType asked
    case isFalse => exact carries.writtenOut same

theorem onlyResult {name : String} (asked : names name) :
    Knowledge.Carried types gains (onlyResult index name) (Typing.onlyResult index' name) := by
  unfold Typing.onlyResult
  rcases carries.function? name asked with symbols | ⟨may, undeclared⟩
  · generalize index.function? name = symbol, index'.function? name = symbol' at symbols
    cases symbols with
    | none => exact .unknown _ _
    | @some symbol symbol' results =>
      simp only [Option.map_some]
      generalize resultTypeNodes symbol.type = first,
        resultTypeNodes symbol'.type = second at results
      cases results with
      | nil => exact .unknown _ _
      | cons here rest =>
        cases rest with
        | nil => exact carries.underlying here
        | cons _ _ => exact .unknown _ _
  · rw [undeclared]
    exact .gained may _ _

theorem resultAt {call other : Node} (same : types call other) (position : Nat) :
    Knowledge.Carried types gains (resultAt index call position)
      (Typing.resultAt index' other position) := by
  have functions := carries.child? _ _ same .function (by decide)
  unfold Typing.resultAt
  generalize call.child? .function = function, other.child? .function = function' at functions
  cases functions with
  | none => exact .unknown _ _
  | @some function function' same =>
    dsimp only
    rw [carries.kind _ _ same]
    split
    case isFalse => exact .unknown _ _
    case isTrue isName =>
      obtain ⟨text, asked⟩ := carries.name _ _ same (by simp_all [Typing.isTypeName])
      rw [text]
      rcases carries.function? _ asked with symbols | ⟨may, undeclared⟩
      · generalize index.function? function.text = symbol,
          index'.function? function.text = symbol' at symbols
        cases symbols with
        | none => exact .unknown _ _
        | @some symbol symbol' results =>
          have found := rel_getElem? results position
          dsimp only
          generalize (resultTypeNodes symbol.type)[position]? = first,
            (resultTypeNodes symbol'.type)[position]? = second at found
          cases found with
          | none => exact .unknown _ _
          | some here => exact carries.underlying here
      · rw [undeclared]
        exact .gained may _ _

/-- What a passage makes of types that stand for one another. -/
theorem apply {info other : TypeInfo} (same : info.Carried types other) (passage : Passage) :
    Knowledge.Carried types gains (passage.apply index info) (passage.apply index' other) := by
  cases passage with
  | same => exact .known same
  | sliced =>
    refine .known ?_
    unfold sliceOf
    rw [same.typeClass]
    split
    · exact ⟨rfl, same.element, .none⟩
    · exact ⟨rfl, .none, .none⟩
  | indexed =>
    change Knowledge.Carried types gains (elementOf index info) (elementOf index' other)
    unfold elementOf
    rw [same.typeClass]
    split
    · exact carries.underlying same.element
    · exact Knowledge.carried_plain
  | ranged position =>
    change Knowledge.Carried types gains (rangeTarget index info position)
      (rangeTarget index' other position)
    unfold rangeTarget
    rw [same.typeClass]
    split
    · split
      · exact carries.underlying same.key
      · exact Knowledge.carried_plain
      · exact Knowledge.carried_plain
      · exact .unknown _ _
    · split
      · exact carries.underlying same.element
      · exact .unknown _ _

end Carries

theorem Lead.carried_toward {value other : Option Site} (same : Option.Rel sites value other)
    {passage passage' : Passage} (alike : ∀ index, passage'.apply index = passage.apply index) :
    Lead.Carried types sites gains (.toward passage value) (.toward passage' other) := by
  cases same with
  | none => exact .settled (.unknown _ _)
  | some here => exact .through here alike

/-- Targets of a range other than the first one are of one type. -/
theorem apply_ranged {position position' : Nat} (first : position' = 0 ↔ position = 0)
    (index : Index) :
    (Passage.ranged position').apply index = (Passage.ranged position).apply index := by
  funext info
  change rangeTarget index info position' = rangeTarget index info position
  unfold rangeTarget
  simp only [first]

namespace Carries

variable (carries : Carries types sites gains names index index')

include carries

theorem namedCallLead {name : String} (asked : names name) {arguments others : List Site}
    (first : Option.Rel sites arguments.head? others.head?) :
    Lead.Carried types sites gains (namedCallLead index name arguments)
      (Typing.namedCallLead index' name others) := by
  unfold Typing.namedCallLead
  split
  · refine .settled (carries.underlying ?_)
    generalize arguments.head? = argument, others.head? = argument' at first
    cases first with
    | none => exact .none
    | some here => exact .some (carries.node _ _ here)
  · exact .settled Knowledge.carried_plain
  · exact Lead.carried_toward first fun _ => rfl
  · exact .settled Knowledge.carried_plain
  · exact .settled Knowledge.carried_plain
  · exact .settled Knowledge.carried_plain
  · -- A type that is gained hides no function of the first package.
    rcases carries.type? name asked with symbols | ⟨may, undeclared, noFunction, _⟩
    · have same : (index'.type? name).isSome = (index.type? name).isSome := by
        generalize index.type? name = symbol, index'.type? name = symbol' at symbols
        cases symbols <;> rfl
      rw [same]
      split
      · exact .settled (carries.namedType asked)
      · exact .settled (carries.onlyResult asked)
    · have nothing : Typing.onlyResult index name = .error .untyped := by
        rw [Typing.onlyResult, noFunction]
        rfl
      rw [undeclared, Option.isSome_none, if_neg Bool.false_ne_true, nothing]
      exact .gained may _ _

theorem callLead {site other : Site} (same : sites site other) :
    Lead.Carried types sites gains (callLead index site) (Typing.callLead index' other) := by
  have first := carries.argument _ _ same
  have functions := carries.child? _ _ (carries.node _ _ same) .function (by decide)
  unfold Typing.callLead
  generalize site.node.child? .function = function,
    other.node.child? .function = function' at functions
  cases functions with
  | none => exact .settled (.unknown _ _)
  | @some function function' same =>
    dsimp only
    rw [carries.kind _ _ same]
    split
    case isTrue isName =>
      obtain ⟨text, asked⟩ := carries.name _ _ same (by simp_all [Typing.isTypeName])
      rw [text]
      exact carries.namedCallLead asked first
    case isFalse =>
      split
      · exact .settled (carries.underlying (.some same))
      · exact .settled (.unknown _ _)

theorem shareLead {value other : Site} (same : sites value other) (position : Nat) :
    Lead.Carried types sites gains (shareLead index value position)
      (Typing.shareLead index' other position) := by
  have values := carries.innerSite same (Nat.le_refl _) (Nat.le_refl _)
  unfold Typing.shareLead
  generalize innerSite value value.node.size = inner,
    innerSite other other.node.size = inner' at values
  cases values with
  | none => exact .settled (.unknown _ _)
  | @some inner inner' here =>
    dsimp only
    rw [carries.siteKind here]
    split
    case h_1 => exact .settled (carries.resultAt (carries.node _ _ here) position)
    case h_2 | h_3 =>
      split
      · exact .through here fun _ => rfl
      · exact .settled Knowledge.carried_plain
      · exact .settled (.unknown _ _)
    case h_4 =>
      split
      · exact .settled Knowledge.carried_plain
      · exact .settled (.unknown _ _)
    case h_5 => exact .settled (.unknown _ _)

theorem bindingLead {binding other : Binding} (same : binding.Carried types sites other) :
    Lead.Carried types sites gains (bindingLead index binding)
      (Typing.bindingLead index' other) := by
  cases same with
  | constant => exact .settled Knowledge.carried_plain
  | typed type => exact .settled (carries.underlying type)
  | variadic element => exact .settled (.known ⟨rfl, element, .none⟩)
  | initialized value =>
    cases value with
    | own here => exact .through here fun _ => rfl
    | shared here position => exact carries.shareLead here position
  | ranged container first => exact Lead.carried_toward container (apply_ranged first)
  | untold => exact .settled (.unknown _ _)

/-- One step from expressions that stand for one another. -/
theorem expressionLead {site other : Site} (same : sites site other) :
    Lead.Carried types sites gains (expressionLead index site)
      (Typing.expressionLead index' other) := by
  have operand := carries.operand _ _ same
  have type := carries.child? _ _ (carries.node _ _ same) .type (by decide)
  unfold Typing.expressionLead
  rw [carries.siteKind same]
  split
  case h_1 kind =>
    rcases carries.binding? _ _ same kind with bound | ⟨may, unbound⟩
    · generalize Typing.binding? index site = binding,
        Typing.binding? index' other = binding' at bound
      cases bound with
      | none => exact .settled (.unknown _ _)
      | some alike => exact carries.bindingLead alike
    · rw [unbound]
      exact .gained may _ _
  case h_2 kind => exact Lead.carried_toward (carries.inside _ _ same kind) fun _ => rfl
  case h_3 | h_4 => exact .settled Knowledge.carried_plain
  case h_5 | h_6 | h_7 => exact .settled (carries.underlying type)
  case h_8 | h_9 => exact Lead.carried_toward operand fun _ => rfl
  case h_10 => exact carries.callLead same
  case h_11 => exact .settled (.unknown _ _)

/-- Any number of steps from expressions that stand for one another. -/
theorem typeWithin (steps : Nat) {site other : Site} (same : sites site other) :
    Knowledge.Carried types gains (typeWithin index steps site)
      (Typing.typeWithin index' steps other) := by
  induction steps generalizing site other with
  | zero => exact .unknown _ _
  | succ steps ih =>
    have leads := carries.expressionLead same
    rw [typeWithin_succ, typeWithin_succ]
    generalize Typing.expressionLead index site = lead,
      Typing.expressionLead index' other = lead' at leads
    cases leads with
    | settled same => exact same
    | gained may cause lead => exact .gained may _ _
    | @through value value' here passage passage' alike =>
      have followed := ih here
      change Knowledge.Carried types gains
        (Typing.typeWithin index steps value >>= passage.apply index)
        (Typing.typeWithin index' steps value' >>= passage'.apply index')
      rw [alike]
      generalize Typing.typeWithin index steps value = told,
        Typing.typeWithin index' steps value' = told' at followed
      cases followed with
      | known info => exact carries.apply info passage
      | unknown cause cause' => exact .unknown _ _
      | gained may cause knowledge => exact .gained may _ _

end Carries

end SliceGuard.Typing
