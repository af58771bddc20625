import SliceGuard.Proofs.Typing.Lead

/-!
# The limit on the search for a type

The search for a type gives up beyond a limit on its depth.  A larger limit, or a search begun less
deep, finds every type that was found before and no other.  What any limit finds is what the rules
say that have no limit at all, and what leads back to itself has no type under any limit.
-/

namespace SliceGuard.Typing

open Syntax (Kind Node Site)
open Declarations
open Relation (ReflTransGen TransGen)

variable {index : Index}

/-- The type of an expression that is looked at in some depth, where the search goes no deeper
than the limit. -/
def typeAt (index : Index) (limit depth : Nat) (site : Site) : Knowledge :=
  if limit < depth then .error .tooDeep
  else expressionType index (typeAt index limit (depth + 1)) site
termination_by limit + 1 - depth
decreasing_by omega

theorem typeAt_eq {limit depth : Nat} (within : depth ≤ limit) (site : Site) :
    typeAt index limit depth site = expressionType index (typeAt index limit (depth + 1)) site := by
  rw [typeAt, if_neg (by omega)]

theorem typeAt_of_lt {limit depth : Nat} (beyond : limit < depth) (site : Site) :
    typeAt index limit depth site = .error .tooDeep := by
  rw [typeAt, if_pos beyond]

/-- What is known has been found within the limit. -/
theorem within_of_typeAt {limit depth : Nat} {site : Site} {info : TypeInfo}
    (known : typeAt index limit depth site = .ok info) : depth ≤ limit := by
  rcases Nat.lt_or_ge limit depth with beyond | within
  · rw [typeAt_of_lt beyond] at known
    cases known
  · exact within

theorem typeAt_eq_typeWithin (index : Index) (limit depth : Nat) :
    typeAt index limit depth = typeWithin index (limit + 1 - depth) := by
  generalize left : limit + 1 - depth = steps
  induction steps generalizing depth with
  | zero =>
    funext site
    rw [typeAt, if_pos (by omega), typeWithin]
  | succ steps ih =>
    funext site
    rw [typeAt, if_neg (by omega), ih (depth + 1) (by omega), typeWithin]

theorem typeOf_eq_typeAt (index : Index) (site : Site) :
    typeOf index site = typeAt index 32 0 site := by
  rw [typeAt_eq_typeWithin]
  rfl

/-- A type that is found when few values are followed is found when more are. -/
theorem typeWithin_mono {steps more : Nat} (le : steps ≤ more) {site : Site} {info : TypeInfo}
    (found : typeWithin index steps site = .ok info) : typeWithin index more site = .ok info := by
  induction steps generalizing more site info with
  | zero => simp [typeWithin] at found
  | succ steps ih =>
    obtain ⟨more, rfl⟩ : ∃ fewer, more = fewer + 1 := ⟨more - 1, by omega⟩
    rw [typeWithin_succ_eq_ok_iff] at found ⊢
    exact found.mono fun value told followed => ih (by omega) followed

/-- The rules that give an expression its type, with no limit on their use. -/
inductive HasType (index : Index) : Site → TypeInfo → Prop
  | constant {use : Site} :
      use.node.kind = .identifier → binding? index use = some .constant →
      HasType index use .plain
  | typed {use : Site} {type : Option Node} {info : TypeInfo} :
      use.node.kind = .identifier → binding? index use = some (.typed type) →
      underlying index type = .ok info → HasType index use info
  | variadic {use : Site} {element : Option Node} :
      use.node.kind = .identifier → binding? index use = some (.variadic element) →
      HasType index use { typeClass := .slice, element }
  | own {use value : Site} {info : TypeInfo} :
      use.node.kind = .identifier → binding? index use = some (.initialized (.own value)) →
      HasType index value info → HasType index use info
  | shareOfCall {use value call : Site} {position : Nat} {info : TypeInfo} :
      use.node.kind = .identifier →
      binding? index use = some (.initialized (.shared value position)) →
      innerSite value value.node.size = some call → call.node.kind = .callExpression →
      resultAt index call.node position = .ok info → HasType index use info
  | found {use value inner : Site} {info : TypeInfo} :
      use.node.kind = .identifier → binding? index use = some (.initialized (.shared value 0)) →
      innerSite value value.node.size = some inner →
      inner.node.kind ∈ [.indexExpression, .typeAssertionExpression] →
      HasType index inner info → HasType index use info
  | foundOrNot {use value inner : Site} :
      use.node.kind = .identifier → binding? index use = some (.initialized (.shared value 1)) →
      innerSite value value.node.size = some inner →
      inner.node.kind ∈ [.indexExpression, .typeAssertionExpression, .unaryExpression] →
      HasType index use .plain
  | ranged {use container : Site} {position : Nat} {told info : TypeInfo} :
      use.node.kind = .identifier → binding? index use = some (.ranged container position) →
      HasType index container told → rangeTarget index told position = .ok info →
      HasType index use info
  | parenthesized {site inner : Site} {info : TypeInfo} :
      site.node.kind = .parenthesizedExpression →
      site.named.find? (·.node.kind != .comment) = some inner →
      HasType index inner info → HasType index site info
  | text {site : Site} :
      site.node.kind ∈ [.interpretedStringLiteral, .rawStringLiteral] →
      HasType index site .plain
  | written {site : Site} {info : TypeInfo} :
      site.node.kind ∈ [.compositeLiteral, .typeConversionExpression, .typeAssertionExpression] →
      underlying index (site.node.child? .type) = .ok info → HasType index site info
  | sliced {site operand : Site} {info : TypeInfo} :
      site.node.kind = .sliceExpression → site.child? .operand = some operand →
      HasType index operand info → HasType index site (sliceOf info)
  | indexed {site operand : Site} {container info : TypeInfo} :
      site.node.kind = .indexExpression → site.child? .operand = some operand →
      HasType index operand container → elementOf index container = .ok info →
      HasType index site info
  | made {call : Site} {function : Node} {info : TypeInfo} :
      call.node.kind = .callExpression → call.node.child? .function = some function →
      function.kind = .identifier → function.text = "make" →
      underlying index ((callArguments call).head?.map Site.node) = .ok info →
      HasType index call info
  | appended {call first : Site} {function : Node} {info : TypeInfo} :
      call.node.kind = .callExpression → call.node.child? .function = some function →
      function.kind = .identifier → function.text = "append" →
      (callArguments call).head? = some first → HasType index first info → HasType index call info
  | builtin {call : Site} {function : Node} :
      call.node.kind = .callExpression → call.node.child? .function = some function →
      function.kind = .identifier → function.text ∈ ["new", "len", "cap", "copy"] →
      HasType index call .plain
  | named {call : Site} {function : Node} {info : TypeInfo} :
      call.node.kind = .callExpression → call.node.child? .function = some function →
      function.kind = .identifier →
      function.text ∉ ["make", "new", "append", "len", "cap", "copy"] →
      (index.type? function.text).isSome → namedType index function.text = .ok info →
      HasType index call info
  | result {call : Site} {function : Node} {info : TypeInfo} :
      call.node.kind = .callExpression → call.node.child? .function = some function →
      function.kind = .identifier →
      function.text ∉ ["make", "new", "append", "len", "cap", "copy"] →
      index.type? function.text = none → onlyResult index function.text = .ok info →
      HasType index call info
  | converted {call : Site} {function : Node} {info : TypeInfo} :
      call.node.kind = .callExpression → call.node.child? .function = some function →
      isConversionKind function.kind = true → underlying index function = .ok info →
      HasType index call info

section Complete

variable {site : Site} {info : TypeInfo}

theorem hasType_of_share {value : Site} {position : Nat} (kind : site.node.kind = .identifier)
    (bound : binding? index site = some (.initialized (.shared value position)))
    (gives : (shareLead index value position).Gives index (HasType index) info) :
    HasType index site info := by
  unfold shareLead at gives
  cases left : innerSite value value.node.size with
  | none => simp [left, Lead.Gives] at gives
  | some inner =>
    simp only [left] at gives
    split at gives
    case h_1 call => exact .shareOfCall kind bound left call gives
    case h_2 inside | h_3 inside =>
      rcases position with _ | _ | position
      · obtain ⟨told, has, rfl⟩ : ∃ told, HasType index inner told ∧ told = info := by
          simpa [Lead.Gives, Passage.apply] using gives
        exact .found kind bound left (by simp [inside]) has
      · obtain rfl : TypeInfo.plain = info := by simpa [Lead.Gives] using gives
        exact .foundOrNot kind bound left (by simp [inside])
      · simp [Lead.Gives] at gives
    case h_4 inside =>
      by_cases second : position = 1
      · subst second
        obtain rfl : TypeInfo.plain = info := by simpa [Lead.Gives] using gives
        exact .foundOrNot kind bound left (by simp [inside])
      · simp [Lead.Gives, second] at gives
    case h_5 => simp [Lead.Gives] at gives

theorem hasType_of_binding {binding : Binding} (kind : site.node.kind = .identifier)
    (bound : binding? index site = some binding)
    (gives : (bindingLead index binding).Gives index (HasType index) info) :
    HasType index site info := by
  cases binding with
  | constant =>
    obtain rfl : TypeInfo.plain = info := by simpa [bindingLead, Lead.Gives] using gives
    exact .constant kind bound
  | typed type => exact .typed kind bound gives
  | variadic element =>
    obtain rfl : _ = info := by simpa [bindingLead, Lead.Gives] using gives
    exact .variadic kind bound
  | initialized value =>
    cases value with
    | own value =>
      obtain ⟨told, has, rfl⟩ : ∃ told, HasType index value told ∧ told = info := by
        simpa [bindingLead, Lead.Gives, Passage.apply] using gives
      exact .own kind bound has
    | shared value position => exact hasType_of_share kind bound gives
  | ranged container position =>
    obtain ⟨told, info', rfl, has, target⟩ := Lead.gives_toward_iff.1 gives
    exact .ranged kind bound has target
  | untold => simp [bindingLead, Lead.Gives] at gives

theorem hasType_of_call (kind : site.node.kind = .callExpression)
    (gives : (callLead index site).Gives index (HasType index) info) :
    HasType index site info := by
  unfold callLead at gives
  cases called : site.node.child? .function with
  | none => simp [called, Lead.Gives] at gives
  | some function =>
    simp only [called, beq_iff_eq] at gives
    split at gives
    case isTrue isName =>
      unfold namedCallLead at gives
      split at gives
      case h_1 name => exact .made kind called isName name gives
      case h_2 name | h_4 name | h_5 name | h_6 name =>
        obtain rfl : TypeInfo.plain = info := by simpa [Lead.Gives] using gives
        exact .builtin kind called isName (by simp [name])
      case h_3 name =>
        obtain ⟨first, told, here, has, passes⟩ := Lead.gives_toward_iff.1 gives
        obtain rfl : told = info := by simpa [Passage.apply] using passes
        exact .appended kind called isName name here has
      case h_7 =>
        have other : function.text ∉ ["make", "new", "append", "len", "cap", "copy"] := by
          simp_all
        by_cases declared : (index.type? function.text).isSome
        · exact .named kind called isName other declared
            (by simpa [Lead.Gives, declared] using gives)
        · exact .result kind called isName other (by simpa using declared)
            (by simpa [Lead.Gives, declared] using gives)
    case isFalse =>
      split at gives
      case isTrue isType => exact .converted kind called isType gives
      case isFalse => simp [Lead.Gives] at gives

/-- What an expression leads to is its type by the rules. -/
theorem hasType_of_gives (gives : (expressionLead index site).Gives index (HasType index) info) :
    HasType index site info := by
  unfold expressionLead at gives
  split at gives
  case h_1 kind =>
    cases bound : binding? index site with
    | none => simp [bound, Lead.Gives] at gives
    | some binding =>
      simp only [bound] at gives
      exact hasType_of_binding kind bound gives
  case h_2 kind =>
    obtain ⟨inner, told, first, has, passes⟩ := Lead.gives_toward_iff.1 gives
    obtain rfl : told = info := by simpa [Passage.apply] using passes
    exact .parenthesized kind first has
  case h_3 kind | h_4 kind =>
    obtain rfl : TypeInfo.plain = info := by simpa [Lead.Gives] using gives
    exact .text (by simp [kind])
  case h_5 kind | h_6 kind | h_7 kind => exact .written (by simp [kind]) gives
  case h_8 kind =>
    obtain ⟨operand, told, first, has, passes⟩ := Lead.gives_toward_iff.1 gives
    obtain rfl : sliceOf told = info := by simpa [Passage.apply] using passes
    exact .sliced kind first has
  case h_9 kind =>
    obtain ⟨operand, told, first, has, passes⟩ := Lead.gives_toward_iff.1 gives
    exact .indexed kind first has passes
  case h_10 kind => exact hasType_of_call kind gives
  case h_11 => simp [Lead.Gives] at gives

end Complete

theorem hasType_of_typeWithin {steps : Nat} {site : Site} {info : TypeInfo}
    (found : typeWithin index steps site = .ok info) : HasType index site info := by
  induction steps generalizing site info with
  | zero => simp [typeWithin] at found
  | succ steps ih =>
    exact hasType_of_gives ((typeWithin_succ_eq_ok_iff.1 found).mono fun _ _ => ih)

theorem typeWithin_of_settled {site : Site} {info : TypeInfo}
    (settles : expressionLead index site = .settled (.ok info)) :
    ∃ steps, typeWithin index steps site = .ok info :=
  ⟨1, typeWithin_succ_eq_ok_iff.2 (settles ▸ rfl)⟩

theorem typeWithin_of_through {site value : Site} (passage : Passage) {told info : TypeInfo}
    (leads : expressionLead index site = .through value passage)
    (found : ∃ steps, typeWithin index steps value = .ok told)
    (passes : passage.apply index told = .ok info) :
    ∃ steps, typeWithin index steps site = .ok info := by
  obtain ⟨steps, found⟩ := found
  exact ⟨steps + 1, typeWithin_succ_eq_ok_iff.2 (leads ▸ ⟨told, found, passes⟩)⟩

theorem typeWithin_of_hasType {site : Site} {info : TypeInfo} (has : HasType index site info) :
    ∃ steps, typeWithin index steps site = .ok info := by
  induction has with
  | constant kind bound =>
    exact typeWithin_of_settled (by simp [expressionLead, kind, bound, bindingLead])
  | typed kind bound type =>
    exact typeWithin_of_settled (by simp [expressionLead, kind, bound, bindingLead, type])
  | variadic kind bound =>
    exact typeWithin_of_settled (by simp [expressionLead, kind, bound, bindingLead])
  | own kind bound _ ih =>
    exact typeWithin_of_through .same
      (by simp [expressionLead, kind, bound, bindingLead]) ih rfl
  | shareOfCall kind bound left call result =>
    exact typeWithin_of_settled
      (by simp [expressionLead, kind, bound, bindingLead, shareLead, left, call, result])
  | found kind bound left inside _ ih =>
    refine typeWithin_of_through .same ?_ ih rfl
    simp only [List.mem_cons, List.not_mem_nil, or_false] at inside
    rcases inside with inside | inside <;>
      simp [expressionLead, kind, bound, bindingLead, shareLead, left, inside]
  | foundOrNot kind bound left inside =>
    apply typeWithin_of_settled
    simp only [List.mem_cons, List.not_mem_nil, or_false] at inside
    rcases inside with inside | inside | inside <;>
      simp [expressionLead, kind, bound, bindingLead, shareLead, left, inside]
  | ranged kind bound _ target ih =>
    exact typeWithin_of_through (.ranged _)
      (by simp [expressionLead, kind, bound, bindingLead, Lead.toward]) ih target
  | parenthesized kind first _ ih =>
    exact typeWithin_of_through .same
      (by simp [expressionLead, kind, first, Lead.toward]) ih rfl
  | text kind =>
    apply typeWithin_of_settled
    simp only [List.mem_cons, List.not_mem_nil, or_false] at kind
    rcases kind with kind | kind <;> simp [expressionLead, kind]
  | written kind type =>
    apply typeWithin_of_settled
    simp only [List.mem_cons, List.not_mem_nil, or_false] at kind
    rcases kind with kind | kind | kind <;> simp [expressionLead, kind, type]
  | sliced kind first _ ih =>
    exact typeWithin_of_through .sliced
      (by simp [expressionLead, kind, first, Lead.toward]) ih rfl
  | indexed kind first _ element ih =>
    exact typeWithin_of_through .indexed
      (by simp [expressionLead, kind, first, Lead.toward]) ih element
  | made kind called isName name type =>
    exact typeWithin_of_settled
      (by simp [expressionLead, kind, callLead, called, isName, namedCallLead, name, type])
  | appended kind called isName name first _ ih =>
    exact typeWithin_of_through .same
      (by simp [expressionLead, kind, callLead, called, isName, namedCallLead, name, first,
        Lead.toward]) ih rfl
  | builtin kind called isName name =>
    apply typeWithin_of_settled
    simp only [List.mem_cons, List.not_mem_nil, or_false] at name
    rcases name with name | name | name | name <;>
      simp [expressionLead, kind, callLead, called, isName, namedCallLead, name]
  | named kind called isName other declared type =>
    simp only [List.mem_cons, List.not_mem_nil, or_false, not_or] at other
    exact typeWithin_of_settled
      (by simp [expressionLead, kind, callLead, called, isName, namedCallLead, other, declared,
        type])
  | result kind called isName other undeclared type =>
    simp only [List.mem_cons, List.not_mem_nil, or_false, not_or] at other
    exact typeWithin_of_settled
      (by simp [expressionLead, kind, callLead, called, isName, namedCallLead, other, undeclared,
        type])
  | @converted call function info kind called isType type =>
    have other : function.kind ≠ .identifier := by
      intro isName
      simp [isName, isConversionKind] at isType
    exact typeWithin_of_settled
      (by simp [expressionLead, kind, callLead, called, other, isType, type])

/-- The rules give what the search finds with some number of values. -/
theorem hasType_iff {site : Site} {info : TypeInfo} :
    HasType index site info ↔ ∃ steps, typeWithin index steps site = .ok info :=
  ⟨typeWithin_of_hasType, fun ⟨_, found⟩ => hasType_of_typeWithin found⟩

theorem hasType_unique {site : Site} {info other : TypeInfo} (has : HasType index site info)
    (hasOther : HasType index site other) : other = info := by
  obtain ⟨steps, found⟩ := typeWithin_of_hasType has
  obtain ⟨steps', found'⟩ := typeWithin_of_hasType hasOther
  have at_max := typeWithin_mono (Nat.le_max_left steps steps') found
  rw [typeWithin_mono (Nat.le_max_right steps steps') found'] at at_max
  exact Except.ok.inj at_max

/-! ## Values that lead back to themselves -/

/-- A use of a name that no scope around it declares. -/
structure PackageUse (name : String) (use : Site) : Prop where
  kind : use.node.kind = .identifier
  text : use.node.text = name
  outside : localBinding? use = none

/-- A variable of the package that is declared without a type and has a value of its own. -/
def IsInferred (index : Index) (name : String) (value : Site) : Prop :=
  ∃ symbol, index.value? name = some symbol ∧ symbol.kind = .variable ∧ symbol.type = none ∧
    symbol.value = some (.own value)

/-- The steps that keep an inferred variable without a type of its own: to the value of such a
variable, to the first argument of an append, into parentheses and to an operand. -/
inductive Follows (index : Index) : Site → Site → Prop
  | inferred {name : String} {use value : Site} :
      PackageUse name use → IsInferred index name value → Follows index use value
  | appended {call first : Site} {function : Node} :
      call.node.kind = .callExpression → call.node.child? .function = some function →
      function.kind = .identifier → function.text = "append" →
      (callArguments call).head? = some first → Follows index call first
  | parenthesized {site inner : Site} :
      site.node.kind = .parenthesizedExpression →
      site.named.find? (·.node.kind != .comment) = some inner → Follows index site inner
  | sliced {site operand : Site} :
      site.node.kind = .sliceExpression → site.child? .operand = some operand →
      Follows index site operand
  | indexed {site operand : Site} :
      site.node.kind = .indexExpression → site.child? .operand = some operand →
      Follows index site operand

theorem leadsTo_of_follows {site value : Site} (follows : Follows index site value) :
    LeadsTo index site value := by
  cases follows with
  | inferred isUse inferred =>
    obtain ⟨symbol, found, kind, untyped, initialized⟩ := inferred
    have bound : binding? index site = some (.initialized (.own value)) := by
      simp [binding?, isUse.outside, isUse.text, found, symbolBinding, kind, untyped, initialized]
    exact ⟨.same, by simp [expressionLead, isUse.kind, bound, bindingLead]⟩
  | appended kind called isName name first =>
    exact ⟨.same, by
      simp [expressionLead, kind, callLead, called, isName, namedCallLead, name, first,
        Lead.toward]⟩
  | parenthesized kind first => exact ⟨.same, by simp [expressionLead, kind, first, Lead.toward]⟩
  | sliced kind first => exact ⟨.sliced, by simp [expressionLead, kind, first, Lead.toward]⟩
  | indexed kind first => exact ⟨.indexed, by simp [expressionLead, kind, first, Lead.toward]⟩

theorem exists_typeWithin_of_leadsTo {site value : Site} (leads : LeadsTo index site value)
    {steps : Nat} {info : TypeInfo} (found : typeWithin index steps site = .ok info) :
    ∃ fewer told, fewer < steps ∧ typeWithin index fewer value = .ok told := by
  obtain ⟨passage, lead⟩ := leads
  cases steps with
  | zero => simp [typeWithin] at found
  | succ steps =>
    rw [typeWithin_succ_eq_ok_iff, lead] at found
    obtain ⟨told, followed, _⟩ := found
    exact ⟨steps, told, Nat.lt_succ_self steps, followed⟩

theorem exists_typeWithin_of_transGen {site value : Site}
    (leads : TransGen (LeadsTo index) site value) {steps : Nat} {info : TypeInfo}
    (found : typeWithin index steps site = .ok info) :
    ∃ fewer told, fewer < steps ∧ typeWithin index fewer value = .ok told := by
  induction leads with
  | single leads => exact exists_typeWithin_of_leadsTo leads found
  | tail _ leads ih =>
    obtain ⟨fewer, told, less, followed⟩ := ih
    obtain ⟨fewest, below, lesser, followed'⟩ := exists_typeWithin_of_leadsTo leads followed
    exact ⟨fewest, below, Nat.lt_trans lesser less, followed'⟩

/-- What leads back to itself has no type, however many values are followed. -/
theorem typeWithin_ne_ok_of_cycle {site : Site} (cycle : TransGen (LeadsTo index) site site)
    (steps : Nat) (info : TypeInfo) : typeWithin index steps site ≠ .ok info := by
  -- Once around the cycle, the type would be found in fewer steps.
  induction steps using Nat.strongRecOn generalizing info with
  | ind steps ih =>
    intro found
    obtain ⟨fewer, told, less, followed⟩ := exists_typeWithin_of_transGen cycle found
    exact ih fewer less told followed

/-- An inferred variable whose value leads back to a use of it is unknown wherever it is used. -/
theorem typeWithin_ne_ok_of_inferred {name : String} {value use other : Site}
    (inferred : IsInferred index name value) (isUse : PackageUse name use)
    (back : ReflTransGen (Follows index) value use) (isOther : PackageUse name other)
    (steps : Nat) (info : TypeInfo) : typeWithin index steps other ≠ .ok info := by
  intro found
  have leads : LeadsTo index other value := leadsTo_of_follows (.inferred isOther inferred)
  have cycle : TransGen (LeadsTo index) value value :=
    TransGen.tail' (ReflTransGen.mono (fun _ _ => leadsTo_of_follows) _ _ back)
      (leadsTo_of_follows (.inferred isUse inferred))
  obtain ⟨fewer, told, _, followed⟩ := exists_typeWithin_of_leadsTo leads found
  exact typeWithin_ne_ok_of_cycle cycle fewer told followed

/-- The limit on the depth of the search only loses types: a type that is found stays the same
under a larger limit and from less deep, the types found are those of the rules without a limit,
and an inferred variable that leads back to itself is unknown under every limit. -/
theorem typeAt_only_loses (index : Index) :
    (∀ (limit limit' depth depth' : Nat) (site : Site) (info : TypeInfo),
      limit ≤ limit' → depth' ≤ depth → typeAt index limit depth site = .ok info →
        typeAt index limit' depth' site = .ok info) ∧
    (∀ (site : Site) (info : TypeInfo),
      HasType index site info ↔ ∃ limit, typeAt index limit 0 site = .ok info) ∧
    (∀ (site : Site) (typeClass : TypeClass), classOf index site = some typeClass →
      ∃ info, HasType index site info ∧ info.typeClass = typeClass ∧
        ∀ other, HasType index site other → other = info) ∧
    (∀ (name : String) (value use : Site), IsInferred index name value → PackageUse name use →
      ReflTransGen (Follows index) value use → ∀ other, PackageUse name other →
        ∀ limit depth, ∃ cause, typeAt index limit depth other = .error cause) := by
  refine ⟨?_, ?_, ?_, ?_⟩
  · intro limit limit' depth depth' site info lim dep found
    rw [typeAt_eq_typeWithin] at found ⊢
    exact typeWithin_mono (by omega) found
  · intro site info
    simp only [hasType_iff, typeAt_eq_typeWithin]
    constructor
    · rintro ⟨steps, found⟩
      exact ⟨steps, typeWithin_mono (by omega) found⟩
    · rintro ⟨limit, found⟩
      exact ⟨limit + 1 - 0, found⟩
  · intro site typeClass known
    obtain ⟨info, found, same⟩ : ∃ info, typeOf index site = .ok info ∧
        info.typeClass = typeClass := by
      unfold classOf at known
      cases found : typeOf index site with
      | error cause => simp [found, Knowledge.typeClass?] at known
      | ok info => exact ⟨info, rfl, by simpa [found, Knowledge.typeClass?] using known⟩
    have has : HasType index site info := hasType_of_typeWithin found
    exact ⟨info, has, same, fun other => hasType_unique has⟩
  · intro name value use inferred isUse back other isOther limit depth
    rw [typeAt_eq_typeWithin]
    cases found : typeWithin index (limit + 1 - depth) other with
    | error cause => exact ⟨cause, rfl⟩
    | ok info =>
      exact absurd found (typeWithin_ne_ok_of_inferred inferred isUse back isOther _ info)

/-- The declarations `var a = b` and `var b = append(a, 1)`. -/
def circularRoot : Node :=
  .mk .sourceFile none ⟨0, 31, 0, 0⟩ "var a = b; var b = append(a, 1)" [
    .mk .varDeclaration none ⟨0, 9, 0, 0⟩ "var a = b" [
      .mk .varSpec none ⟨4, 9, 0, 4⟩ "a = b" [
        .mk .identifier (some .name) ⟨4, 5, 0, 4⟩ "a" [],
        .mk .expressionList (some .value) ⟨8, 9, 0, 8⟩ "b" [
          .mk .identifier none ⟨8, 9, 0, 8⟩ "b" []]]],
    .mk .varDeclaration none ⟨11, 31, 0, 11⟩ "var b = append(a, 1)" [
      .mk .varSpec none ⟨15, 31, 0, 15⟩ "b = append(a, 1)" [
        .mk .identifier (some .name) ⟨15, 16, 0, 15⟩ "b" [],
        .mk .expressionList (some .value) ⟨19, 31, 0, 19⟩ "append(a, 1)" [
          .mk .callExpression none ⟨19, 31, 0, 19⟩ "append(a, 1)" [
            .mk .identifier (some .function) ⟨19, 25, 0, 19⟩ "append" [],
            .mk .argumentList (some .arguments) ⟨25, 31, 0, 25⟩ "(a, 1)" [
              .mk .identifier none ⟨26, 27, 0, 26⟩ "a" [],
              .mk .intLiteral none ⟨29, 30, 0, 29⟩ "1" []]]]]]]

def circularIndex : Index :=
  ⟨symbols "a.go" circularRoot⟩

/-- The first variable leads to the second one, whose value is appended to the first one. -/
theorem typeAt_circular :
    ∃ value appended use, IsInferred circularIndex "a" value ∧ PackageUse "b" value ∧
      IsInferred circularIndex "b" appended ∧ Follows circularIndex appended use ∧
      PackageUse "a" use ∧
      ∀ limit depth, ∃ cause, typeAt circularIndex limit depth use = .error cause := by
  obtain ⟨value, appended, use, inferred, isNext, next, appends, isUse⟩ :
      ∃ value appended use, IsInferred circularIndex "a" value ∧ PackageUse "b" value ∧
        IsInferred circularIndex "b" appended ∧ Follows circularIndex appended use ∧
        PackageUse "a" use :=
    ⟨_, _, _, ⟨_, rfl, rfl, rfl, rfl⟩, ⟨rfl, rfl, rfl⟩, ⟨_, rfl, rfl, rfl, rfl⟩,
      .appended rfl rfl rfl rfl rfl, ⟨rfl, rfl, rfl⟩⟩
  have back : ReflTransGen (Follows circularIndex) value use :=
    (ReflTransGen.single (.inferred isNext next)).tail appends
  exact ⟨value, appended, use, inferred, isNext, next, appends, isUse,
    (typeAt_only_loses circularIndex).2.2.2 "a" value use inferred isUse back use isUse⟩

end SliceGuard.Typing
