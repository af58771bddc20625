import Mathlib.Logic.Relation
import SliceGuard.Proofs.Syntax.Comments
import SliceGuard.Typing.Underlying

/-!
# What a type stands for in the end

A type in parentheses stands for the type inside them, an instantiation for its generic type, and a
declared name for the type it is declared as.  Each type stands for one type at most, so there is a
single chain from a type on.  Either the chain has an end, which tells what the type is or that
nothing is known of it, or it comes back to a name that it passed before.  The search goes along
this chain, except that it takes a comment at the beginning of parentheses for the type inside.
-/

namespace SliceGuard.Typing

open Syntax (Kind Node)
open Syntax.Node (typeNamed)
open Declarations (Index Symbol)
open Relation (ReflTransGen TransGen)

/-- The type that a type stands for, one step on.  The type inside parentheses is the first of their
children that counts as such. -/
inductive StandsFor (counts : Node → Bool) (index : Index) : Node → Node → Prop
  | inside {type inner : Node} (kind : type.kind = .parenthesizedType)
      (first : type.named.find? counts = some inner) : StandsFor counts index type inner
  | generic {type base : Node} (kind : type.kind = .genericType)
      (here : type.child? .type = some base) : StandsFor counts index type base
  | declared {name type : Node} {symbol : Symbol} (isName : isTypeName name = true)
      (found : index.type? name.text = some symbol) (declares : symbol.type = some type) :
      StandsFor counts index name type

/-- All types on the chain from a type on, the type itself among them. -/
def Passes (counts : Node → Bool) (index : Index) : Node → Node → Prop :=
  ReflTransGen (StandsFor counts index)

/-- The ends of chains that tell what a type is. -/
inductive Means (index : Index) : Node → TypeInfo → Prop
  | slice {type : Node} (kind : type.kind = .sliceType) :
      Means index type { typeClass := .slice, element := type.child? .element }
  | array {type : Node} (kind : type.kind = .arrayType ∨ type.kind = .implicitLengthArrayType) :
      Means index type { typeClass := .array, element := type.child? .element }
  | map {type : Node} (kind : type.kind = .mapType) :
      Means index type
        { typeClass := .map, element := type.child? .value, key := type.child? .key }
  /-- Any other form of type. -/
  | other {type : Node} (noName : isTypeName type = false)
      (kind : type.kind ∉ [.sliceType, .arrayType, .implicitLengthArrayType, .mapType,
        .parenthesizedType, .genericType, .qualifiedType]) : Means index type .plain
  /-- A name that is declared by the language and not in the package. -/
  | predeclared {name : Node} (isName : isTypeName name = true)
      (undeclared : index.type? name.text = none) (known : name.text ∈ predeclaredTypes) :
      Means index name .plain

/-- The ends of chains of which nothing is known. -/
inductive IsForeign (index : Index) : Node → Prop
  | qualified {type : Node} (kind : type.kind = .qualifiedType) : IsForeign index type
  | undeclared {name : Node} (isName : isTypeName name = true)
      (undeclared : index.type? name.text = none) (unknown : name.text ∉ predeclaredTypes) :
      IsForeign index name

/-- The ends of chains that break off, since a part of the type is missing. -/
inductive IsIncomplete (counts : Node → Bool) (index : Index) : Node → Prop
  | inside {type : Node} (kind : type.kind = .parenthesizedType)
      (empty : type.named.find? counts = none) : IsIncomplete counts index type
  | generic {type : Node} (kind : type.kind = .genericType)
      (missing : type.child? .type = none) : IsIncomplete counts index type
  | declared {name : Node} {symbol : Symbol} (isName : isTypeName name = true)
      (found : index.type? name.text = some symbol) (missing : symbol.type = none) :
      IsIncomplete counts index name

/-- The chain passes a name twice. -/
def ComesBack (counts : Node → Bool) (index : Index) (type : Node) : Prop :=
  ∃ name again, Passes counts index type name ∧ TransGen (StandsFor counts index) name again ∧
    isTypeName name = true ∧ isTypeName again = true ∧ again.text = name.text

variable {counts : Node → Bool} {index : Index}

/-- What a type tells that stands for no other one. -/
def endOutcome (type : Node) : Knowledge :=
  if isTypeName type then undeclaredType type.text else writtenOut type

theorem endOutcome_of_means {type : Node} {info : TypeInfo} (means : Means index type info) :
    endOutcome type = .ok info := by
  cases means with
  | slice kind | map kind => simp [endOutcome, isTypeName, writtenOut, kind]
  | array kind => rcases kind with kind | kind <;> simp [endOutcome, isTypeName, writtenOut, kind]
  | other noName kind =>
    rw [endOutcome, noName, if_neg Bool.false_ne_true, writtenOut]
    split <;> simp_all
  | predeclared isName _ known => simp [endOutcome, isName, undeclaredType, known]

theorem endOutcome_of_isForeign {type : Node} (foreign : IsForeign index type) :
    endOutcome type = .error .foreignType := by
  cases foreign with
  | qualified kind => simp [endOutcome, isTypeName, writtenOut, kind]
  | undeclared isName _ unknown => simp [endOutcome, isName, undeclaredType, unknown]

/-- The ends of chains are those that tell what a type is and those that do not. -/
theorem means_or_isForeign {type : Node} (noParentheses : type.kind ≠ .parenthesizedType)
    (noInstance : type.kind ≠ .genericType)
    (undeclared : isTypeName type = true → index.type? type.text = none) :
    (∃ info, endOutcome type = .ok info ∧ Means index type info) ∨
      ∃ cause, endOutcome type = .error cause ∧ IsForeign index type := by
  by_cases isName : isTypeName type = true
  · rw [endOutcome, if_pos isName, undeclaredType]
    by_cases known : type.text ∈ predeclaredTypes
    · exact .inl ⟨.plain, by simp [known], .predeclared isName (undeclared isName) known⟩
    · exact .inr ⟨.foreignType, by simp [known], .undeclared isName (undeclared isName) known⟩
  · rw [endOutcome, if_neg isName, writtenOut]
    split
    case h_1 kind => exact .inl ⟨_, rfl, .slice kind⟩
    case h_2 kind => exact .inl ⟨_, rfl, .array (.inl kind)⟩
    case h_3 kind => exact .inl ⟨_, rfl, .array (.inr kind)⟩
    case h_4 kind => exact .inl ⟨_, rfl, .map kind⟩
    case h_5 kind => exact .inr ⟨_, rfl, .qualified kind⟩
    case h_6 => exact .inl ⟨_, rfl, .other (by simpa using isName) (by simp_all)⟩

section Determined

variable {type other other' : Node}

theorem standsFor_unique (one : StandsFor counts index type other)
    (two : StandsFor counts index type other') : other' = other := by
  cases one with
  | inside kind first =>
    cases two with
    | inside _ first' => exact Option.some.inj (first'.symm.trans first)
    | generic kind' => simp [kind] at kind'
    | declared isName => simp [isTypeName, kind] at isName
  | generic kind here =>
    cases two with
    | inside kind' => simp [kind] at kind'
    | generic _ here' => exact Option.some.inj (here'.symm.trans here)
    | declared isName => simp [isTypeName, kind] at isName
  | declared isName found declares =>
    cases two with
    | inside kind => simp [isTypeName, kind] at isName
    | generic kind => simp [isTypeName, kind] at isName
    | declared _ found' declares' =>
      obtain rfl := Option.some.inj (found'.symm.trans found)
      exact Option.some.inj (declares'.symm.trans declares)

/-- A chain goes on from a name as it does from any other place where the name stands. -/
theorem StandsFor.of_text {name again : Node} (isName : isTypeName name = true)
    (isName' : isTypeName again = true) (text : again.text = name.text)
    (stands : StandsFor counts index name other) : StandsFor counts index again other := by
  cases stands with
  | inside kind => simp [isTypeName, kind] at isName
  | generic kind => simp [isTypeName, kind] at isName
  | declared _ found declares => exact .declared isName' (text ▸ found) declares

/-- The ends of chains stand for nothing else. -/
theorem not_standsFor_of_means {info : TypeInfo} (means : Means index type info) :
    ¬ StandsFor counts index type other := by
  intro stands
  cases means with
  | slice kind | map kind => cases stands <;> simp_all [isTypeName]
  | array kind => rcases kind with kind | kind <;> cases stands <;> simp_all [isTypeName]
  | other noName kind => cases stands <;> simp_all
  | predeclared isName undeclared => cases stands <;> simp_all [isTypeName]

theorem not_standsFor_of_isForeign (foreign : IsForeign index type) :
    ¬ StandsFor counts index type other := by
  intro stands
  cases foreign with
  | qualified kind => cases stands <;> simp_all [isTypeName]
  | undeclared isName undeclared => cases stands <;> simp_all [isTypeName]

theorem not_standsFor_of_isIncomplete (incomplete : IsIncomplete counts index type) :
    ¬ StandsFor counts index type other := by
  intro stands
  cases incomplete with
  | inside kind empty => cases stands <;> simp_all [isTypeName]
  | generic kind missing => cases stands <;> simp_all [isTypeName]
  | declared isName found missing => cases stands <;> simp_all [isTypeName]

theorem not_isIncomplete_of_means {info : TypeInfo} (means : Means index type info) :
    ¬ IsIncomplete counts index type := by
  intro incomplete
  cases means with
  | slice kind | map kind => cases incomplete <;> simp_all [isTypeName]
  | array kind => rcases kind with kind | kind <;> cases incomplete <;> simp_all [isTypeName]
  | other noName kind => cases incomplete <;> simp_all
  | predeclared isName undeclared => cases incomplete <;> simp_all [isTypeName]

/-- A chain with an end comes to it from every type that it passes. -/
theorem passes_end {last : Node} (ends : ∀ next, ¬ StandsFor counts index last next)
    (passes : Passes counts index type last) (passes' : Passes counts index type other) :
    Passes counts index other last := by
  have unique : Relator.RightUnique (StandsFor counts index) :=
    fun _ _ _ one two => standsFor_unique two one
  rcases ReflTransGen.total_of_right_unique unique passes' passes with further | past
  · exact further
  · rcases past.cases_head with rfl | ⟨next, stands, _⟩
    · exact .refl
    · exact absurd stands (ends next)

/-- A chain has one end at most. -/
theorem end_unique {last last' : Node} (ends : ∀ next, ¬ StandsFor counts index last next)
    (ends' : ∀ next, ¬ StandsFor counts index last' next) (passes : Passes counts index type last)
    (passes' : Passes counts index type last') : last' = last := by
  rcases (passes_end ends passes passes').cases_head with same | ⟨next, stands, _⟩
  · exact same
  · exact absurd stands (ends' next)

/-- A chain with an end does not go around in a circle. -/
theorem acyclic_of_end {last : Node} (ends : ∀ next, ¬ StandsFor counts index last next)
    (passes : Passes counts index type last) : ¬ TransGen (StandsFor counts index) type type := by
  induction passes using ReflTransGen.head_induction_on with
  | refl =>
    intro circle
    obtain ⟨next, stands, _⟩ := TransGen.head'_iff.1 circle
    exact ends next stands
  | head stands _ ih =>
    intro circle
    obtain ⟨next, stands', back⟩ := TransGen.head'_iff.1 circle
    obtain rfl := standsFor_unique stands stands'
    exact ih (TransGen.tail' back stands)

/-- A chain with an end comes back to no name. -/
theorem not_comesBack_of_end {last : Node} (ends : ∀ next, ¬ StandsFor counts index last next)
    (passes : Passes counts index type last) : ¬ ComesBack counts index type := by
  rintro ⟨name, again, before, around, isName, isName', text⟩
  obtain ⟨next, stands, further⟩ := TransGen.head'_iff.1 around
  have onward := passes_end ends passes (before.tail stands)
  -- The second time around the name leads to the same type, which so leads back to itself.
  exact acyclic_of_end ends onward (TransGen.tail' further (stands.of_text isName isName' text))

end Determined

/-- The outcomes of a chain. -/
inductive Settled (counts : Node → Bool) (index : Index) (type : Node) : Knowledge → Prop
  | known {last : Node} {info : TypeInfo} (passes : Passes counts index type last)
      (means : Means index last info) : Settled counts index type (.ok info)
  | foreign {last : Node} {cause : Unknown} (passes : Passes counts index type last)
      (foreign : IsForeign index last) : Settled counts index type (.error cause)
  | incomplete {last : Node} {cause : Unknown} (passes : Passes counts index type last)
      (incomplete : IsIncomplete counts index last) : Settled counts index type (.error cause)
  | circular {cause : Unknown} (back : ComesBack counts index type) :
      Settled counts index type (.error cause)

theorem settled_of_end {type last : Node} (passes : Passes counts index type last)
    (noParentheses : last.kind ≠ .parenthesizedType) (noInstance : last.kind ≠ .genericType)
    (undeclared : isTypeName last = true → index.type? last.text = none) :
    Settled counts index type (endOutcome last) := by
  rcases means_or_isForeign noParentheses noInstance undeclared with
    ⟨info, tells, means⟩ | ⟨cause, tells, foreign⟩
  · rw [tells]
    exact .known passes means
  · rw [tells]
    exact .foreign passes foreign

/-- If an outcome of a chain is known, there is no other one. -/
theorem settled_unique {type last : Node} {info : TypeInfo} {knowledge : Knowledge}
    (passes : Passes counts index type last) (means : Means index last info)
    (settled : Settled counts index type knowledge) : knowledge = .ok info := by
  have ends (next : Node) : ¬ StandsFor counts index last next := not_standsFor_of_means means
  cases settled with
  | known passes' means' =>
    obtain rfl := end_unique ends (fun _ => not_standsFor_of_means means') passes passes'
    rw [← endOutcome_of_means means, ← endOutcome_of_means means']
  | foreign passes' foreign =>
    obtain rfl := end_unique ends (fun _ => not_standsFor_of_isForeign foreign) passes passes'
    have tells := endOutcome_of_means means
    rw [endOutcome_of_isForeign foreign] at tells
    cases tells
  | incomplete passes' incomplete =>
    obtain rfl := end_unique ends (fun _ => not_standsFor_of_isIncomplete incomplete) passes passes'
    exact absurd incomplete (not_isIncomplete_of_means means)
  | circular back => exact absurd back (not_comesBack_of_end ends passes)

section Search

/-- The search takes the first child of parentheses for the type inside. -/
def anyChild (_ : Node) : Bool := true

variable {type : Node}

/-- A type is taken apart as the chain goes on, breaks off, or comes to something else. -/
theorem typeCore_cases (index : Index) (type : Node) :
    (∃ next ∈ type.children, StandsFor anyChild index type next ∧ typeCore type = typeCore next) ∨
      (IsIncomplete anyChild index type ∧ typeCore type = none) ∨
      (type.kind ≠ .parenthesizedType ∧ type.kind ≠ .genericType) ∧ typeCore type = some type := by
  have core {picks : Node → Bool} (goes : coreRule type.kind = some picks) :
      typeCore type = (type.children.find? picks).bind typeCore :=
    Node.descend_of_rule_eq_some goes
  by_cases parentheses : type.kind = .parenthesizedType
  · rw [core (by rw [parentheses]; rfl)]
    have first : type.named.find? anyChild = type.children.find? Node.isNamed := by
      rw [Node.named, List.find?_filter]
      simp [anyChild]
    cases picked : type.children.find? Node.isNamed with
    | some inner =>
      have stands : StandsFor anyChild index type inner := .inside parentheses (first.trans picked)
      exact .inl ⟨inner, List.mem_of_find?_eq_some picked, stands, rfl⟩
    | none => exact .inr (.inl ⟨.inside parentheses (first.trans picked), rfl⟩)
  · by_cases applied : type.kind = .genericType
    · rw [core (by rw [applied]; rfl)]
      cases picked : type.children.find? (Node.plays .type) with
      | some base =>
        exact .inl ⟨base, List.mem_of_find?_eq_some picked, .generic applied picked, rfl⟩
      | none => exact .inr (.inl ⟨.generic applied picked, rfl⟩)
    · refine .inr (.inr ⟨⟨parentheses, applied⟩, Node.descend_of_rule_eq_none ?_⟩)
      unfold coreRule
      split <;> simp_all

/-- What is left without parentheses and type arguments is passed by the chain. -/
theorem passes_typeCore {core : Node} (reached : typeCore type = some core) :
    Passes anyChild index type core ∧ core.kind ≠ .parenthesizedType ∧
      core.kind ≠ .genericType := by
  induction type using Node.childInduction with
  | step type ih =>
    rcases typeCore_cases index type with
      ⟨next, mem, stands, same⟩ | ⟨_, stuck⟩ | ⟨kinds, stays⟩
    · obtain ⟨passes, kinds⟩ := ih next mem (same.symm.trans reached)
      exact ⟨.head stands passes, kinds⟩
    · simp [stuck] at reached
    · obtain rfl := Option.some.inj (stays.symm.trans reached)
      exact ⟨.refl, kinds⟩

/-- If nothing is left, the chain breaks off. -/
theorem exists_isIncomplete_of_typeCore (stuck : typeCore type = none) :
    ∃ last, Passes anyChild index type last ∧ IsIncomplete anyChild index last := by
  induction type using Node.childInduction with
  | step type ih =>
    rcases typeCore_cases index type with
      ⟨next, mem, stands, same⟩ | ⟨incomplete, _⟩ | ⟨_, stays⟩
    · obtain ⟨last, passes, incomplete⟩ := ih next mem (same.symm.trans stuck)
      exact ⟨last, .head stands passes, incomplete⟩
    · exact ⟨type, .refl, incomplete⟩
    · simp [stays] at stuck

section Declared

variable {here : Node} {symbol : Symbol} (isName : isTypeName here = true)
  (found : index.type? here.text = some symbol)

include isName found

/-- What a declared name stands for without parentheses and type arguments. -/
theorem passes_declaredCore {core : Node} (reached : symbol.type.bind typeCore = some core) :
    TransGen (StandsFor anyChild index) here core ∧ core.kind ≠ .parenthesizedType ∧
      core.kind ≠ .genericType := by
  obtain ⟨type, declares, reached⟩ := Option.bind_eq_some_iff.1 reached
  obtain ⟨passes, kinds⟩ := passes_typeCore reached
  exact ⟨.head' (.declared isName found declares) passes, kinds⟩

theorem exists_isIncomplete_of_declaredCore (stuck : symbol.type.bind typeCore = none) :
    ∃ last, Passes anyChild index here last ∧ IsIncomplete anyChild index last := by
  cases declares : symbol.type with
  | none => exact ⟨here, .refl, .declared isName found declares⟩
  | some type =>
    rw [declares, Option.bind_some] at stuck
    obtain ⟨last, passes, incomplete⟩ := exists_isIncomplete_of_typeCore stuck
    exact ⟨last, .head (.declared isName found declares) passes, incomplete⟩

end Declared

/-- The names that the chain from a type on has passed before it comes to a place. -/
def HasPassed (index : Index) (type here : Node) (name : String) : Prop :=
  ∃ before, Passes anyChild index type before ∧ TransGen (StandsFor anyChild index) before here ∧
    isTypeName before = true ∧ before.text = name

/-- A name is followed to the outcome of the chain, as long as all declared names that are not fresh
have been passed. -/
theorem settled_followName {fresh : List String} {here : Node}
    (isName : isTypeName here = true) (passes : Passes anyChild index type here)
    (passed : ∀ name symbol, index.type? name = some symbol → name ∉ fresh →
      HasPassed index type here name) :
    Settled anyChild index type (followName index fresh here.text) := by
  generalize text : here.text = name
  fun_induction followName index fresh name generalizing here with
  | case1 fresh name unfound =>
    subst text
    have outcome : endOutcome here = undeclaredType here.text := by rw [endOutcome, if_pos isName]
    rw [← outcome]
    apply settled_of_end passes _ _ fun _ => unfound
    · intro kind
      simp [isTypeName, kind] at isName
    · intro kind
      simp [isTypeName, kind] at isName
  | case2 fresh name symbol found _ stuck =>
    subst text
    obtain ⟨last, further, incomplete⟩ := exists_isIncomplete_of_declaredCore isName found stuck
    exact .incomplete (passes.trans further) incomplete
  | case3 fresh name symbol found _ core reached isName' ih =>
    subst text
    obtain ⟨stands, _⟩ := passes_declaredCore isName found reached
    refine ih isName' (passes.trans stands.to_reflTransGen) ?_ rfl
    intro name symbol found old
    by_cases same : name = here.text
    · exact ⟨here, passes, stands, isName, same.symm⟩
    · have used : name ∉ fresh := fun mem => old (mem_without_iff.2 ⟨mem, same⟩)
      obtain ⟨before, first, later, isName'', text⟩ := passed name symbol found used
      exact ⟨before, first, later.trans stands, isName'', text⟩
  | case4 fresh name symbol found _ core reached noName =>
    subst text
    obtain ⟨stands, noParentheses, noInstance⟩ := passes_declaredCore isName found reached
    have outcome : endOutcome core = writtenOut core := by rw [endOutcome, if_neg noName]
    rw [← outcome]
    exact settled_of_end (passes.trans stands.to_reflTransGen) noParentheses noInstance
      fun isName' => absurd isName' noName
  | case5 fresh name symbol found old =>
    subst text
    obtain ⟨before, first, later, isName', text⟩ := passed here.text symbol found old
    exact .circular ⟨before, here, first, later, isName', isName, text.symm⟩

/-- The search finds the outcome of its chain. -/
theorem settled_underlying (index : Index) (type : Node) :
    Settled anyChild index type (underlying index type) := by
  rw [underlying, Option.bind_some]
  cases reached : typeCore type with
  | none =>
    obtain ⟨last, passes, incomplete⟩ := exists_isIncomplete_of_typeCore reached
    exact .incomplete passes incomplete
  | some core =>
    obtain ⟨passes, noParentheses, noInstance⟩ := passes_typeCore reached
    dsimp only
    by_cases isName : isTypeName core = true
    · rw [if_pos isName, namedType]
      apply settled_followName isName passes
      intro name symbol found old
      exact absurd (Index.mem_typeNames_of_type? found) old
    · have outcome : endOutcome core = writtenOut core := by rw [endOutcome, if_neg isName]
      rw [if_neg isName, ← outcome]
      exact settled_of_end passes noParentheses noInstance fun isName' => absurd isName' isName

end Search

section Comments

/-- The type inside parentheses is the first child that is no comment. -/
def noComment (node : Node) : Bool :=
  !node.isComment

/-- Whether parentheses around a type open with a comment. -/
def opensWithComment (type : Node) : Bool :=
  type.kind == .parenthesizedType && type.startsWithComment

variable {type passed next : Node}

theorem find?_noComment (opens : opensWithComment type = false)
    (kind : type.kind = .parenthesizedType) :
    type.named.find? noComment = type.named.find? anyChild := by
  cases named : type.named with
  | nil => rfl
  | cons first rest =>
    have stays : first.isComment = false := by
      simpa [opensWithComment, kind, Node.startsWithComment, named] using opens
    rw [List.find?_cons_of_pos (by simp [noComment, stays]), List.find?_cons_of_pos rfl]

section

variable {counts' : Node → Bool} (same : type.kind = .parenthesizedType →
  type.named.find? counts' = type.named.find? counts)

include same

theorem StandsFor.of_find? (stands : StandsFor counts index type next) :
    StandsFor counts' index type next := by
  cases stands with
  | inside kind first => exact .inside kind ((same kind).trans first)
  | generic kind here => exact .generic kind here
  | declared isName found declares => exact .declared isName found declares

theorem IsIncomplete.of_find? (incomplete : IsIncomplete counts index type) :
    IsIncomplete counts' index type := by
  cases incomplete with
  | inside kind empty => exact .inside kind ((same kind).trans empty)
  | generic kind missing => exact .generic kind missing
  | declared isName found missing => exact .declared isName found missing

end

/-- Where no comment opens parentheses, the search goes on to the type that is meant. -/
theorem standsFor_iff (opens : opensWithComment type = false) :
    StandsFor anyChild index type next ↔ StandsFor noComment index type next :=
  ⟨.of_find? (find?_noComment opens), .of_find? fun kind => (find?_noComment opens kind).symm⟩

theorem isIncomplete_iff (opens : opensWithComment type = false) :
    IsIncomplete anyChild index type ↔ IsIncomplete noComment index type :=
  ⟨.of_find? (find?_noComment opens), .of_find? fun kind => (find?_noComment opens kind).symm⟩

/-- From parentheses that open with a comment the search goes on to the comment. -/
theorem exists_comment_of_opensWithComment (opens : opensWithComment type = true) :
    ∃ comment, StandsFor anyChild index type comment ∧ comment.isComment = true := by
  rw [opensWithComment, Bool.and_eq_true, beq_iff_eq, Node.startsWithComment,
    Option.any_eq_true] at opens
  obtain ⟨kind, comment, first, isComment⟩ := opens
  obtain ⟨rest, named⟩ := List.head?_eq_some_iff.1 first
  exact ⟨comment, .inside kind (by rw [named, List.find?_cons_of_pos rfl]), isComment⟩

theorem means_comment (comment : type.isComment = true) : Means index type .plain := by
  have kind : type.kind = .comment := by simpa [Node.isComment] using comment
  exact .other (by simp [isTypeName, kind]) (by simp [kind])

/-- Where no comment opens parentheses on the chain, the search passes all types that are meant. -/
theorem passes_iff
    (opens : ∀ passed, Passes noComment index type passed → opensWithComment passed = false) :
    Passes anyChild index type passed ↔ Passes noComment index type passed := by
  constructor
  · intro passes
    induction passes with
    | refl => exact .refl
    | tail _ stands ih => exact ih.tail ((standsFor_iff (opens _ ih)).1 stands)
  · intro passes
    induction passes with
    | refl => exact .refl
    | tail before stands ih => exact ih.tail ((standsFor_iff (opens _ before)).2 stands)

theorem comesBack_iff
    (opens : ∀ passed, Passes noComment index type passed → opensWithComment passed = false) :
    ComesBack anyChild index type ↔ ComesBack noComment index type := by
  unfold ComesBack
  refine exists_congr fun name => exists_congr fun again => ?_
  rw [passes_iff opens]
  refine and_congr_right fun passes => ?_
  have later (passed : Node) (further : Passes noComment index name passed) :
      opensWithComment passed = false := opens passed (passes.trans further)
  rw [TransGen.tail'_iff, TransGen.tail'_iff]
  refine and_congr_left fun _ => exists_congr fun before => ?_
  exact (and_congr_left' (passes_iff later)).trans
    (and_congr_right fun further => standsFor_iff (later before further))

/-- A chain with parentheses that open with a comment is followed to a comment. -/
theorem passes_comment (passes : Passes noComment index type passed)
    (opens : opensWithComment passed = true) :
    ∃ comment, Passes anyChild index type comment ∧ comment.isComment = true := by
  induction passes using ReflTransGen.head_induction_on with
  | refl =>
    obtain ⟨comment, stands, isComment⟩ := exists_comment_of_opensWithComment opens
    exact ⟨comment, .single stands, isComment⟩
  | @head before next stands _ ih =>
    -- The search may already have come to a comment before.
    cases opens' : opensWithComment before with
    | true =>
      obtain ⟨comment, stands', isComment⟩ := exists_comment_of_opensWithComment opens'
      exact ⟨comment, .single stands', isComment⟩
    | false =>
      obtain ⟨comment, further, isComment⟩ := ih
      exact ⟨comment, .head ((standsFor_iff opens').2 stands) further, isComment⟩

end Comments

/-- Where no comment opens parentheses on the chain from a type on, the type is what the end of the
chain tells, and nothing is known of it just if the chain ends with a foreign type, comes back to a
name, or breaks off.  Where a comment does, the type is taken for one that is no container. -/
theorem underlying_by_chain (index : Index) (type : Node) :
    ((∀ passed, Passes noComment index type passed → opensWithComment passed = false) →
      (∀ info, underlying index type = .ok info ↔
        ∃ last, Passes noComment index type last ∧ Means index last info) ∧
      ((∃ cause, underlying index type = .error cause) ↔
        (∃ last, Passes noComment index type last ∧ IsForeign index last) ∨
          ComesBack noComment index type ∨
          ∃ last, Passes noComment index type last ∧ IsIncomplete noComment index last)) ∧
    ∀ passed, Passes noComment index type passed → opensWithComment passed = true →
      underlying index type = .ok .plain := by
  have settled := settled_underlying index type
  refine ⟨fun opens => ⟨fun info => ⟨fun known => ?_, ?_⟩, ?_, ?_⟩, ?_⟩
  · rw [known] at settled
    cases settled with
    | known passes means => exact ⟨_, (passes_iff opens).1 passes, means⟩
  · rintro ⟨last, passes, means⟩
    exact settled_unique ((passes_iff opens).2 passes) means settled
  · rintro ⟨cause, unknown⟩
    rw [unknown] at settled
    cases settled with
    | foreign passes foreign => exact .inl ⟨_, (passes_iff opens).1 passes, foreign⟩
    | circular back => exact .inr (.inl ((comesBack_iff opens).1 back))
    | incomplete passes incomplete =>
      have meant := (passes_iff opens).1 passes
      exact .inr (.inr ⟨_, meant, (isIncomplete_iff (opens _ meant)).1 incomplete⟩)
  · intro reason
    have unknown : Settled anyChild index type (.error .foreignType) := by
      rcases reason with ⟨last, passes, foreign⟩ | back | ⟨last, passes, incomplete⟩
      · exact .foreign ((passes_iff opens).2 passes) foreign
      · exact .circular ((comesBack_iff opens).2 back)
      · exact .incomplete ((passes_iff opens).2 passes)
          ((isIncomplete_iff (opens _ passes)).2 incomplete)
    cases tells : underlying index type with
    | error cause => exact ⟨cause, rfl⟩
    | ok info =>
      rw [tells] at settled
      cases settled with
      | known passes means => cases settled_unique passes means unknown
  · intro passed passes opens
    obtain ⟨comment, passes', isComment⟩ := passes_comment passes opens
    exact settled_unique passes' (means_comment isComment) settled

/-- What holds everywhere in a type and in all declared types holds everywhere in each type on the
chain. -/
theorem everywhere_of_passes {p : Node → Prop} {type passed : Node} (tree : type.Everywhere p)
    (trees : ∀ symbol ∈ index.symbols, ∀ declared ∈ symbol.type, declared.Everywhere p)
    (passes : Passes counts index type passed) : passed.Everywhere p := by
  induction passes with
  | refl => exact tree
  | tail _ stands ih =>
    cases stands with
    | inside _ first => exact ih.child (Node.mem_named_iff.1 (List.mem_of_find?_eq_some first)).1
    | generic _ here => exact ih.child (Node.mem_children_of_child? here)
    | declared _ found declares => exact trees _ (List.mem_of_find?_eq_some found) _ declares

def typeInParentheses (inner : List Node) : Node :=
  .mk .parenthesizedType (some .type) default ("(" ++ " ".intercalate (inner.map Node.text) ++ ")")
    (.mk .token none default "(" [] :: inner ++ [.mk .token none default ")" []])

def intSlice (role : Option Syntax.Role) : Node :=
  .mk .sliceType role default "[]int" [.mk .token none default "[" [],
    .mk .token none default "]" [], typeNamed (some .element) "int"]

def typeSymbol (name : String) (type : Node) : Symbol :=
  { name, kind := .type, file := "p.go", line := 1, type := some type }

/-- The instantiation `B[int]`. -/
def instanceOfB : Node :=
  .mk .genericType none default "B[int]" [typeNamed (some .type) "B",
    .mk .typeArguments (some .typeArguments) default "[int]" []]

/-- The types `A` that is `(B[int])`, `B` that is `[]int`, `C` that is `(D)`, and `D` that is
`C`. -/
def chainedIndex : Index :=
  ⟨[typeSymbol "A" (typeInParentheses [instanceOfB]),
    typeSymbol "B" (intSlice (some .type)),
    typeSymbol "C" (typeInParentheses [typeNamed none "D"]),
    typeSymbol "D" (typeNamed (some .type) "C")]⟩

/-- The chain from `A` ends with a slice, and the chain from `C` comes back. -/
theorem underlying_chainedIndex :
    underlying chainedIndex (typeNamed none "A") =
        .ok { typeClass := .slice, element := typeNamed (some .element) "int" } ∧
      ∃ cause, underlying chainedIndex (typeNamed none "C") = .error cause := by
  have trees : ∀ symbol ∈ chainedIndex.symbols, ∀ declared ∈ symbol.type,
      declared.Everywhere (opensWithComment · = false) := by
    unfold Node.Everywhere
    decide +kernel
  have tree (name : String) : (typeNamed none name).Everywhere (opensWithComment · = false) := by
    simp [Node.Everywhere, Node.sites, Node.preorder_eq, typeNamed, opensWithComment]
  have opens (name : String) (passed : Node)
      (passes : Passes noComment chainedIndex (typeNamed none name) passed) :
      opensWithComment passed = false :=
    (everywhere_of_passes (tree name) trees passes).here
  constructor
  · have chain : Passes noComment chainedIndex (typeNamed none "A") (intSlice (some .type)) := by
      have named : StandsFor noComment chainedIndex (typeNamed none "A")
          (typeInParentheses [instanceOfB]) := .declared rfl rfl rfl
      have inside : StandsFor noComment chainedIndex (typeInParentheses [instanceOfB])
          instanceOfB := .inside rfl rfl
      have generic : StandsFor noComment chainedIndex instanceOfB (typeNamed (some .type) "B") :=
        .generic rfl rfl
      have declared : StandsFor noComment chainedIndex (typeNamed (some .type) "B")
          (intSlice (some .type)) := .declared rfl rfl rfl
      exact (((ReflTransGen.single named).tail inside).tail generic).tail declared
    exact (((underlying_by_chain _ _).1 (opens "A")).1 _).2 ⟨_, chain, .slice rfl⟩
  · have around : TransGen (StandsFor noComment chainedIndex) (typeNamed none "C")
        (typeNamed (some .type) "C") := by
      have named : StandsFor noComment chainedIndex (typeNamed none "C")
          (typeInParentheses [typeNamed none "D"]) := .declared rfl rfl rfl
      have inside : StandsFor noComment chainedIndex (typeInParentheses [typeNamed none "D"])
          (typeNamed none "D") := .inside rfl rfl
      have declared : StandsFor noComment chainedIndex (typeNamed none "D")
          (typeNamed (some .type) "C") := .declared rfl rfl rfl
      exact ((TransGen.single named).tail inside).tail declared
    have back : ComesBack noComment chainedIndex (typeNamed none "C") :=
      ⟨_, _, .refl, around, rfl, rfl, rfl⟩
    exact ((underlying_by_chain _ _).1 (opens "C")).2.2 (.inr (.inl back))

/-- The type `A` that is `( /* c */ []int)`. -/
def commentedIndex : Index :=
  ⟨[typeSymbol "A" (typeInParentheses [.mk .comment none default "/* c */" [], intSlice none])]⟩

/-- The name `A` holds no comment and stands for a slice in the end, but is taken for a type that is
no container. -/
theorem comment_ends_chain :
    (typeNamed none "A").hasComment = false ∧
      Passes noComment commentedIndex (typeNamed none "A") (intSlice none) ∧
      (intSlice none).kind = .sliceType ∧
      (underlying commentedIndex (typeNamed none "A")).typeClass? = some .other := by
  refine ⟨by decide +kernel, ?_, rfl, by decide +kernel⟩
  have named : StandsFor noComment commentedIndex (typeNamed none "A")
      (typeInParentheses [.mk .comment none default "/* c */" [], intSlice none]) :=
    .declared rfl rfl rfl
  exact (ReflTransGen.single named).tail (.inside rfl rfl)

end SliceGuard.Typing
