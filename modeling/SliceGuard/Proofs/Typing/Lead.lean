import Mathlib.Logic.Relation
import SliceGuard.Typing.Expression

/-!
# What an expression leads to

An expression either tells its type by itself or leads to one other value, whose type tells its own.
So the type of an expression is found along a single chain of values, and what limits the search is
the length of that chain.
-/

namespace SliceGuard.Typing

open Syntax (Kind Node Site)
open Declarations

/-- How the type of a value tells the type of an expression that leads to it. -/
inductive Passage where
  | same
  | sliced
  | indexed
  | ranged (position : Nat)
deriving DecidableEq, Repr

def Passage.apply (index : Index) : Passage → TypeInfo → Knowledge
  | same, info => .ok info
  | sliced, info => .ok (sliceOf info)
  | indexed, info => elementOf index info
  | ranged position, info => rangeTarget index info position

/-- What an expression leads to: what it says by itself, or the next value. -/
inductive Lead where
  | settled (knowledge : Knowledge)
  | through (value : Site) (passage : Passage)

namespace Lead

/-- A lead to a value that may be missing. -/
def toward (passage : Passage) : Option Site → Lead
  | some value => through value passage
  | none => settled (.error .untyped)

/-- The type at the end of a lead, given how the next value is followed. -/
def knowledge (index : Index) (follow : Follow) : Lead → Knowledge
  | settled knowledge => knowledge
  | through value passage => do passage.apply index (← follow value)

theorem knowledge_toward_same (index : Index) (follow : Follow) (value : Option Site) :
    (toward .same value).knowledge index follow = follow.maybe value := by
  cases value with
  | none => rfl
  | some value =>
    change (follow value >>= Except.ok) = follow value
    cases follow value <;> rfl

theorem knowledge_toward (index : Index) (follow : Follow) (passage : Passage)
    (value : Option Site) :
    (toward passage value).knowledge index follow =
      (do passage.apply index (← follow.maybe value)) := by
  cases value <;> rfl

/-- What a lead gives, where `has` says which values have which types. -/
def Gives (index : Index) (has : Site → TypeInfo → Prop) : Lead → TypeInfo → Prop
  | settled knowledge, info => knowledge = .ok info
  | through value passage, info => ∃ told, has value told ∧ passage.apply index told = .ok info

theorem Gives.mono {index : Index} {has has' : Site → TypeInfo → Prop} {lead : Lead}
    {info : TypeInfo} (more : ∀ value told, has value told → has' value told)
    (gives : lead.Gives index has info) : lead.Gives index has' info := by
  cases lead with
  | settled knowledge => exact gives
  | through value passage =>
    obtain ⟨told, here, passes⟩ := gives
    exact ⟨told, more value told here, passes⟩

theorem gives_toward_iff {index : Index} {has : Site → TypeInfo → Prop} {passage : Passage}
    {value : Option Site} {info : TypeInfo} :
    (toward passage value).Gives index has info ↔
      ∃ site told, value = some site ∧ has site told ∧ passage.apply index told = .ok info := by
  cases value <;> simp [toward, Gives]

theorem knowledge_eq_ok_iff {index : Index} {follow : Follow} {lead : Lead} {info : TypeInfo} :
    lead.knowledge index follow = .ok info ↔
      lead.Gives index (fun value told => follow value = .ok told) info := by
  cases lead with
  | settled knowledge => exact Iff.rfl
  | through value passage =>
    change (follow value >>= passage.apply index) = .ok info ↔ _
    cases followed : follow value with
    | error cause => simp [Gives, followed, bind, Except.bind]
    | ok told => simp [Gives, followed, bind, Except.bind]

end Lead

def namedCallLead (index : Index) (name : String) (arguments : List Site) : Lead :=
  match name with
  | "make" => .settled (underlying index (arguments.head?.map Site.node))
  | "new" => .settled (.ok .plain)
  | "append" => .toward .same arguments.head?
  | "len" | "cap" | "copy" => .settled (.ok .plain)
  | _ =>
    .settled (if (index.type? name).isSome then namedType index name else onlyResult index name)

def callLead (index : Index) (call : Site) : Lead :=
  match call.node.child? .function with
  | none => .settled (.error .untyped)
  | some function =>
    if function.kind == .identifier then
      namedCallLead index function.text (callArguments call)
    else if isConversionKind function.kind then .settled (underlying index function)
    else .settled (.error .untyped)

def shareLead (index : Index) (value : Site) (position : Nat) : Lead :=
  match innerSite value value.node.size with
  | none => .settled (.error .untyped)
  | some value =>
    match value.node.kind with
    | .callExpression => .settled (resultAt index value.node position)
    | .indexExpression | .typeAssertionExpression =>
      match position with
      | 0 => .through value .same
      | 1 => .settled (.ok .plain)
      | _ => .settled (.error .untyped)
    | .unaryExpression => .settled (if position = 1 then .ok .plain else .error .untyped)
    | _ => .settled (.error .untyped)

def bindingLead (index : Index) : Binding → Lead
  | .constant => .settled (.ok .plain)
  | .typed type => .settled (underlying index type)
  | .variadic element => .settled (.ok { typeClass := .slice, element })
  | .initialized (.own value) => .through value .same
  | .initialized (.shared value position) => shareLead index value position
  | .ranged container position => .toward (.ranged position) container
  | .untold => .settled (.error .untyped)

def expressionLead (index : Index) (site : Site) : Lead :=
  match site.node.kind with
  | .identifier =>
    match binding? index site with
    | some binding => bindingLead index binding
    | none => .settled (.error (.undeclared site.node.text))
  | .parenthesizedExpression => .toward .same (site.named.find? (·.node.kind != .comment))
  | .interpretedStringLiteral | .rawStringLiteral => .settled (.ok .plain)
  | .compositeLiteral | .typeConversionExpression | .typeAssertionExpression =>
    .settled (underlying index (site.node.child? .type))
  | .sliceExpression => .toward .sliced (site.child? .operand)
  | .indexExpression => .toward .indexed (site.child? .operand)
  | .callExpression => callLead index site
  | _ => .settled (.error .untyped)

section

variable (index : Index) (follow : Follow)

theorem knowledge_through_same (value : Site) :
    (Lead.through value .same).knowledge index follow = follow value :=
  Lead.knowledge_toward_same index follow (some value)

theorem namedCallType_eq_lead (name : String) (arguments : List Site) :
    namedCallType index follow name arguments =
      (namedCallLead index name arguments).knowledge index follow := by
  unfold namedCallType namedCallLead
  split
  case h_3 => exact (Lead.knowledge_toward_same index follow arguments.head?).symm
  case h_7 => split <;> simp_all [Lead.knowledge]
  all_goals rfl

theorem callType_eq_lead (call : Site) :
    callType index follow call = (callLead index call).knowledge index follow := by
  unfold callType callLead
  cases call.node.child? .function with
  | none => rfl
  | some function =>
    dsimp only
    split
    · exact namedCallType_eq_lead index follow _ _
    · split <;> rfl

theorem shareType_eq_lead (value : Site) (position : Nat) :
    shareType index follow value position =
      (shareLead index value position).knowledge index follow := by
  unfold shareType shareLead
  cases innerSite value value.node.size with
  | none => rfl
  | some value =>
    dsimp only
    generalize value.node.kind = kind
    split
    -- The two matches fall through to their last cases together.
    case h_5 => simp_all [Lead.knowledge]
    case h_2 | h_3 =>
      rcases position with _ | _ | position
      · exact (knowledge_through_same index follow value).symm
      · rfl
      · rfl
    all_goals rfl

theorem bindingType_eq_lead (binding : Binding) :
    bindingType index follow binding = (bindingLead index binding).knowledge index follow := by
  cases binding with
  | initialized value =>
    cases value with
    | own value => exact (knowledge_through_same index follow value).symm
    | shared value position => exact shareType_eq_lead index follow value position
  | ranged container position =>
    exact (Lead.knowledge_toward index follow (.ranged position) container).symm
  | constant | typed | variadic | untold => rfl

/-- The type of an expression is the one it leads to. -/
theorem expressionType_eq_lead (site : Site) :
    expressionType index follow site = (expressionLead index site).knowledge index follow := by
  unfold expressionType expressionLead
  generalize site.node.kind = kind
  split
  case h_1 =>
    cases binding? index site with
    | none => rfl
    | some binding => exact bindingType_eq_lead index follow binding
  case h_2 => exact (Lead.knowledge_toward_same index follow _).symm
  case h_8 => exact (Lead.knowledge_toward index follow .sliced _).symm
  case h_9 => exact (Lead.knowledge_toward index follow .indexed _).symm
  case h_10 => exact callType_eq_lead index follow site
  case h_11 => simp_all [Lead.knowledge]
  all_goals rfl

end

theorem typeWithin_succ (index : Index) (steps : Nat) (site : Site) :
    typeWithin index (steps + 1) site =
      (expressionLead index site).knowledge index (typeWithin index steps) :=
  expressionType_eq_lead index _ site

theorem typeWithin_succ_eq_ok_iff {index : Index} {steps : Nat} {site : Site} {info : TypeInfo} :
    typeWithin index (steps + 1) site = .ok info ↔
      (expressionLead index site).Gives index
        (fun value told => typeWithin index steps value = .ok told) info := by
  rw [typeWithin_succ, Lead.knowledge_eq_ok_iff]

/-- The next value on the way from an expression to its type. -/
def LeadsTo (index : Index) (site value : Site) : Prop :=
  ∃ passage, expressionLead index site = .through value passage

/-- All values on the way from an expression to its type, the expression among them. -/
def Reaches (index : Index) : Site → Site → Prop :=
  Relation.ReflTransGen (LeadsTo index)

end SliceGuard.Typing
