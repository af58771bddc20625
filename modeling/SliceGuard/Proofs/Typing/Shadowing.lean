import SliceGuard.Proofs.Typing.Nearest
import SliceGuard.Proofs.Typing.Symbols

/-!
# Names that are shadowed

Where a scope declares a name that is used in it, the climb from the use ends in that scope or
before it.  So two versions of a package in which nothing in the scope is edited bind the use alike,
whatever the scopes around it and the package declare.
-/

namespace SliceGuard.Typing

open Syntax (Kind Matching Node Role Site Twin)
open Syntax.Node (Rewritten Solid Untouched noEdit)
open Declarations

/-- A scope around a node, in which nothing is edited, declares the name where the node stands. -/
inductive Shadowed (edit : Node → Node → Prop) (name : String) : Node → List Node → Prop
  | here {child scope : Node} {outer : List Node} {declaration : Declaration} {binding : Binding}
      (untouched : Untouched edit scope) (seen : InScope ⟨scope, outer⟩ child declaration)
      (declares : declaration.Declares name binding) : Shadowed edit name child (scope :: outer)
  | outward {child scope : Node} {outer : List Node} (farther : Shadowed edit name scope outer) :
      Shadowed edit name child (scope :: outer)

theorem functionBinding?_isSome {function list : Node} {name : String} {binding : Binding}
    (listed : list ∈ signatureLists function)
    (declares : (Declaration.parameters list).Declares name binding) :
    (functionBinding? function name).isSome = true := by
  change ((signatureLists function).findSome? (listBinding? name)).isSome = true
  rw [List.findSome?_isSome_iff]
  exact ⟨list, listed, listBinding?_isSome declares⟩

/-- A scope answers for every name that it declares. -/
theorem scopeBinding?_isSome {scope : Site} {child : Node} {declaration : Declaration}
    {name : String} {binding : Binding} (laid : scope.node.LaidOut) (shaped : HeadShaped scope.node)
    (seen : InScope scope child declaration) (declares : declaration.Declares name binding) :
    (scopeBinding? scope child name).isSome = true := by
  by_cases form : scopeForm scope.node.kind = .function
  · have asked : scopeBinding? scope child name = functionBinding? scope.node name := by
      rw [scopeBinding?_eq, form]
    rw [InScope, form] at seen
    obtain ⟨list, listed, rfl⟩ := seen
    rw [asked]
    exact functionBinding?_isSome listed declares
  · have answers : Answers (InScope scope child) 0 name (scopeBinding? scope child name) :=
      answers_scope laid shaped (fun isFunction => absurd isFunction form) 0
    cases found : scopeBinding? scope child name with
    | some answer => rfl
    | none =>
      rw [found] at answers
      exact absurd declares (answers declaration binding seen)

section Versions

variable {names : String → Prop} {edit : Node → Node → Prop} {related : Site → Site → Prop}
  {start : Site → Site → Prop} {name : String}

theorem Binding.Matched.mono {edit' : Node → Node → Prop} {related' : Site → Site → Prop}
    (more : ∀ old new, edit old new → edit' old new)
    (finer : ∀ old new, related old new → related' old new) {binding other : Binding}
    (same : Binding.Matched names edit related binding other) :
    Binding.Matched names edit' related' binding other := by
  have types {type type' : Option Node} (same : Option.Rel (Rewritten names edit) type type') :
      Option.Rel (Rewritten names edit') type type' :=
    rel_imp (fun _ _ => Rewritten.mono more) same
  cases same with
  | constant => exact .constant
  | typed same => exact .typed (types same)
  | variadic same => exact .variadic (types same)
  | initialized same =>
    cases same with
    | own here => exact .initialized (.own (finer _ _ here))
    | shared here position => exact .initialized (.shared (finer _ _ here) position)
  | ranged same position => exact .ranged (rel_imp finer same) position
  | untold => exact .untold

variable {old new : Site}

/-- A scope in which nothing is edited says the same of every name in both versions. -/
theorem scopeBinding?_untouched
    (starts : ∀ old new, start old new → Rewritten names edit old.node new.node)
    (solid : ∀ old new, start old new → old.node.Solid ∧ new.node.Solid) (asked : names name)
    (outer : Twin names edit start old new) (untouched : Untouched edit old.node) {position : Nat}
    {child child' : Node} (here : old.node.children[position]? = some child)
    (here' : new.node.children[position]? = some child') :
    Option.Rel (Binding.Matched names edit (Twin names edit start)) (scopeBinding? old child name)
      (scopeBinding? new child' name) := by
  have whole := (outer.rewritten starts).unedited untouched
  have spread : List.Forall₂ (Rewritten names noEdit) old.node.children
      new.node.children := by
    cases whole with
    | edited _ _ never => exact never.elim
    | spread _ children _ => exact children
  obtain ⟨solidOld, solidNew⟩ := outer.solid solid
  have matching : Matching names noEdit
      (Twin names noEdit fun first second => first = old ∧ second = new) := by
    refine Twin.matching ?_
    rintro _ _ ⟨rfl, rfl⟩
    exact whole
  have bound := scopeBinding?_twin matching (fun _ _ twin => twin) asked tells_noEdit
    (.start ⟨rfl, rfl⟩) solidOld solidNew spread here here'
  exact rel_imp (fun _ _ => Binding.Matched.mono (fun _ _ never => never.elim)
    fun _ _ => outer.trans fun _ _ never => never.elim) bound

theorem untouched_of_shadowed (starts : ∀ old new, start old new → old.above = [])
    (twin : Twin names edit start old new) (shadowed : Shadowed edit name old.node old.above) :
    Untouched edit old.node := by
  induction twin with
  | start here =>
    rw [starts _ _ here] at shadowed
    cases shadowed
  | child outer _ position here here' ih =>
    have mem := List.mem_of_getElem? here
    rw [Site.above_below] at shadowed
    cases shadowed with
    | here untouched _ _ => exact untouched.child mem
    | outward farther => exact (ih farther).child mem

/-- The climb for a shadowed name ends at the same declaration in both versions. -/
theorem climb_shadowed
    (starts : ∀ old new, start old new → Rewritten names edit old.node new.node)
    (roots : ∀ old new, start old new → old.above = [])
    (solid : ∀ old new, start old new → old.node.Solid ∧ new.node.Solid) (asked : names name)
    (twin : Twin names edit start old new) (shaped : ∀ node ∈ old.above, HeadShaped node)
    (shadowed : Shadowed edit name old.node old.above) :
    Option.Rel (Binding.Matched names edit (Twin names edit start))
        (climb name old.node old.above) (climb name new.node new.above) ∧
      (climb name old.node old.above).isSome = true := by
  induction twin with
  | start here =>
    rw [roots _ _ here] at shadowed
    cases shadowed
  | @child old new child child' outer spread position here here' ih =>
    rw [Site.above_below] at shaped shadowed
    rw [Site.above_below, Site.above_below, Site.node_below, Site.node_below, climb_cons,
      climb_cons]
    cases shadowed with
    | here untouched seen declares =>
      have bound := scopeBinding?_untouched starts solid asked outer untouched here here'
      have found : (scopeBinding? old child name).isSome = true :=
        scopeBinding?_isSome (outer.solid solid).1.laidOut (shaped _ (by simp)) seen declares
      generalize scopeBinding? old child name = answer,
        scopeBinding? new child' name = answer' at bound found
      cases bound with
      | none => cases found
      | some same => exact ⟨.some same, rfl⟩
    | outward farther =>
      have untouched := untouched_of_shadowed roots outer farther
      have bound := scopeBinding?_untouched starts solid asked outer untouched here here'
      obtain ⟨around, found⟩ := ih (fun node mem => shaped node (by simp [mem])) farther
      refine ⟨rel_or bound around, ?_⟩
      rw [Option.isSome_or, found, Bool.or_true]

end Versions

end SliceGuard.Typing
