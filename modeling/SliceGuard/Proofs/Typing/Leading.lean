import SliceGuard.Proofs.Typing.Scopes

/-!
# What stands before a use

A scope that is no function answers to one of its children by what stands before that child, and by
nothing else.  So two versions of a scope that agree before a child give it the same answer,
whatever the child is and whatever comes after it.
-/

namespace SliceGuard.Typing

open Syntax (Kind Matching Node Role Site)
open Syntax.Node (ReadAlike Solid mayDiffer_of_role)
open Declarations

section Order

variable {scope child part : Node} {lead rest : List Node}

/-- What stands before a child ends before it starts. -/
theorem stop_le_of_lead (solid : scope.Solid) (children : scope.children = lead ++ child :: rest)
    (mem : part ∈ lead) (counts : part.isNamed = true ∨ part.role ≠ none) :
    part.stop ≤ child.start := by
  obtain ⟨position, inside, rfl⟩ := List.getElem_of_mem mem
  have here : scope.children[lead.length]? = some child := by simp [children]
  have there : scope.children[position]? = some lead[position] := by
    simp [children, List.getElem?_append_left inside]
  exact (solid.order there here counts).2.2 inside

theorem not_stop_le_of_rest (solid : scope.Solid)
    (children : scope.children = lead ++ child :: rest) (mem : part ∈ child :: rest)
    (counts : part.isNamed = true ∨ part.role ≠ none) : ¬ part.stop ≤ child.start := by
  obtain ⟨position, inside, rfl⟩ := List.getElem_of_mem mem
  have here : scope.children[lead.length]? = some child := by simp [children]
  have there : scope.children[lead.length + position]? = some (child :: rest)[position] := by
    rw [children, List.getElem?_append_right (by omega)]
    simp
  intro stops
  have := (solid.order there here counts).2.1 stops
  omega

/-- A part that plays a role counts where it stands before the child. -/
theorem filter_child?_of_lead (solid : scope.Solid)
    (children : scope.children = lead ++ child :: rest) (role : Role) :
    (scope.child? role).filter (fun part => part.stop ≤ child.start) =
      lead.find? (Node.plays role) := by
  have counts {part : Node} (plays : part.plays role = true) : part.role ≠ none := by
    intro missing
    simp [Node.plays, missing] at plays
  rw [Node.child?, children, List.find?_append]
  cases first : lead.find? (Node.plays role) with
  | some part =>
    have stops := stop_le_of_lead solid children (List.mem_of_find?_eq_some first)
      (.inr (counts (List.find?_some first)))
    simp [stops]
  | none =>
    cases second : (child :: rest).find? (Node.plays role) with
    | none => rfl
    | some part =>
      have stops := not_stop_le_of_rest solid children (List.mem_of_find?_eq_some second)
        (.inr (counts (List.find?_some second)))
      simpa using stops

end Order

section Answers

variable {scope : Site} {child : Node} {lead rest : List Node}

theorem initializerBinding?_of_children (solid : scope.node.Solid)
    (children : scope.node.children = lead ++ child :: rest) (name : String) :
    initializerBinding? scope child name =
      (lead.find? (Node.plays .initializer)).bind fun first =>
        statementBinding? (scope.below first) name := by
  have found := filter_child?_of_lead solid children .initializer
  rw [← found, initializerBinding?, Site.child?]
  cases scope.node.child? .initializer with
  | none => rfl
  | some first =>
    by_cases before : first.stop ≤ child.start <;> simp [before, Option.filter]

theorem isAliasOf_of_children (solid : scope.node.Solid)
    (children : scope.node.children = lead ++ child :: rest) (name : String) :
    isAliasOf scope.node child name =
      (lead.find? (Node.plays .caseName)).any fun names =>
        (names.named.map Node.text).contains name := by
  have found := filter_child?_of_lead solid children .caseName
  rw [← found, isAliasOf]
  cases scope.node.child? .caseName with
  | none => rfl
  | some names =>
    by_cases before : names.stop ≤ child.start <;> simp [before, Option.filter]

/-- The clauses of a loop that come after a child are passed over. -/
theorem loopBinding?_of_children (solid : scope.node.Solid)
    (children : scope.node.children = lead ++ child :: rest) (name : String) :
    loopBinding? child name scope.named =
      loopBinding? child name ((lead.filter Node.isNamed).map scope.below) := by
  have later (clauses : List Node) (after : ∀ clause ∈ clauses, ¬ clause.stop ≤ child.start) :
      loopBinding? child name (clauses.map scope.below) = none := by
    induction clauses with
    | nil => rfl
    | cons clause clauses ih =>
      have stops := after clause List.mem_cons_self
      rw [List.map_cons, loopBinding?, Site.node_below, if_pos (by omega)]
      exact ih fun other mem => after other (List.mem_cons_of_mem _ mem)
  have append (clauses others : List Site) (none : loopBinding? child name others = none) :
      loopBinding? child name (clauses ++ others) = loopBinding? child name clauses := by
    induction clauses with
    | nil => exact none
    | cons clause clauses ih => simp only [List.cons_append, loopBinding?, ih]
  rw [Site.named, Node.named, children, List.filter_append, List.map_append]
  apply append
  apply later
  intro clause mem
  obtain ⟨mem, named⟩ := List.mem_filter.1 mem
  exact not_stop_le_of_rest solid children mem (.inl named)

end Answers

section Switches

variable {switch : Site} {name : String}

/-- The names that a type switch gives to its value. -/
def switchNames (switch : Node) : List String :=
  ((switch.child? .caseName).map fun names => names.named.map Node.text).getD []

theorem not_isAliasOf {switch : Node} (other : name ∉ switchNames switch) (child : Node) :
    isAliasOf switch child name = false := by
  unfold isAliasOf
  unfold switchNames at other
  generalize switch.child? .caseName = title at other
  cases title with
  | none => rfl
  | some names => simp_all

/-- A type switch answers by its initializer for the names that it does not give. -/
theorem scopeBinding?_switch (kind : switch.node.kind = .typeSwitchStatement)
    (other : name ∉ switchNames switch.node) (child : Node) :
    scopeBinding? switch child name = initializerBinding? switch child name := by
  rw [scopeBinding?_eq, kind]
  simp [scopeForm, not_isAliasOf other]

theorem find?_append_of_role {role : Role} {lead middle : List Node}
    (other : ∀ part ∈ middle, part.role ≠ some role) :
    (lead ++ middle).find? (Node.plays role) = lead.find? (Node.plays role) := by
  have unplayed : middle.find? (Node.plays role) = none := by
    rw [List.find?_eq_none]
    intro part mem
    simpa [Node.plays] using other part mem
  rw [List.find?_append, unplayed, Option.or_none]

end Switches

section Versions

variable {names : String → Prop} {edit : Node → Node → Prop} {related : Site → Site → Prop}
  {name : String} {scope scope' : Site} {child child' : Node} {lead lead' rest rest' : List Node}

theorem initializerBinding?_of_lead (matching : Matching names edit related)
    (tells : Tells names edit related name) (solid : scope.node.Solid) (solid' : scope'.node.Solid)
    (children : scope.node.children = lead ++ child :: rest)
    (children' : scope'.node.children = lead' ++ child' :: rest')
    (first : Option.Rel (fun node node' => related (scope.below node) (scope'.below node'))
      (lead.find? (Node.plays .initializer)) (lead'.find? (Node.plays .initializer))) :
    Option.Rel (Binding.Matched names edit related) (initializerBinding? scope child name)
      (initializerBinding? scope' child' name) := by
  rw [initializerBinding?_of_children solid children,
    initializerBinding?_of_children solid' children']
  generalize lead.find? (Node.plays .initializer) = initializer,
    lead'.find? (Node.plays .initializer) = initializer' at first
  cases first with
  | none => exact .none
  | some here => exact statementBinding?_matched matching tells here

theorem contains_text_matched (asked : names name) {nodes others : List Node}
    (all : List.Forall₂ (ReadAlike names) nodes others) :
    (others.map Node.text).contains name = (nodes.map Node.text).contains name := by
  rw [List.contains_eq_any_beq, List.contains_eq_any_beq, List.any_map, List.any_map]
  refine any_eq (fun node other part => ?_) all
  have same := part.beq_text asked
  rwa [Bool.beq_comm, @Bool.beq_comm _ _ _ _ name] at same

theorem isAliasOf_of_lead (matching : Matching names edit related) (asked : names name)
    (solid : scope.node.Solid) (solid' : scope'.node.Solid)
    (children : scope.node.children = lead ++ child :: rest)
    (children' : scope'.node.children = lead' ++ child' :: rest')
    (leads : List.Forall₂ (fun node node' => related (scope.below node) (scope'.below node')) lead
      lead') :
    isAliasOf scope'.node child' name = isAliasOf scope.node child name := by
  have titles := rel_find?_and (p := Node.plays .caseName) (q := Node.plays .caseName)
    (fun _ _ part => (matching.head part).plays .caseName) leads
  rw [isAliasOf_of_children solid children, isAliasOf_of_children solid' children']
  generalize lead.find? (Node.plays .caseName) = title,
    lead'.find? (Node.plays .caseName) = title' at titles
  cases titles with
  | none => rfl
  | @some title title' both =>
    obtain ⟨plays, part⟩ := both
    have role : title.role = some .caseName := by simpa [Node.plays] using plays
    have read : List.Forall₂ (ReadAlike names) title.named title'.named :=
      (matching.node part).readNamed (mayDiffer_of_role role (by decide))
        (by simp [Node.readsChildren, plays])
    exact contains_text_matched asked read

/-- Parts that stand before the child do so in both versions. -/
theorem aligned_lead (matching : Matching names edit related) (solid : scope.node.Solid)
    (solid' : scope'.node.Solid) (children : scope.node.children = lead ++ child :: rest)
    (children' : scope'.node.children = lead' ++ child' :: rest')
    (leads : List.Forall₂ (fun node node' => related (scope.below node) (scope'.below node')) lead
      lead') :
    List.Forall₂ (fun node node' => Aligned related child child' (scope.below node)
      (scope'.below node')) lead lead' := by
  rw [List.forall₂_iff_get] at leads ⊢
  obtain ⟨lengths, leads⟩ := leads
  refine ⟨lengths, fun position inside inside' => ?_⟩
  have part := leads position inside inside'
  have here : scope.node.children[lead.length]? = some child := by simp [children]
  have here' : scope'.node.children[lead.length]? = some child' := by simp [children', lengths]
  have there : scope.node.children[position]? = some (lead.get ⟨position, inside⟩) := by
    simp [children, List.getElem?_append_left inside]
  have there' : scope'.node.children[position]? = some (lead'.get ⟨position, inside'⟩) := by
    simp [children', List.getElem?_append_left inside']
  exact ⟨part, sameSide_of_solid solid solid' here here' there there' (matching.head part)⟩

/-- A scope gives the same answer in both versions, if they agree before the child. -/
theorem scopeBinding?_of_lead (matching : Matching names edit related) (asked : names name)
    (tells : Tells names edit related name) (kind : scope'.node.kind = scope.node.kind)
    (form : scopeForm scope.node.kind ≠ .function) (solid : scope.node.Solid)
    (solid' : scope'.node.Solid) (children : scope.node.children = lead ++ child :: rest)
    (children' : scope'.node.children = lead' ++ child' :: rest')
    (leads : List.Forall₂ (fun node node' => related (scope.below node) (scope'.below node')) lead
      lead') :
    Option.Rel (Binding.Matched names edit related) (scopeBinding? scope child name)
      (scopeBinding? scope' child' name) := by
  have initializers := initializerBinding?_of_lead matching tells solid solid' children children'
    (rel_find? (fun _ _ part => (matching.head part).plays .initializer) leads)
  rw [scopeBinding?_eq, scopeBinding?_eq, kind]
  cases form' : scopeForm scope.node.kind with
  | statements =>
    dsimp only
    rw [statementsBinding?_of_children solid children,
      statementsBinding?_of_children solid' children']
    exact lastBinding?_matched matching tells leads
  | initializer => exact initializers
  | typeSwitch =>
    dsimp only
    rw [isAliasOf_of_lead matching asked solid solid' children children' leads]
    split
    · exact .some .untold
    · exact initializers
  | loop =>
    dsimp only
    rw [loopBinding?_of_children solid children, loopBinding?_of_children solid' children']
    refine loopBinding?_matched matching asked tells ?_
    rw [List.forall₂_map_left_iff, List.forall₂_map_right_iff]
    have aligned := aligned_lead matching solid solid' children children' leads
    refine forall₂_imp_of_mem (forall₂_filter ?_ aligned) ?_
    · intro _ _ part
      exact (matching.head part.related).isNamed
    · intro node mem _ part
      exact ⟨(List.mem_filter.1 mem).2, part⟩
  | function => exact absurd form' form
  | none => exact .none

end Versions

end SliceGuard.Typing
