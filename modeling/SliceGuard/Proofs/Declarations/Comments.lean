import SliceGuard.Declarations.Symbol
import SliceGuard.Proofs.Syntax.Comments

/-!
# Comments that are not counted

Most children are found by their roles or kinds, and comments have none that is asked for.  But
there are places where all named children count, or where the first one is taken: the lists of a
declaration of variables, a type in parentheses, and the pointer of a receiver.  Where no comment
stands in one of these places, a signature is the same without the comments.
-/

namespace SliceGuard.Declarations

open Syntax (Kind Node Role Site)
open Syntax.Node (Everywhere Tidy)

def listsComment (role : Role) (node : Node) : Bool :=
  (node.child? role).any (·.named.any Node.isComment)

/-- Whether a comment stands where the named children are counted, or where the first one is
taken. -/
def countsComment (node : Node) : Bool :=
  match node.kind with
  | .shortVarDeclaration => listsComment .left node || listsComment .right node
  | .varSpec => listsComment .value node
  | .parenthesizedType => node.startsWithComment
  | .methodDeclaration =>
    (receiverType node).any fun type => type.sites.any fun site =>
      site.node.kind == .pointerType && site.node.startsWithComment
  | _ => false

/-- The trees that are read from sources and in which no comment is counted. -/
def Neat (texts : Node → String) (node : Node) : Prop :=
  node.Everywhere fun part => part.Tidy texts ∧ countsComment part = false

namespace Neat

variable {texts : Node → String} {node : Node}

theorem tidy (neat : Neat texts node) : node.Everywhere (Tidy texts) :=
  Everywhere.imp neat fun _ both => both.1

theorem uncounted (neat : Neat texts node) : countsComment node = false :=
  (Everywhere.here neat).2

theorem child (neat : Neat texts node) {part : Node} (mem : part ∈ node.children) :
    Neat texts part :=
  Everywhere.child neat mem

theorem child? (neat : Neat texts node) {role : Role} {part : Node}
    (found : node.child? role = some part) : Neat texts part :=
  neat.child (Node.mem_children_of_child? found)

theorem named (neat : Neat texts node) {part : Node} (mem : part ∈ node.named) : Neat texts part :=
  neat.child (Node.mem_named_iff.1 mem).1

end Neat

section Signatures

variable {texts : Node → String} {node : Node}

/-- The first named child is no comment if the node does not start with one. -/
theorem isComment_of_find?_isNamed (starts : node.startsWithComment = false) {child : Node}
    (first : node.children.find? Node.isNamed = some child) : child.isComment = false := by
  rw [Node.startsWithComment, Node.named, List.head?_filter, first] at starts
  exact starts

/-- What plays the role of a name is the same text. -/
theorem text_of_name (neat : Neat texts node) {child : Node} (mem : child ∈ node.children)
    (plays : child.role = some .name) : (child.withoutComments texts).text = child.text := by
  have spelled : child.isSpelled = true := by simp [Node.isSpelled, Node.plays, plays]
  exact Node.text_of_isSpelled (neat.child mem).tidy spelled
    (Node.isComment_of_role neat.tidy mem plays)

theorem declaredNames_withoutComments (neat : Neat texts node) :
    declaredNames (node.withoutComments texts) = declaredNames node := by
  rw [declaredNames, declaredNames, Node.childrenIn_withoutComments neat.tidy, List.map_map]
  apply List.map_congr_left
  intro child mem
  obtain ⟨inside, plays⟩ := Node.mem_childrenIn_iff.1 mem
  exact text_of_name neat inside plays

theorem groupSize_withoutComments (neat : Neat texts node) :
    groupSize (node.withoutComments texts) = groupSize node := by
  rw [groupSize, groupSize, Node.childrenIn_withoutComments neat.tidy, List.length_map]

theorem nameText_withoutComments (neat : Neat texts node) :
    nameText (node.withoutComments texts) = nameText node := by
  rw [nameText, nameText, Node.child?_withoutComments neat.tidy]
  cases found : node.child? .name with
  | none => rfl
  | some child =>
    exact text_of_name neat (Node.mem_children_of_child? found) (Node.role_of_child? found)

/-- What is found among the named children by kinds is found without the comments. -/
theorem filter_named_withoutComments {p : Kind → Bool} (others : p .comment = false) :
    (node.withoutComments texts).named.filter (p ·.kind) =
      (node.named.filter (p ·.kind)).map (Node.withoutComments texts) := by
  rw [Node.named_withoutComments]
  apply Syntax.filter_kept
  · intro child _ _
    rw [Node.kind_withoutComments]
  · intro child _ comment
    rw [Bool.not_eq_false'] at comment
    rw [beq_iff_eq.1 comment, others]

theorem find?_named_withoutComments {p : Kind → Bool} (others : p .comment = false) :
    (node.withoutComments texts).named.find? (p ·.kind) =
      (node.named.find? (p ·.kind)).map (Node.withoutComments texts) := by
  rw [← List.head?_filter, ← List.head?_filter, filter_named_withoutComments others,
    List.head?_map]

theorem parameterDeclarations_withoutComments :
    parameterDeclarations (node.withoutComments texts) =
      (parameterDeclarations node).map (Node.withoutComments texts) :=
  filter_named_withoutComments rfl

theorem neat_of_mem_parameterDeclarations (neat : Neat texts node) {declaration : Node}
    (mem : declaration ∈ parameterDeclarations node) : Neat texts declaration :=
  neat.named (List.mem_filter.1 mem).1

theorem parameterNames_withoutComments {list : Option Node}
    (neat : ∀ node ∈ list, Neat texts node) :
    parameterNames (list.map (Node.withoutComments texts)) = parameterNames list := by
  cases list with
  | none => rfl
  | some node =>
    simp only [parameterNames, Option.map_some, Option.getD_some,
      parameterDeclarations_withoutComments, List.flatMap_map]
    rw [List.flatMap_def, List.flatMap_def]
    congr 1
    apply List.map_congr_left
    intro declaration mem
    exact declaredNames_withoutComments (neat_of_mem_parameterDeclarations (neat node rfl) mem)

/-- The types of a result, flattened, are the same types without the comments. -/
theorem resultTypeNodes_withoutComments {result : Option Node}
    (neat : ∀ node ∈ result, Neat texts node) :
    resultTypeNodes (result.map (Node.withoutComments texts)) =
      (resultTypeNodes result).map (Option.map (Node.withoutComments texts)) := by
  cases result with
  | none => rfl
  | some node =>
    simp only [resultTypeNodes, Option.map_some, Node.kind_withoutComments]
    split
    · rw [filter_named_withoutComments (p := (· == .parameterDeclaration)) rfl, List.flatMap_map,
        List.map_flatMap, List.flatMap_def, List.flatMap_def]
      congr 1
      apply List.map_congr_left
      intro declaration mem
      have part := (neat node rfl).named (List.mem_filter.1 mem).1
      rw [groupSize_withoutComments part, Node.child?_withoutComments part.tidy, List.map_replicate]
    · rfl

theorem receiverType_withoutComments (neat : Neat texts node) :
    receiverType (node.withoutComments texts) =
      (receiverType node).map (Node.withoutComments texts) := by
  unfold receiverType
  rw [Node.child?_withoutComments neat.tidy]
  cases found : node.child? .receiver with
  | none => rfl
  | some receiver =>
    simp only [Option.map_some, Option.bind_eq_bind, Option.bind_some]
    rw [find?_named_withoutComments (p := (· == .parameterDeclaration)) rfl]
    cases first : receiver.named.find? (·.kind == .parameterDeclaration) with
    | none => rfl
    | some declaration =>
      have part := (neat.child? found).named (List.mem_of_find?_eq_some first)
      exact Node.child?_withoutComments part.tidy _

theorem neat_of_receiverType (neat : Neat texts node) {type : Node}
    (reached : receiverType node = some type) : Neat texts type := by
  obtain ⟨receiver, found, inside⟩ := Option.bind_eq_some_iff.1 reached
  obtain ⟨declaration, first, here⟩ := Option.bind_eq_some_iff.1 inside
  exact ((neat.child? found).named (List.mem_of_find?_eq_some first)).child? here

/-- The type of a receiver has the same name, if no comment follows its parentheses and
pointers. -/
theorem receiverTypeName_withoutComments {type : Node} (neat : Neat texts type)
    (pointers : type.Everywhere fun part =>
      part.kind = .pointerType → part.startsWithComment = false) :
    receiverTypeName (type.withoutComments texts) = receiverTypeName type := by
  have cores : (type.withoutComments texts).descend receiverRule =
      (type.descend receiverRule).map (Node.withoutComments texts) := by
    apply Node.descend_withoutComments
    · intro kind picks rule part
      unfold receiverRule at rule
      split at rule <;> cases rule
      · exact Node.isNamed_withoutComments
      · exact Node.isNamed_withoutComments
      · exact Node.plays_withoutComments .type
    · intro site inside picks rule child first
      have here := neat site inside
      unfold receiverRule at rule
      split at rule
      case h_1 kind =>
        cases rule
        exact isComment_of_find?_isNamed (pointers site inside kind) first
      case h_2 kind =>
        cases rule
        have starts := here.2
        rw [countsComment, kind] at starts
        exact isComment_of_find?_isNamed starts first
      case h_3 kind =>
        cases rule
        exact Node.isComment_of_child? (neat.tidy.everywhere site inside) first
      case h_4 => cases rule
  unfold receiverTypeName
  rw [cores]
  cases reached : type.descend receiverRule with
  | none => rfl
  | some core =>
    simp only [Option.map_some, Node.kind_withoutComments]
    split
    case isTrue kind =>
      have tidy := Everywhere.descend neat.tidy reached
      rw [Node.text_of_isName tidy (by simp_all [Node.isName])]
    case isFalse => rfl

theorem receiverName_withoutComments (neat : Neat texts node)
    (kind : node.kind = .methodDeclaration) :
    receiverName (node.withoutComments texts) = receiverName node := by
  rw [receiverName, receiverName, receiverType_withoutComments neat]
  cases reached : receiverType node with
  | none => rfl
  | some type =>
    apply receiverTypeName_withoutComments (neat_of_receiverType neat reached)
    intro site inside isPointer
    have counted := neat.uncounted
    rw [countsComment, kind] at counted
    simp only [reached, Option.any_some, List.any_eq_false] at counted
    simpa [isPointer] using counted site inside

end Signatures

end SliceGuard.Declarations
