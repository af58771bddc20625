import SliceGuard.Proofs.Check.Versions
import SliceGuard.Proofs.Syntax.Frames

/-!
# Statements behind a guard

When the last statements of a list are put into an if statement, a list, a block and the if
statement come around every node in them.  None of the three binds a name, so a climb through them
finds what it found in the one list before, and everything outside stands as it stood.  So every
expression keeps its class, an access in the statements gets one guard more, and all others keep
their guards.
-/

namespace SliceGuard.Check

open Syntax (Frame KeptFrame Kind Matching Node ReadIn Role Site Span Twin aboveIn earlierIn laterIn
  plug siteIn)
open Syntax.Node (Asks Reworded Rewritten Solid)
open Declarations
open Typing

/-- The tokens and the comments, which stand between other nodes. -/
def IsFiller (node : Node) : Prop :=
  (node.kind = .token ∨ node.kind = .comment) ∧ node.role = none ∧ node.children = []

/-- An if statement that is put around some statements, its places and texts included. -/
structure Wrapper where
  condition : Node
  isCondition : condition.role = some .condition
  accessless : ∀ site ∈ condition.sites, site.node.kind.isAccess = false
  span : Span
  text : String
  blockSpan : Span
  blockText : String
  listSpan : Span
  listText : String
  /-- What stands before the condition, between it and the block, and after the block. -/
  lead : List Node
  middle : List Node
  tail : List Node
  /-- What stands in the block before the list and after it, and at the end of the list. -/
  opening : List Node
  closing : List Node
  ending : List Node
  fillers : ∀ node ∈ lead ++ middle ++ tail ++ opening ++ closing ++ ending, IsFiller node

namespace Wrapper

def list (wrapper : Wrapper) (statements : List Node) : Node :=
  .mk .statementList none wrapper.listSpan wrapper.listText (statements ++ wrapper.ending)

def block (wrapper : Wrapper) (statements : List Node) : Node :=
  .mk .block (some .consequence) wrapper.blockSpan wrapper.blockText
    (wrapper.opening ++ wrapper.list statements :: wrapper.closing)

def statement (wrapper : Wrapper) (statements : List Node) : Node :=
  .mk .ifStatement none wrapper.span wrapper.text
    (wrapper.lead ++ wrapper.condition ::
      (wrapper.middle ++ wrapper.block statements :: wrapper.tail))

def around (wrapper : Wrapper) (statements : List Node) : List Node :=
  [wrapper.list statements, wrapper.block statements, wrapper.statement statements]

end Wrapper

/-- A file that is opened at the end of a list of statements. -/
structure OpenList where
  list : Frame
  /-- The nodes around the list, the nearest one first. -/
  outer : List Frame
  isFile : outer.getLast?.map Frame.kind = some .sourceFile
  kind : list.kind = .statementList
  role : list.role = none
  ends : ∀ node ∈ list.after, IsFiller node
  plain : ∀ frame ∈ outer, (frame.fill []).isSpelled = false
  held : ∀ frame ∈ outer.head?, (frame.fill []).readsChildren = false

namespace OpenList

variable (file : OpenList) (gap : List Node)

def root : Node :=
  plug file.outer (file.list.fill gap)

def site : Site :=
  siteIn file.outer (file.list.fill gap)

def around : List Node :=
  (file.site gap).node :: (file.site gap).above

/-- The sites before the gap, those of the nodes around it among them. -/
def earlier : List Site :=
  earlierIn file.outer (file.list.fill gap) ++
    file.site gap :: Node.preorderAll (file.around gap) file.list.before

def later : List Site :=
  laterIn file.outer (file.list.fill gap)

end OpenList

/-- The last statements of a list in one file of a package are put into an if statement.  What
stands outside is the same apart from its places and from the texts of the nodes around the list.
These texts have blocks in them, so that no name is spelled like one of them. -/
structure GuardEdit where
  first : List SourceFile
  rest : List SourceFile
  old : OpenList
  new : OpenList
  wrapper : Wrapper
  statements : List Node
  moved : List Node
  kept : List.Forall₂ Frame.Kept old.outer new.outer
  before : new.list.before.map Node.bare = old.list.before.map Node.bare
  same : moved.map Node.bare = statements.map Node.bare
  unnamed : ∀ frame ∈ old.outer ++ new.outer, frame.text ∉ ["int", "bool"] ∧
    ∀ root ∈ old.root statements :: (first ++ rest).map SourceFile.root,
      ∀ site ∈ root.sites, site.node.isName = true → frame.text ≠ site.node.text
  solid : ∀ root ∈ old.root statements :: (first ++ rest).map SourceFile.root, root.Solid
  solidNew : (new.root [wrapper.statement moved]).Solid

namespace GuardEdit

variable (edit : GuardEdit)

def oldRoot : Node :=
  edit.old.root edit.statements

def newRoot : Node :=
  edit.new.root [edit.wrapper.statement edit.moved]

def oldList : Node :=
  edit.old.list.fill edit.statements

def newList : Node :=
  edit.new.list.fill [edit.wrapper.statement edit.moved]

/-- The names that can be asked for. -/
def names (name : String) : Prop :=
  ∀ frame ∈ edit.old.outer ++ edit.new.outer, frame.text ≠ name

def swaps (old new : Node) : Prop :=
  old = edit.oldList ∧ new = edit.newList

/-- The sites where both versions start: the roots of the files. -/
inductive Roots : Site → Site → Prop
  | edited : Roots (Site.root edit.oldRoot) (Site.root edit.newRoot)
  | other {file : SourceFile} (mem : file ∈ edit.first ++ edit.rest) :
      Roots (Site.root file.root) (Site.root file.root)

inductive Before : Site → Site → Prop
  | intro {position : Nat} {node node' : Node}
      (here : edit.old.list.before[position]? = some node)
      (here' : edit.new.list.before[position]? = some node') :
      Before ⟨node, edit.old.around edit.statements⟩
        ⟨node', edit.new.around [edit.wrapper.statement edit.moved]⟩

inductive Inner : Site → Site → Prop
  | intro {position : Nat} {node node' : Node} (here : edit.statements[position]? = some node)
      (here' : edit.moved[position]? = some node') :
      Inner ⟨node, edit.old.around edit.statements⟩
        ⟨node', edit.wrapper.around edit.moved ++
          edit.new.around [edit.wrapper.statement edit.moved]⟩

def Starts (old new : Site) : Prop :=
  edit.Roots old new ∨ edit.Before old new ∨ edit.Inner old new

/-- The sites that correspond in both versions. -/
def Related : Site → Site → Prop :=
  Twin edit.names edit.swaps edit.Starts

theorem onlyLists : OnlyLists edit.swaps := by
  rintro old new ⟨rfl, rfl⟩
  exact edit.old.kind

theorem asks_of_mem {root : Node}
    (mem : root ∈ edit.oldRoot :: (edit.first ++ edit.rest).map SourceFile.root) :
    Asks edit.names root :=
  Syntax.Node.asks_of_sites fun site inside isName frame around =>
    (edit.unnamed frame around).2 root mem site inside isName

theorem asksWords : AsksWords edit.names := by
  rintro word mem frame around rfl
  exact (edit.unnamed frame around).1 mem

theorem asks_parts : Asks edit.names edit.oldList ∧
    ∀ frame ∈ edit.old.outer, ∀ part ∈ frame.before ++ frame.after, Asks edit.names part :=
  Syntax.of_plug (fun _ _ asks mem => asks.child mem) (edit.asks_of_mem List.mem_cons_self)

theorem solid_list : Solid edit.oldList :=
  (Syntax.of_plug (fun _ _ solid mem => solid.step mem)
    (edit.solid edit.oldRoot List.mem_cons_self)).1

theorem solid_newList : Solid edit.newList :=
  (Syntax.of_plug (fun _ _ solid mem => solid.step mem) edit.solidNew).1

theorem not_names_of_mem {frame : Frame} (mem : frame ∈ edit.old.outer ++ edit.new.outer) :
    ¬ edit.names frame.text := fun asked => asked frame mem rfl

theorem keptFrames :
    List.Forall₂ (KeptFrame edit.names) edit.old.outer edit.new.outer := by
  have listed : ∀ frame' ∈ edit.new.outer, ¬ edit.names frame'.text := fun frame' mem =>
    edit.not_names_of_mem (List.mem_append_right _ mem)
  have all := List.Forall₂.flip (forall₂_imp_of_mem (List.Forall₂.flip edit.kept)
    fun frame' mem frame kept => And.intro (listed frame' mem) kept)
  refine forall₂_imp_of_mem all ?_
  rintro frame mem frame' ⟨unread', kept⟩
  have unread : ¬ edit.names frame.text := edit.not_names_of_mem (List.mem_append_left _ mem)
  exact ⟨kept, edit.asks_parts.2 frame mem, ⟨edit.old.plain frame mem, unread⟩, unread'⟩

theorem rewritten_list : Rewritten edit.names edit.swaps edit.oldList edit.newList := by
  have plain : (edit.old.list.fill []).isSpelled = false := by
    simp [Node.isSpelled, Node.isName, Node.plays, Frame.fill, edit.old.kind, edit.old.role]
  have head : Reworded edit.names edit.oldList edit.newList :=
    Syntax.reworded_fill plain (edit.new.kind.trans edit.old.kind.symm)
      (edit.new.role.trans edit.old.role.symm) _ _
  have may : edit.oldList.mayDiffer = true := by
    simp [oldList, Node.mayDiffer, Node.editedKinds, Frame.fill, edit.old.kind, edit.old.role]
  exact .edited head may ⟨rfl, rfl⟩

theorem readIn_list : ReadIn edit.names edit.old.outer edit.oldList edit.newList := by
  intro frame nearest reads
  simp [edit.old.held frame nearest] at reads

theorem asks_children {node : Node}
    (mem : node ∈ edit.old.list.before ++ edit.statements) : Asks edit.names node := by
  apply edit.asks_parts.1.child
  rw [oldList, Frame.children_fill]
  exact List.mem_append_left _ mem

theorem rewritten_before : List.Forall₂ (Rewritten edit.names edit.swaps) edit.old.list.before
    edit.new.list.before :=
  Syntax.rewritten_of_bares edit.before fun _ mem =>
    edit.asks_children (List.mem_append_left _ mem)

theorem rewritten_statements : List.Forall₂ (Rewritten edit.names edit.swaps) edit.statements
    edit.moved :=
  Syntax.rewritten_of_bares edit.same fun _ mem =>
    edit.asks_children (List.mem_append_right _ mem)

theorem rewritten_root : Rewritten edit.names edit.swaps edit.oldRoot edit.newRoot :=
  Syntax.rewritten_plug edit.keptFrames edit.rewritten_list edit.readIn_list

theorem rewritten_of_roots {old new : Site} (here : edit.Roots old new) :
    Rewritten edit.names edit.swaps old.node new.node := by
  cases here with
  | edited => exact edit.rewritten_root
  | other mem =>
    exact .of_bare (edit.asks_of_mem (List.mem_cons_of_mem _ (List.mem_map_of_mem mem))) rfl

theorem rewritten_of_starts (old new : Site) (here : edit.Starts old new) :
    Rewritten edit.names edit.swaps old.node new.node := by
  rcases here with root | before | inner
  · exact edit.rewritten_of_roots root
  · cases before with
    | @intro position node node' here here' =>
      have part := rel_getElem? edit.rewritten_before position
      rw [here, here'] at part
      cases part with
      | some same => exact same
  · cases inner with
    | @intro position node node' here here' =>
      have part := rel_getElem? edit.rewritten_statements position
      rw [here, here'] at part
      cases part with
      | some same => exact same

theorem solid_innerList : Solid (edit.wrapper.list edit.moved) := by
  have statement : Solid (edit.wrapper.statement edit.moved) :=
    edit.solid_newList.step (by simp [newList])
  have block : Solid (edit.wrapper.block edit.moved) :=
    statement.step (by simp [Wrapper.statement])
  exact block.step (by simp [Wrapper.block])

theorem solid_of_roots {old new : Site} (here : edit.Roots old new) :
    Solid old.node ∧ Solid new.node := by
  cases here with
  | edited => exact ⟨edit.solid _ List.mem_cons_self, edit.solidNew⟩
  | other mem =>
    have solid := edit.solid _ (List.mem_cons_of_mem _ (List.mem_map_of_mem mem))
    exact ⟨solid, solid⟩

theorem solid_of_starts (old new : Site) (here : edit.Starts old new) :
    Solid old.node ∧ Solid new.node := by
  rcases here with root | before | inner
  · exact edit.solid_of_roots root
  · cases before with
    | intro here here' =>
      have mem := List.mem_of_getElem? here
      have mem' := List.mem_of_getElem? here'
      exact ⟨edit.solid_list.step (by simp [oldList, mem]),
        edit.solid_newList.step (by simp [newList, mem'])⟩
  · cases inner with
    | intro here here' =>
      have mem := List.mem_of_getElem? here
      have mem' := List.mem_of_getElem? here'
      exact ⟨edit.solid_list.step (by simp [oldList, mem]),
        edit.solid_innerList.step (by simp [Wrapper.list, mem'])⟩

theorem matching : Matching edit.names edit.swaps edit.Related :=
  Twin.matching edit.rewritten_of_starts

theorem tells (name : String) : Tells edit.names edit.swaps edit.Related name where
  short old new swapped kind := by
    have := edit.onlyLists _ _ swapped
    simp [kind] at this
  spec old new swapped kind := by
    have := edit.onlyLists _ _ swapped
    rcases kind with kind | kind <;> simp [kind] at this
  range old new swapped kind := by
    have := edit.onlyLists _ _ swapped
    simp [kind] at this
  parameter old new swapped kind := by
    have := edit.onlyLists _ _ swapped
    simp [isParameter, this] at kind

theorem twin_list : Twin edit.names edit.swaps edit.Roots (edit.old.site edit.statements)
    (edit.new.site [edit.wrapper.statement edit.moved]) :=
  Syntax.twin_plug edit.keptFrames edit.rewritten_list edit.readIn_list .edited

theorem related_of_roots {old new : Site} (twin : Twin edit.names edit.swaps edit.Roots old new) :
    edit.Related old new :=
  twin.mono fun _ _ => .inl

theorem climb_of_roots {name : String} (asked : edit.names name) {old new : Site}
    (twin : Twin edit.names edit.swaps edit.Roots old new) :
    Option.Rel (Binding.Matched edit.names edit.swaps edit.Related)
      (climb name old.node old.above) (climb name new.node new.above) := by
  refine climb_twin edit.matching (fun _ _ => edit.related_of_roots) asked (edit.tells name)
    (fun _ _ => edit.solid_of_roots) ?_ twin
  intro old new root
  cases root with
  | edited => exact .none
  | other mem => exact .none

def innerSite : Site :=
  ⟨edit.wrapper.list edit.moved, edit.wrapper.block edit.moved ::
    edit.wrapper.statement edit.moved :: edit.new.around [edit.wrapper.statement edit.moved]⟩

theorem forall₂_before : List.Forall₂ (fun node node' =>
    edit.Before ((edit.old.site edit.statements).below node)
      ((edit.new.site [edit.wrapper.statement edit.moved]).below node'))
    edit.old.list.before edit.new.list.before := by
  have lengths := congrArg List.length edit.before
  rw [List.forall₂_iff_get]
  refine ⟨by simpa using lengths.symm, fun position inside inside' => ?_⟩
  exact .intro (List.getElem?_eq_getElem inside) (List.getElem?_eq_getElem inside')

theorem forall₂_inner : List.Forall₂ (fun node node' =>
    edit.Inner ((edit.old.site edit.statements).below node) (edit.innerSite.below node'))
    edit.statements edit.moved := by
  have lengths := congrArg List.length edit.same
  rw [List.forall₂_iff_get]
  refine ⟨by simpa using lengths.symm, fun position inside inside' => ?_⟩
  exact .intro (List.getElem?_eq_getElem inside) (List.getElem?_eq_getElem inside')

theorem lastBinding?_before (name : String) (count : Nat) :
    Option.Rel (Binding.Matched edit.names edit.swaps edit.Related)
      (lastBinding? (edit.old.site edit.statements) name (edit.old.list.before.take count))
      (lastBinding? (edit.new.site [edit.wrapper.statement edit.moved]) name
        (edit.new.list.before.take count)) :=
  lastBinding?_matched edit.matching (edit.tells name)
    (List.forall₂_take count (edit.forall₂_before.imp fun _ _ before => .start (.inr (.inl before))))

theorem lastBinding?_inner (name : String) (count : Nat) :
    Option.Rel (Binding.Matched edit.names edit.swaps edit.Related)
      (lastBinding? (edit.old.site edit.statements) name (edit.statements.take count))
      (lastBinding? edit.innerSite name (edit.moved.take count)) :=
  lastBinding?_matched edit.matching (edit.tells name)
    (List.forall₂_take count (edit.forall₂_inner.imp fun _ _ inner => .start (.inr (.inr inner))))

section Climbs

variable {name : String}

/-- What a list of statements says of a name to one of its children. -/
theorem scopeBinding?_of_list (list : Site) (kind : list.node.kind = .statementList)
    (solid : list.node.Solid) {before after : List Node} {child : Node}
    (children : list.node.children = before ++ child :: after) :
    scopeBinding? list child name = lastBinding? list name before := by
  rw [← statementsBinding?_of_children solid children, scopeBinding?_eq, kind]
  rfl

/-- The block binds no name: a list of statements is no statement. -/
theorem scopeBinding?_block (outer : List Node) (child : Node) :
    scopeBinding? ⟨edit.wrapper.block edit.moved, outer⟩ child name = none := by
  rw [scopeBinding?_eq]
  change statementsBinding? _ _ _ = none
  rw [statementsBinding?, List.findSome?_eq_none_iff]
  intro part mem
  obtain ⟨mem, _⟩ := List.mem_filter.1 mem
  obtain ⟨node, named, rfl⟩ := List.mem_map.1 (List.mem_reverse.1 mem)
  obtain ⟨inside, _⟩ := Node.mem_named_iff.1 named
  have kinds : node.kind = .token ∨ node.kind = .comment ∨ node.kind = .statementList := by
    simp only [Wrapper.block, Node.children_mk, List.mem_append, List.mem_cons] at inside
    rcases inside with inside | rfl | inside
    · exact (edit.wrapper.fillers node (by simp [inside])).1.imp_right .inl
    · exact .inr (.inr rfl)
    · exact (edit.wrapper.fillers node (by simp [inside])).1.imp_right .inl
  rcases kinds with kind | kind | kind <;> simp [statementBinding?, kind]

theorem find?_fillers {nodes : List Node} (fillers : ∀ node ∈ nodes, IsFiller node) (role : Role) :
    nodes.find? (Node.plays role) = none := by
  rw [List.find?_eq_none]
  intro node mem
  simp [Node.plays, (fillers node mem).2.1]

theorem child?_statement {role : Role} (other : role ≠ .consequence) :
    (edit.wrapper.statement edit.moved).child? role =
      if role = .condition then some edit.wrapper.condition else none := by
  have fillers (nodes : List Node) (mem : ∀ node ∈ nodes, node ∈ edit.wrapper.lead ++
      edit.wrapper.middle ++ edit.wrapper.tail ++ edit.wrapper.opening ++ edit.wrapper.closing ++
        edit.wrapper.ending) : nodes.find? (Node.plays role) = none :=
    find?_fillers (fun node inside => edit.wrapper.fillers node (mem node inside)) role
  have lead := fillers edit.wrapper.lead (by simp +contextual)
  have middle := fillers edit.wrapper.middle (by simp +contextual)
  have tail := fillers edit.wrapper.tail (by simp +contextual)
  have block : (edit.wrapper.block edit.moved).plays role = false := by
    simpa [Node.plays, Wrapper.block] using other.symm
  rw [Node.child?, Wrapper.statement, Node.children_mk, List.find?_append, lead, Option.none_or,
    List.find?_cons]
  by_cases condition : role = .condition
  · simp [condition, Node.plays, edit.wrapper.isCondition]
  · have unplayed : edit.wrapper.condition.plays role = false := by
      simpa [Node.plays, edit.wrapper.isCondition] using Ne.symm condition
    simp [unplayed, condition, middle, block, tail]

/-- The if statement binds no name: it has no initializer. -/
theorem scopeBinding?_statement (outer : List Node) (child : Node) :
    scopeBinding? ⟨edit.wrapper.statement edit.moved, outer⟩ child name = none := by
  have missing : (edit.wrapper.statement edit.moved).child? .initializer = none := by
    rw [edit.child?_statement (by decide)]
    rfl
  rw [scopeBinding?_eq]
  change initializerBinding? _ _ _ = none
  rw [initializerBinding?, Site.child?, missing]
  rfl

theorem climb_list (asked : edit.names name) :
    Option.Rel (Binding.Matched edit.names edit.swaps edit.Related)
      (climb name (edit.old.site edit.statements).node (edit.old.site edit.statements).above)
      (climb name (edit.new.site [edit.wrapper.statement edit.moved]).node
        (edit.new.site [edit.wrapper.statement edit.moved]).above) :=
  edit.climb_of_roots asked edit.twin_list

theorem climb_before (asked : edit.names name) {old new : Site} (here : edit.Before old new) :
    Option.Rel (Binding.Matched edit.names edit.swaps edit.Related)
      (climb name old.node old.above) (climb name new.node new.above) := by
  cases here with
  | @intro position node node' here here' =>
    have cut (frame : Frame) (gap : List Node) {node : Node}
        (here : frame.before[position]? = some node) :
        (frame.fill gap).children = frame.before.take position ++
          node :: (frame.before.drop (position + 1) ++ (gap ++ frame.after)) := by
      rw [Frame.children_fill, List.append_assoc]
      exact append_of_getElem? here [] _
    rw [OpenList.around, OpenList.around, climb_cons, climb_cons,
      scopeBinding?_of_list (edit.old.site edit.statements) edit.old.kind edit.solid_list
        (cut edit.old.list edit.statements here),
      scopeBinding?_of_list (edit.new.site _) edit.new.kind edit.solid_newList
        (cut edit.new.list _ here')]
    exact rel_or (edit.lastBinding?_before name position) (edit.climb_list asked)

/-- A climb out of the guarded statements asks the list around them, and then the list around the
guard. -/
theorem climb_moved {position : Nat} {node : Node} (here : edit.moved[position]? = some node) :
    climb name node (edit.wrapper.around edit.moved ++
        edit.new.around [edit.wrapper.statement edit.moved]) =
      (lastBinding? edit.innerSite name (edit.moved.take position)).or
        ((lastBinding? (edit.new.site [edit.wrapper.statement edit.moved]) name
          edit.new.list.before).or
          (climb name (edit.new.site [edit.wrapper.statement edit.moved]).node
            (edit.new.site [edit.wrapper.statement edit.moved]).above)) := by
  have inner : edit.innerSite.node.children = edit.moved.take position ++
      node :: (edit.moved.drop (position + 1) ++ edit.wrapper.ending) :=
    append_of_getElem? here [] _
  have outer : (edit.new.site [edit.wrapper.statement edit.moved]).node.children =
      edit.new.list.before ++ edit.wrapper.statement edit.moved :: edit.new.list.after := by
    simp [OpenList.site, Syntax.siteIn]
  simp only [Wrapper.around, List.cons_append, List.nil_append]
  rw [climb_cons, climb_cons, climb_cons, edit.scopeBinding?_block, edit.scopeBinding?_statement,
    Option.none_or, Option.none_or, OpenList.around, climb_cons]
  refine congrArg₂ Option.or ?_ (congrArg₂ Option.or ?_ rfl)
  · exact scopeBinding?_of_list edit.innerSite rfl edit.solid_innerList inner
  · exact scopeBinding?_of_list (edit.new.site _) edit.new.kind edit.solid_newList outer

/-- A climb out of the guarded statements finds what it found in the one list before. -/
theorem climb_inner (asked : edit.names name) {old new : Site} (here : edit.Inner old new) :
    Option.Rel (Binding.Matched edit.names edit.swaps edit.Related)
      (climb name old.node old.above) (climb name new.node new.above) := by
  cases here with
  | @intro position node node' here here' =>
    have children : (edit.old.site edit.statements).node.children =
        (edit.old.list.before ++ edit.statements.take position) ++
          node :: (edit.statements.drop (position + 1) ++ edit.old.list.after) :=
      append_of_getElem? here _ _
    have before := edit.lastBinding?_before name edit.old.list.before.length
    have lengths : edit.old.list.before.length = edit.new.list.before.length :=
      edit.forall₂_before.length_eq
    rw [List.take_length, lengths, List.take_length] at before
    -- The one list answers for the last statements first, as the two lists do one by one.
    rw [edit.climb_moved here', OpenList.around, climb_cons,
      scopeBinding?_of_list (edit.old.site edit.statements) edit.old.kind edit.solid_list children,
      lastBinding?_append, Option.or_assoc]
    exact rel_or (edit.lastBinding?_inner name position) (rel_or before (edit.climb_list asked))

theorem climb_related (asked : edit.names name) {old new : Site} (here : edit.Related old new) :
    Option.Rel (Binding.Matched edit.names edit.swaps edit.Related)
      (climb name old.node old.above) (climb name new.node new.above) := by
  refine climb_twin edit.matching (fun _ _ twin => twin) asked (edit.tells name)
    edit.solid_of_starts ?_ here
  rintro old new (root | before | inner)
  · exact edit.climb_of_roots asked (.start root)
  · exact edit.climb_before asked before
  · exact edit.climb_inner asked inner

end Climbs

theorem kind_oldRoot : edit.oldRoot.kind = .sourceFile := by
  rw [oldRoot, OpenList.root, Syntax.kind_plug, edit.old.isFile]
  rfl

section Packages

variable (path : String) (size size' : Nat)

def oldFiles : List SourceFile :=
  edit.first ++ ⟨path, size, edit.oldRoot⟩ :: edit.rest

def newFiles : List SourceFile :=
  edit.first ++ ⟨path, size', edit.newRoot⟩ :: edit.rest

theorem hides : Hides (fun _ => false) edit.swaps := by
  intro old new swapped kind
  have := edit.onlyLists _ _ swapped
  rcases kind with kind | kind <;> simp [kind] at this

def SameIndexes (index index' : Index) : Prop :=
  SameSymbols edit.names edit.swaps edit.Related (fun _ => false) index index'

theorem symbols_other {file : SourceFile} (mem : file ∈ edit.first ++ edit.rest) :
    List.Forall₂ (SymbolMatched edit.names edit.swaps edit.Related)
      ((symbols file.path file.root).filter (isOpen fun _ => false))
      ((symbols file.path file.root).filter (isOpen fun _ => false)) := by
  have asks := edit.asks_of_mem (List.mem_cons_of_mem _ (List.mem_map_of_mem mem))
  have start : edit.Related (Site.root file.root) (Site.root file.root) :=
    .start (.inl (.other mem))
  have spread : List.Forall₂ (Rewritten edit.names edit.swaps) file.root.children
      file.root.children :=
    List.forall₂_same.2 fun child inside => .of_bare (asks.child inside) rfl
  exact symbols_matched edit.hides edit.matching (start.children spread) file.path

theorem sameIndexes_files : edit.SameIndexes (Index.ofFiles (edit.oldFiles path size))
    (Index.ofFiles (edit.newFiles path size')) := by
  have start : edit.Related (Site.root edit.oldRoot) (Site.root edit.newRoot) :=
    .start (.inl .edited)
  have edited := symbols_matched edit.hides edit.matching
    (edit.matching.children start (Node.mayDiffer_of_kind edit.kind_oldRoot rfl)) path
  apply sameSymbols_ofFiles
  refine List.rel_append (List.forall₂_same.2 fun file mem => ?_)
    (.cons edited (List.forall₂_same.2 fun file mem => ?_))
  · exact edit.symbols_other (List.mem_append_left _ mem)
  · exact edit.symbols_other (List.mem_append_right _ mem)

end Packages

section Verdicts

variable {index index' : Index}

theorem classOf_related (symbols : edit.SameIndexes index index') {old new : Site}
    (here : edit.Related old new) :
    classOf index' new = classOf index old := by
  refine Knowledge.Matched.typeClass? (typeWithin_matched edit.matching
    (sameTypes_of_symbols symbols) stepLimit here ?_
    fun _ name _ _ _ => sameFunction_of_symbols edit.onlyLists symbols name)
  intro use use' _ same kind
  have asked : edit.names use.node.text :=
    (edit.matching.head same).asked (by simp [Node.isName, kind])
  have text := edit.matching.text same kind
  refine binding?_matched text ?_ (value?_matched symbols rfl)
  rw [localBinding?, localBinding?, text]
  exact edit.climb_related asked same

theorem not_isGuard_of_kind {name : String} {access node : Node}
    (kind : node.kind = .statementList ∨ node.kind = .block) :
    isGuard index name access node = false := by
  rcases kind with kind | kind <;> simp [isGuard, kind]

theorem sortable (symbols : edit.SameIndexes index index') (type : String)
    (_ : edit.names type) : index'.isSortable type = index.isSortable type :=
  isSortable_matched edit.onlyLists edit.asksWords symbols type

/-- The nodes around the list guard alike, and the list itself is no guard. -/
theorem any_isGuard_around (symbols : edit.SameIndexes index index') (name : String)
    {access access' : Node} (indexed : indexName? access' = indexName? access) :
    (edit.new.around [edit.wrapper.statement edit.moved]).any (isGuard index' name access') =
      (edit.old.around edit.statements).any (isGuard index name access) := by
  have outside : (edit.new.site [edit.wrapper.statement edit.moved]).above.any
      (isGuard index' name access') =
        ((edit.old.site edit.statements).above.any (isGuard index name access) || false) :=
    any_isGuard_twin edit.onlyLists (fun _ _ => edit.rewritten_of_roots) (edit.sortable symbols)
      indexed false (fun _ _ root => by cases root <;> rfl) edit.twin_list
  have oldKind : (edit.old.site edit.statements).node.kind = .statementList := edit.old.kind
  have newKind : (edit.new.site [edit.wrapper.statement edit.moved]).node.kind = .statementList :=
    edit.new.kind
  rw [OpenList.around, OpenList.around, List.any_cons, List.any_cons,
    not_isGuard_of_kind (.inl newKind), not_isGuard_of_kind (.inl oldKind), outside, Bool.or_false]

def Outside : Site → Site → Prop :=
  Twin edit.names edit.swaps fun old new => edit.Roots old new ∨ edit.Before old new

def Inside : Site → Site → Prop :=
  Twin edit.names edit.swaps edit.Inner

theorem related_of_outside {old new : Site} (here : edit.Outside old new) : edit.Related old new :=
  Twin.mono (fun _ _ starts => starts.imp_right .inl) here

theorem related_of_inside {old new : Site} (here : edit.Inside old new) : edit.Related old new :=
  Twin.mono (fun _ _ inner => .inr (.inr inner)) here

/-- The guards of an access outside of the statements stay. -/
theorem isGuarded_outside (symbols : edit.SameIndexes index index') (name : String)
    {old new : Site} (here : edit.Outside old new) :
    isGuarded index' name new = isGuarded index name old := by
  have indexed := indexName?_matched (edit.matching.node (edit.related_of_outside here))
  rw [isGuarded_eq_any, isGuarded_eq_any, ← Bool.or_false (old.above.any _)]
  refine any_isGuard_twin edit.onlyLists
    (fun old new starts => edit.rewritten_of_starts old new (starts.imp_right .inl))
    (edit.sortable symbols) indexed false ?_ here
  rintro old new (root | before)
  · cases root <;> rfl
  · cases before with
    | intro here here' => rw [edit.any_isGuard_around symbols name indexed, Bool.or_false]

/-- An access in the statements has one guard more. -/
theorem isGuarded_inside (symbols : edit.SameIndexes index index') (name : String)
    {old new : Site} (here : edit.Inside old new) :
    isGuarded index' name new =
      (isGuarded index name old || checksLength (some edit.wrapper.condition) name) := by
  have indexed := indexName?_matched (edit.matching.node (edit.related_of_inside here))
  rw [isGuarded_eq_any, isGuarded_eq_any]
  refine any_isGuard_twin edit.onlyLists
    (fun old new inner => edit.rewritten_of_starts old new (.inr (.inr inner)))
    (edit.sortable symbols) indexed _ ?_ here
  rintro site site' inner
  cases inner with
  | intro here here' =>
    have block : (edit.wrapper.block edit.moved).kind = .block := rfl
    have list : (edit.wrapper.list edit.moved).kind = .statementList := rfl
    have guard : isGuard index' name new.node (edit.wrapper.statement edit.moved) =
        checksLength (some edit.wrapper.condition) name := by
      change checksLength ((edit.wrapper.statement edit.moved).child? .condition) name = _
      rw [edit.child?_statement (by decide)]
      rfl
    simp only [Wrapper.around, List.cons_append, List.nil_append, List.any_cons]
    rw [not_isGuard_of_kind (.inl list), not_isGuard_of_kind (.inr block), guard,
      edit.any_isGuard_around symbols name indexed, Bool.false_or, Bool.false_or, Bool.or_comm]

theorem isReported_outside (symbols : edit.SameIndexes index index') {old new : Site}
    (here : edit.Outside old new) :
    (verdict index' new).isReported = (verdict index old).isReported := by
  have reported := isReported_matched edit.matching (edit.related_of_outside here)
    (fun _ _ _ => edit.classOf_related symbols) (fun _ => false)
    (fun _ _ => (edit.isGuarded_outside symbols _ here).trans (Bool.or_false _).symm)
  rw [reported]
  simp

theorem isReported_inside (symbols : edit.SameIndexes index index') {old new : Site}
    (here : edit.Inside old new) :
    (verdict index' new).isReported = ((verdict index old).isReported &&
      !(operandName? old).any fun container =>
        checksLength (some edit.wrapper.condition) container.node.text) :=
  isReported_matched edit.matching (edit.related_of_inside here)
    (fun _ _ _ => edit.classOf_related symbols) _ fun _ _ =>
      edit.isGuarded_inside symbols _ here

end Verdicts

end GuardEdit

end SliceGuard.Check
