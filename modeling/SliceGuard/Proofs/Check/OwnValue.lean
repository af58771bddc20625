import SliceGuard.Proofs.Check.Retyping
import SliceGuard.Proofs.Syntax.Comments
import SliceGuard.Proofs.Typing.Leading

/-!
# Declarations are not in scope in their own values

When a list of statements is edited from some declaration on, whatever the declaration declares, the
uses in its own value keep their classes: a climb out of the value asks every scope for what stands
before the declaration.  The value of a type switch is the exception.  The name that the switch
gives to it is already found there, so the value must not mention this name.
-/

namespace SliceGuard.Syntax.Twin

variable {names : String → Prop} {edit : Node → Node → Prop} {start : Site → Site → Prop}
  {old new : Site}

/-- Twins are reached from one pair of sites where both versions start. -/
theorem exists_start (twin : Twin names edit start old new) :
    ∃ first first', start first first' ∧
      Twin names edit (fun site site' => site = first ∧ site' = first') old new := by
  induction twin with
  | start here => exact ⟨_, _, here, .start ⟨rfl, rfl⟩⟩
  | child _ spread position here here' ih =>
    obtain ⟨first, first', begins, outer⟩ := ih
    exact ⟨first, first', begins, .child outer spread position here here'⟩

theorem everywhere {p : Node → Prop} (starts : ∀ old new, start old new → old.node.Everywhere p)
    (twin : Twin names edit start old new) : old.node.Everywhere p := by
  induction twin with
  | start here => exact starts _ _ here
  | child _ _ position here _ ih => exact ih.child (List.mem_of_getElem? here)

end SliceGuard.Syntax.Twin

namespace SliceGuard.Check

open Syntax (Kind Matching Node Role Site Twin)
open Syntax.Node (Asks Rewritten Solid)
open Declarations
open Typing

/-- The roots of two versions of a file. -/
inductive FileRoots (old new : List SourceFile) : Site → Site → Prop
  | intro {position : Nat} {file file' : SourceFile} (here : old[position]? = some file)
      (here' : new[position]? = some file') :
      FileRoots old new (Site.root file.root) (Site.root file'.root)

/-- A list of statements is edited in a package.  Everything outside of the list stands as it stood,
apart from its places and from the texts of the nodes around the list. -/
structure ListEdit where
  old : List SourceFile
  new : List SourceFile
  names : String → Prop
  list : Site
  list' : Site
  kind : list.node.kind = .statementList
  same : List.Forall₂ (fun file file' => file'.path = file.path ∧ file.root.kind = .sourceFile ∧
    Rewritten names (fun node node' => node = list.node ∧ node' = list'.node) file.root file'.root)
      old new
  solid : ∀ file ∈ old ++ new, file.root.Solid
  asks : list.node.Asks names
  reached : Twin names (fun node node' => node = list.node ∧ node' = list'.node)
    (FileRoots old new) list list'

namespace ListEdit

variable (edit : ListEdit)

def swaps (node node' : Node) : Prop :=
  node = edit.list.node ∧ node' = edit.list'.node

def oldIndex : Index :=
  Index.ofFiles edit.old

def newIndex : Index :=
  Index.ofFiles edit.new

/-- Places in both versions of the list before which nothing differs. -/
inductive Leading : Site → Site → Prop
  | list : Leading edit.list edit.list'
  /-- No scope is passed. -/
  | through {old new : Site} {child child' : Node} (outer : Leading old new)
      (form : scopeForm old.node.kind = .none) (form' : scopeForm new.node.kind = .none)
      (here : child ∈ old.node.children) (here' : child' ∈ new.node.children) :
      Leading (old.below child) (new.below child')
  /-- The same stands before both places in their scope. -/
  | after {old new : Site} {child child' : Node} {lead lead' rest rest' : List Node}
      (outer : Leading old new) (kind : new.node.kind = old.node.kind)
      (form : scopeForm old.node.kind ≠ .function)
      (children : old.node.children = lead ++ child :: rest)
      (children' : new.node.children = lead' ++ child' :: rest')
      (same : lead'.map Node.bare = lead.map Node.bare) :
      Leading (old.below child) (new.below child')

end ListEdit

/-- The role in which a declaration has its value. -/
def valueRole? : Kind → Option Role
  | .shortVarDeclaration | .rangeClause => some .right
  | .varSpec => some .value
  | _ => none

namespace ListEdit

variable (edit : ListEdit)

/-- The values of two type switches.  Between what stands before both and the values there may be
other names for the values, if no use in the values mentions them. -/
inductive Switched : Site → Site → Prop
  | intro {switch switch' : Site} {value value' : Node}
      {lead lead' middle middle' rest rest' : List Node} (reached : edit.Leading switch switch')
      (kind : switch.node.kind = .typeSwitchStatement)
      (kind' : switch'.node.kind = .typeSwitchStatement)
      (children : switch.node.children = lead ++ middle ++ value :: rest)
      (children' : switch'.node.children = lead' ++ middle' ++ value' :: rest')
      (before : lead'.map Node.bare = lead.map Node.bare)
      (between : ∀ part ∈ middle ++ middle', part.role ≠ some .initializer)
      (same : value'.bare = value.bare)
      (unmentioned : value.Everywhere fun node => node.kind = .identifier →
        node.text ∉ switchNames switch.node ++ switchNames switch'.node) :
      Switched (switch.below value) (switch'.below value')

/-- The values of two versions of a declaration, which may declare other names in each of them. -/
inductive OwnValues : Site → Site → Prop
  | declared {declaration declaration' value value' : Site} {role : Role}
      (reached : edit.Leading declaration declaration')
      (kind : declaration'.node.kind = declaration.node.kind)
      (has : valueRole? declaration.node.kind = some role)
      (here : declaration.child? role = some value) (here' : declaration'.child? role = some value')
      (same : value'.node.bare = value.node.bare) : OwnValues value value'
  | switched {value value' : Site} (here : edit.Switched value value') : OwnValues value value'

/-- The sites where both versions start. -/
inductive Starts : Site → Site → Prop
  | root {old new : Site} (here : FileRoots edit.old edit.new old new) : Starts old new
  | kept {old new : Site} (reached : edit.Leading old new)
      (same : new.node.bare = old.node.bare) : Starts old new
  | switched {old new : Site} (here : edit.Switched old new) : Starts old new

def Related : Site → Site → Prop :=
  Twin edit.names edit.swaps edit.Starts

theorem onlyLists : OnlyLists edit.swaps := by
  rintro old new ⟨rfl, rfl⟩
  exact edit.kind

theorem tells (name : String) : Tells edit.names edit.swaps edit.Related name where
  short old new swapped kind := by
    have := edit.onlyLists _ _ swapped
    simp [kind] at this
  spec old new swapped kind := by
    have := edit.onlyLists _ _ swapped
    rcases kind with kind | kind <;> simp [kind] at this
  range old new swapped kind := by
    have := edit.onlyLists _ _ swapped
    simp [kind] at this
  parameter old new swapped kind := by
    have := edit.onlyLists _ _ swapped
    simp [isParameter, this] at kind

theorem hides : Hides (fun _ => false) edit.swaps := by
  intro old new swapped kind
  have := edit.onlyLists _ _ swapped
  rcases kind with kind | kind <;> simp [kind] at this

section Starting

variable {old new : Site}

theorem rewritten_of_roots (root : FileRoots edit.old edit.new old new) :
    Rewritten edit.names edit.swaps old.node new.node := by
  cases root with
  | @intro position file file' here here' =>
    have both := rel_getElem? edit.same position
    rw [here, here'] at both
    cases both with
    | some same => exact same.2.2

theorem solid_of_roots (root : FileRoots edit.old edit.new old new) :
    old.node.Solid ∧ new.node.Solid := by
  cases root with
  | intro here here' =>
    exact ⟨edit.solid _ (List.mem_append_left _ (List.mem_of_getElem? here)),
      edit.solid _ (List.mem_append_right _ (List.mem_of_getElem? here'))⟩

variable {edit}

theorem Leading.asks (reached : edit.Leading old new) : old.node.Asks edit.names := by
  induction reached with
  | list => exact edit.asks
  | through _ _ _ here _ ih => exact ih.child here
  | after _ _ _ children _ _ ih => exact ih.child (by simp [children])

theorem Leading.solid (reached : edit.Leading old new) : old.node.Solid ∧ new.node.Solid := by
  induction reached with
  | list => exact edit.reached.solid fun _ _ => edit.solid_of_roots
  | through _ _ _ here here' ih => exact ⟨ih.1.step here, ih.2.step here'⟩
  | after _ _ _ children children' _ ih =>
    exact ⟨ih.1.step (by simp [children]), ih.2.step (by simp [children'])⟩

/-- What stands before both places in their scope corresponds. -/
theorem Leading.starts {lead lead' rest rest' : List Node} (outer : edit.Leading old new)
    (kind : new.node.kind = old.node.kind) (form : scopeForm old.node.kind ≠ .function)
    (children : old.node.children = lead ++ rest) (children' : new.node.children = lead' ++ rest')
    (same : lead'.map Node.bare = lead.map Node.bare) :
    List.Forall₂ (fun node node' => edit.Related (old.below node) (new.below node')) lead
      lead' := by
  have each := List.forall₂_iff_get.1 (forall₂_of_map_eq same)
  refine List.forall₂_iff_get.2 ⟨each.1, fun position inside inside' => ?_⟩
  have cut := append_of_getElem? (List.getElem?_eq_getElem inside) [] rest
  have cut' := append_of_getElem? (List.getElem?_eq_getElem inside') [] rest'
  rw [List.nil_append] at cut cut'
  refine .start (.kept (.after outer kind form (children.trans cut) (children'.trans cut') ?_) ?_)
  · simp only [List.nil_append, List.map_take, same]
  · exact each.2 position inside inside'

theorem Switched.kept (here : edit.Switched old new) :
    old.node.Asks edit.names ∧ new.node.bare = old.node.bare ∧ old.node.Solid ∧
      new.node.Solid := by
  cases here with
  | intro reached _ _ children children' _ _ same _ =>
    obtain ⟨solid, solid'⟩ := reached.solid
    exact ⟨reached.asks.child (by simp [children]), same, solid.step (by simp [children]),
      solid'.step (by simp [children'])⟩

theorem Starts.rewritten (start : edit.Starts old new) :
    Rewritten edit.names edit.swaps old.node new.node := by
  cases start with
  | root here => exact edit.rewritten_of_roots here
  | kept reached same => exact .of_bare reached.asks same
  | switched here => exact .of_bare here.kept.1 here.kept.2.1

theorem Starts.solid (start : edit.Starts old new) : old.node.Solid ∧ new.node.Solid := by
  cases start with
  | root here => exact edit.solid_of_roots here
  | kept reached same => exact reached.solid
  | switched here => exact here.kept.2.2

end Starting

theorem matching : Matching edit.names edit.swaps edit.Related :=
  Twin.matching fun _ _ start => start.rewritten

section Climbs

variable {edit} {old new : Site} {name : String}

/-- Outside of the list a name is bound alike. -/
theorem climb_of_roots (asked : edit.names name)
    (twin : Twin edit.names edit.swaps (FileRoots edit.old edit.new) old new) :
    Option.Rel (Binding.Matched edit.names edit.swaps edit.Related)
      (climb name old.node old.above) (climb name new.node new.above) := by
  refine climb_twin edit.matching (fun _ _ => Twin.mono fun _ _ => .root) asked (edit.tells name)
    (fun _ _ => edit.solid_of_roots) ?_ twin
  intro old new root
  cases root
  exact .none

/-- The climbs from places before which nothing differs end at the same binding. -/
theorem Leading.climb (asked : edit.names name) (reached : edit.Leading old new) :
    Option.Rel (Binding.Matched edit.names edit.swaps edit.Related)
      (climb name old.node old.above) (climb name new.node new.above) := by
  induction reached with
  | list => exact climb_of_roots asked edit.reached
  | @through old new child child' outer form form' here here' ih =>
    have silent {scope : Site} (form : scopeForm scope.node.kind = .none) (child : Node) :
        scopeBinding? scope child name = none := by
      rw [scopeBinding?_eq, form]
    rw [Site.above_below, Site.above_below, Site.node_below, Site.node_below, climb_cons,
      climb_cons, silent form, silent form']
    exact ih
  | @after old new child child' lead lead' rest rest' outer kind form children children' same ih =>
    obtain ⟨solid, solid'⟩ := outer.solid
    have bound := scopeBinding?_of_lead edit.matching asked (edit.tells name) kind form solid solid'
      children children' (outer.starts kind form children children' same)
    rw [Site.above_below, Site.above_below, Site.node_below, Site.node_below, climb_cons,
      climb_cons]
    exact rel_or bound ih

/-- The values of type switches find the names that the switches do not give before them. -/
theorem Switched.climb {use use' : Site} (here : edit.Switched old new)
    (asked : edit.names use.node.text) (kind : use.node.kind = .identifier)
    (twin : Twin edit.names edit.swaps (fun site site' => site = old ∧ site' = new) use use') :
    Option.Rel (Binding.Matched edit.names edit.swaps edit.Related)
      (climb use.node.text use.node use.above) (climb use.node.text use'.node use'.above) := by
  have kept := here.kept
  refine climb_twin edit.matching (fun _ _ => Twin.mono ?_) asked (edit.tells _) ?_ ?_ twin
  · rintro _ _ ⟨rfl, rfl⟩
    exact .switched here
  · rintro _ _ ⟨rfl, rfl⟩
    exact kept.2.2
  · rintro _ _ ⟨rfl, rfl⟩
    cases here with
    | @intro switch switch' value value' lead lead' middle middle' rest rest' reached isSwitch
        isSwitch' children children' before between same unmentioned =>
      have nowhere : use.node.Everywhere fun node => node.kind = .identifier →
          node.text ∉ switchNames switch.node ++ switchNames switch'.node := by
        refine twin.everywhere ?_
        rintro _ _ ⟨rfl, rfl⟩
        exact unmentioned
      obtain ⟨free, free'⟩ := not_or.1 (mt List.mem_append.2 (nowhere.here kind))
      obtain ⟨solid, solid'⟩ := reached.solid
      have form : scopeForm switch.node.kind ≠ .function := by simp [isSwitch, scopeForm]
      rw [List.append_assoc] at children children'
      have leads := reached.starts (isSwitch'.trans isSwitch.symm) form children children' before
      have first : Option.Rel
          (fun node node' => edit.Related (switch.below node) (switch'.below node'))
          (lead.find? (Node.plays .initializer)) (lead'.find? (Node.plays .initializer)) :=
        rel_find? (fun _ _ part => (edit.matching.head part).plays .initializer) leads
      -- What stands between is no initializer, so both switches look for it in what they share.
      obtain ⟨between, between'⟩ := List.forall_mem_append.1 between
      rw [← List.append_assoc] at children children'
      have bound := initializerBinding?_of_lead edit.matching (edit.tells use.node.text) solid
        solid' children children'
        (by rwa [find?_append_of_role between, find?_append_of_role between'])
      rw [Site.above_below, Site.above_below, Site.node_below, Site.node_below, climb_cons,
        climb_cons]
      rw [← scopeBinding?_switch isSwitch free, ← scopeBinding?_switch isSwitch' free'] at bound
      exact rel_or bound (reached.climb asked)

/-- Every use is bound alike by the scopes around it. -/
theorem climb_related {use use' : Site} (here : edit.Related use use')
    (kind : use.node.kind = .identifier) :
    Option.Rel (Binding.Matched edit.names edit.swaps edit.Related)
      (Typing.climb use.node.text use.node use.above)
      (Typing.climb use.node.text use'.node use'.above) := by
  have asked : edit.names use.node.text :=
    (edit.matching.head here).asked (by simp [Node.isName, kind])
  obtain ⟨first, first', start, twin⟩ := here.exists_start
  have single : ∀ old new, old = first ∧ new = first' → edit.Starts old new := by
    rintro _ _ ⟨rfl, rfl⟩
    exact start
  have outward (begins : Option.Rel (Binding.Matched edit.names edit.swaps edit.Related)
      (Typing.climb use.node.text first.node first.above)
      (Typing.climb use.node.text first'.node first'.above)) :=
    climb_twin edit.matching (fun _ _ => Twin.mono single) asked (edit.tells _)
      (fun old new same => (single old new same).solid) (by
        rintro _ _ ⟨rfl, rfl⟩
        exact begins) twin
  -- In the value of a type switch the climb depends on the name, so the use itself is needed.
  cases start with
  | root here => exact outward (climb_of_roots asked (.start here))
  | kept reached same => exact outward (reached.climb asked)
  | switched here => exact here.climb asked kind twin

end Climbs

theorem sameSymbols : SameSymbols edit.names edit.swaps edit.Related (fun _ => false) edit.oldIndex
    edit.newIndex := by
  apply sameSymbols_ofFiles
  rw [List.forall₂_iff_get]
  refine ⟨edit.same.length_eq, fun position inside inside' => ?_⟩
  obtain ⟨path, isFile, _⟩ := (List.forall₂_iff_get.1 edit.same).2 position inside inside'
  have start : edit.Related (Site.root (edit.old.get ⟨position, inside⟩).root)
      (Site.root (edit.new.get ⟨position, inside'⟩).root) :=
    .start (.root (.intro (List.getElem?_eq_getElem inside) (List.getElem?_eq_getElem inside')))
  rw [path]
  exact symbols_matched edit.hides edit.matching
    (edit.matching.children start (Node.mayDiffer_of_kind isFile rfl)) _

theorem classOf_of_related {use use' : Site} (here : edit.Related use use') :
    classOf edit.newIndex use' = classOf edit.oldIndex use := by
  refine Knowledge.Matched.typeClass? (typeWithin_matched edit.matching
    (sameTypes_of_symbols edit.sameSymbols) stepLimit here ?_
    fun _ name _ _ _ => sameFunction_of_symbols edit.onlyLists edit.sameSymbols name)
  intro use use' _ same kind
  have text := edit.matching.text same kind
  refine binding?_matched text ?_ (value?_matched edit.sameSymbols rfl)
  rw [localBinding?, localBinding?, text]
  exact climb_related same kind

/-- The values of two versions of a declaration correspond. -/
theorem related_of_ownValues {value value' : Site} (own : edit.OwnValues value value') :
    edit.Related value value' ∧ value.node.Asks edit.names ∧
      value'.node.bare = value.node.bare := by
  cases own with
  | @declared declaration declaration' value value' role reached kind has here here' same =>
    have form : scopeForm declaration.node.kind = .none := by
      unfold valueRole? at has
      split at has <;> simp_all [scopeForm]
    obtain ⟨node, found, rfl⟩ := Option.map_eq_some_iff.1 here
    obtain ⟨node', found', rfl⟩ := Option.map_eq_some_iff.1 here'
    have reached' := reached.through form (by rwa [kind]) (Node.mem_children_of_child? found)
      (Node.mem_children_of_child? found')
    exact ⟨.start (.kept reached' same), reached'.asks, same⟩
  | switched here => exact ⟨.start (.switched here), here.kept.1, here.kept.2.1⟩

end ListEdit

/-- Every use in the value of a declaration has the class that it has when the declaration declares
other names, and whatever comes after the declaration.  This holds of short variable declarations,
variable specifications, range clauses and initializers.  It holds of type switches whose names for
their values are not mentioned in the values. -/
theorem classOf_in_own_value (edit : ListEdit) {value value' : Site}
    (own : edit.OwnValues value value') :
    List.Forall₂ (fun use use' => classOf edit.newIndex use' = classOf edit.oldIndex use)
      (value.node.preorder value.above) (value'.node.preorder value'.above) := by
  obtain ⟨here, asks, same⟩ := edit.related_of_ownValues own
  exact (here.preorder asks same).imp fun _ _ => edit.classOf_of_related

/-- A node that is not read as it is written may get other places and another text. -/
theorem rewritten_placed {edits : Node → Node → Prop} {kind : Kind} {role : Option Role}
    {start start' : Nat} {text text' : String} {children children' : List Node}
    (unread : ((placed kind role 0 "" []).isSpelled || (placed kind role 0 "" []).readsChildren) =
      false)
    (parts : List.Forall₂ (Rewritten (fun _ => True) edits) children children') :
    Rewritten (fun _ => True) edits (placed kind role start text children)
      (placed kind role start' text' children') := by
  rw [Bool.or_eq_false_iff] at unread
  refine .spread ⟨rfl, rfl, fun spelled => ?_, fun _ => trivial⟩ parts fun read => ?_
  · exact absurd (unread.1.symm.trans spelled) Bool.false_ne_true
  · exact absurd (unread.2.symm.trans read) Bool.false_ne_true

/-- The list of one statement in `func f(x [][]int) { … }`. -/
def soleStatement (statement : Node) : Node :=
  placed .statementList none 20 statement.text [statement]

def soleBlock (statement : Node) : Node :=
  placed .block (some .body) 18 ("\x7b " ++ statement.text ++ " \x7d") [soleStatement statement]

def soleFunction (statement : Node) : Node :=
  placed .functionDeclaration none 0 ("func f(x [][]int) \x7b " ++ statement.text ++ " \x7d")
    [placed .identifier (some .name) 5 "f" [],
     placed .parameterList (some .parameters) 6 "(x [][]int)"
      [placed .parameterDeclaration none 7 "x [][]int"
        [placed .identifier (some .name) 7 "x" [],
         placed .sliceType (some .type) 9 "[][]int"
          [placed .sliceType (some .element) 11 "[]int"
            [placed .typeIdentifier (some .element) 13 "int" []]]]],
     soleBlock statement]

def soleFile (statement : Node) : SourceFile :=
  ⟨"p.go", (soleFunction statement).text.length, placed .sourceFile none 0
    (soleFunction statement).text [soleFunction statement]⟩

def soleSite (statement : Node) : Site :=
  (((Site.root (soleFile statement).root).below (soleFunction statement)).below
    (soleBlock statement)).below (soleStatement statement)

section SoleStatement

variable (statement statement' : Node)

def soleSwap (node node' : Node) : Prop :=
  node = soleStatement statement ∧ node' = soleStatement statement'

theorem soleBlock_rewritten : Rewritten (fun _ => True) (soleSwap statement statement')
    (soleBlock statement) (soleBlock statement') :=
  rewritten_placed rfl (.cons (.edited ⟨rfl, rfl, nofun, nofun⟩ rfl ⟨rfl, rfl⟩) .nil)

theorem soleFunction_rewritten : Rewritten (fun _ => True) (soleSwap statement statement')
    (soleFunction statement) (soleFunction statement') :=
  rewritten_placed rfl (.cons (rewritten_self _) (.cons (rewritten_self _)
    (.cons (soleBlock_rewritten statement statement') .nil)))

theorem soleFile_rewritten : Rewritten (fun _ => True) (soleSwap statement statement')
    (soleFile statement).root (soleFile statement').root :=
  rewritten_placed rfl (.cons (soleFunction_rewritten statement statement') .nil)

theorem soleSite_twin : Twin (fun _ => True) (soleSwap statement statement')
    (FileRoots [soleFile statement] [soleFile statement']) (soleSite statement)
    (soleSite statement') := by
  have file : FileRoots [soleFile statement] [soleFile statement']
      (Site.root (soleFile statement).root) (Site.root (soleFile statement').root) :=
    @FileRoots.intro _ _ 0 _ _ rfl rfl
  have function := Twin.child (.start file)
    ((soleFile_rewritten statement statement').children rfl) 0 rfl rfl
  have block := Twin.child function ((soleFunction_rewritten statement statement').children rfl) 2
    rfl rfl
  exact .child block ((soleBlock_rewritten statement statement').children rfl) 0 rfl rfl

/-- The statement becomes another one. -/
def soleEdit (solid : (soleFile statement).root.Solid) (solid' : (soleFile statement').root.Solid) :
    ListEdit where
  old := [soleFile statement]
  new := [soleFile statement']
  names _ := True
  list := soleSite statement
  list' := soleSite statement'
  kind := rfl
  same := .cons ⟨rfl, rfl, soleFile_rewritten statement statement'⟩ .nil
  solid file mem := by
    simp only [List.cons_append, List.nil_append, List.mem_cons, List.not_mem_nil, or_false] at mem
    rcases mem with rfl | rfl
    · exact solid
    · exact solid'
  asks := Node.asks_of_sites fun _ _ _ => trivial
  reached := soleSite_twin statement statement'

theorem soleEdit_leading (solid : (soleFile statement).root.Solid)
    (solid' : (soleFile statement').root.Solid) :
    (soleEdit statement statement' solid solid').Leading ((soleSite statement).below statement)
      ((soleSite statement').below statement') := by
  have kind (statement : Node) : (soleSite statement).node.kind = .statementList := rfl
  have children (statement : Node) : (soleSite statement).node.children = [] ++ [statement] := rfl
  exact .after .list ((kind _).trans (kind _).symm) (by rw [kind]; decide) (children _) (children _)
    rfl

end SoleStatement

/-- The access `x[0]`. -/
def firstOfX (role : Option Role) (start : Nat) : Node :=
  placed .indexExpression role start "x[0]"
    [placed .identifier (some .operand) start "x" [],
     placed .intLiteral (some .index) (start + 2) "0" []]

def firstsOfX : Node :=
  placed .expressionList (some .right) 32 "x[0]" [firstOfX none 32]

def shortVariable (first : String) : Node :=
  placed .shortVarDeclaration (some .initializer) 27 (first ++ " := x[0]")
    [placed .expressionList (some .left) 27 first [placed .identifier none 27 first []], firstsOfX]

def switchTitle (title : String) : Node :=
  placed .expressionList (some .caseName) 38 title [placed .identifier none 38 title []]

/-- The statement `switch y := x[0]; z := x[0].(type) { }`, for two names of one letter. -/
def switchStatement (first title : String) : Node :=
  placed .typeSwitchStatement none 20
    ("switch " ++ first ++ " := x[0]; " ++ title ++ " := x[0].(type) \x7b \x7d")
    [shortVariable first, switchTitle title, firstOfX (some .value) 43]

def switchSite (first title : String) : Site :=
  (soleSite (switchStatement first title)).below (switchStatement first title)

/-- The value of the initializer of the statement. -/
def initialValue (first title : String) : Site :=
  ((switchSite first title).below (shortVariable first)).below firstsOfX

/-- The value whose types the statement tells apart. -/
def switchedValue (first title : String) : Site :=
  (switchSite first title).below (firstOfX (some .value) 43)

/-- The variable of the initializer gets another name. -/
def renamedVariable : ListEdit :=
  soleEdit (switchStatement "x" "z") (switchStatement "y" "z")
    (Node.solid_of_sites (by decide +kernel)) (Node.solid_of_sites (by decide +kernel))

/-- The variable that the statement declares for its value gets another name. -/
def renamedTitle : ListEdit :=
  soleEdit (switchStatement "x" "z") (switchStatement "x" "y")
    (Node.solid_of_sites (by decide +kernel)) (Node.solid_of_sites (by decide +kernel))

theorem switchSite_kind (first title : String) :
    (switchSite first title).node.kind = .typeSwitchStatement :=
  rfl

theorem initialValue_own :
    renamedVariable.OwnValues (initialValue "x" "z") (initialValue "y" "z") := by
  have switch : renamedVariable.Leading (switchSite "x" "z") (switchSite "y" "z") :=
    soleEdit_leading _ _ _ _
  have children (first : String) : (switchSite first "z").node.children =
      [] ++ shortVariable first :: [switchTitle "z", firstOfX (some .value) 43] := rfl
  have kind (first : String) :
      ((switchSite first "z").below (shortVariable first)).node.kind = .shortVarDeclaration := rfl
  have value (first : String) :
      ((switchSite first "z").below (shortVariable first)).child? .right =
        some (initialValue first "z") := rfl
  have same (first : String) : (initialValue first "z").node = firstsOfX := rfl
  have first := ListEdit.Leading.after switch
    ((switchSite_kind _ _).trans (switchSite_kind _ _).symm) (by rw [switchSite_kind]; decide)
    (children "x") (children "y") rfl
  exact .declared first ((kind _).trans (kind _).symm) (by rw [kind]; rfl) (value _) (value _)
    (by rw [same, same])

theorem switchedValue_own :
    renamedTitle.OwnValues (switchedValue "x" "z") (switchedValue "x" "y") := by
  have switch : renamedTitle.Leading (switchSite "x" "z") (switchSite "x" "y") :=
    soleEdit_leading _ _ _ _
  have children (title : String) : (switchSite "x" title).node.children =
      [shortVariable "x"] ++ [switchTitle title] ++ firstOfX (some .value) 43 :: [] := rfl
  have unmentioned : (firstOfX (some .value) 43).Everywhere fun node => node.kind = .identifier →
      node.text ∉ switchNames (switchStatement "x" "z") ++
        switchNames (switchStatement "x" "y") := by
    unfold Node.Everywhere
    decide
  exact .switched (.intro switch (switchSite_kind _ _) (switchSite_kind _ _) (children _)
    (children _) rfl (by decide) rfl unmentioned)

/-- In `switch x := x[0]; z := x[0].(type) { }` the first access is one of the parameter `x`, and
the second one is one of the variable, whatever is declared for the accesses. -/
theorem renamed_own_values :
    List.Forall₂ (fun use use' => classOf renamedVariable.newIndex use' =
        classOf renamedVariable.oldIndex use)
      ((initialValue "x" "z").node.preorder (initialValue "x" "z").above)
      ((initialValue "y" "z").node.preorder (initialValue "y" "z").above) ∧
    List.Forall₂ (fun use use' => classOf renamedTitle.newIndex use' =
        classOf renamedTitle.oldIndex use)
      ((switchedValue "x" "z").node.preorder (switchedValue "x" "z").above)
      ((switchedValue "x" "y").node.preorder (switchedValue "x" "y").above) ∧
    ((initialValue "x" "z").node.preorder (initialValue "x" "z").above).map
        (classOf renamedVariable.oldIndex) = [none, some .slice, some .slice, none] ∧
    ((switchedValue "x" "z").node.preorder (switchedValue "x" "z").above).map
        (classOf renamedTitle.oldIndex) = [some .other, some .slice, none] :=
  ⟨classOf_in_own_value renamedVariable initialValue_own,
    classOf_in_own_value renamedTitle switchedValue_own, by decide +kernel, by decide +kernel⟩

/-- A function that asks for the type of an element of `v` and gives a name to the element. -/
def typeSwitching (title : String) : String :=
  "package p\nfunc f(v []error) error \x7b\nswitch " ++ title ++ " := v[0].(type) \x7b\n" ++
    "case error:\nreturn " ++ title ++ "\n\x7d\nreturn nil\n\x7d\n"

/-- The access is not reported if the name for the element is the name of the slice. -/
theorem switch_title_in_own_value :
    (SourceFile.parse? "p.go" (typeSwitching "v").toUTF8).map (fun file =>
        diagnostics ⟨"p", ".", [file]⟩) = some [] ∧
      (SourceFile.parse? "p.go" (typeSwitching "w").toUTF8).map (fun file =>
        diagnostics ⟨"p", ".", [file]⟩) = some [⟨"p.go", 3, 13⟩] := by
  constructor <;> decide +kernel

end SliceGuard.Check
