import SliceGuard.Proofs.Syntax.Rewriting

/-!
# Trees that are opened at a gap

A tree is opened at one of its nodes by the frames around it, the nearest one first: nodes with a
gap among their children.  The traversal of the tree comes to the frames and to what stands before
the gap, then to what fills it, and last to what stands after it.  Another version of the tree has
the same frames at other places and with other texts, and another filling.
-/

namespace SliceGuard.Syntax

open Node (Asks ReadAlike Reworded Rewritten Solid)

/-- A node with a gap among its children. -/
structure Frame where
  kind : Kind
  role : Option Role
  span : Span
  text : String
  before : List Node
  after : List Node

namespace Frame

def fill (frame : Frame) (nodes : List Node) : Node :=
  .mk frame.kind frame.role frame.span frame.text (frame.before ++ nodes ++ frame.after)

@[simp] theorem children_fill (frame : Frame) (nodes : List Node) :
    (frame.fill nodes).children = frame.before ++ nodes ++ frame.after := rfl

/-- Frames that are the same apart from their texts and from all places. -/
structure Kept (old new : Frame) : Prop where
  kind : new.kind = old.kind
  role : new.role = old.role
  before : new.before.map Node.bare = old.before.map Node.bare
  after : new.after.map Node.bare = old.after.map Node.bare

end Frame

/-- The tree around a node. -/
def plug : List Frame → Node → Node
  | [], node => node
  | frame :: outer, node => plug outer (frame.fill [node])

/-- The nodes around a node, the nearest one first. -/
def aboveIn : List Frame → Node → List Node
  | [], _ => []
  | frame :: outer, node => frame.fill [node] :: aboveIn outer (frame.fill [node])

def siteIn (frames : List Frame) (node : Node) : Site :=
  ⟨node, aboveIn frames node⟩

/-- The sites that come before a node, those of the nodes around it among them. -/
def earlierIn : List Frame → Node → List Site
  | [], _ => []
  | frame :: outer, node =>
    earlierIn outer (frame.fill [node]) ++ siteIn outer (frame.fill [node]) ::
      Node.preorderAll (aboveIn (frame :: outer) node) frame.before

/-- The sites that come after a node and everything below it. -/
def laterIn : List Frame → Node → List Site
  | [], _ => []
  | frame :: outer, node =>
    Node.preorderAll (aboveIn (frame :: outer) node) frame.after ++
      laterIn outer (frame.fill [node])

theorem sites_plug (frames : List Frame) (node : Node) :
    (plug frames node).sites =
      earlierIn frames node ++ node.preorder (aboveIn frames node) ++ laterIn frames node := by
  induction frames generalizing node with
  | nil => simp [plug, earlierIn, laterIn, aboveIn, Node.sites]
  | cons frame outer ih =>
    rw [plug, ih, Node.preorder_eq, Frame.children_fill, Node.preorderAll_eq, List.flatMap_append,
      List.flatMap_append]
    simp [earlierIn, laterIn, aboveIn, siteIn, Node.preorderAll_eq]

theorem kind_plug (frames : List Frame) (node : Node) :
    (plug frames node).kind = (frames.getLast?.map Frame.kind).getD node.kind := by
  induction frames generalizing node with
  | nil => rfl
  | cons frame outer ih =>
    rw [plug, ih, List.getLast?_cons]
    cases outer.getLast? <;> rfl

section Parts

variable {frames : List Frame} {node : Node}

/-- What passes from a node to its children passes from the tree to the frames and to the node. -/
theorem of_plug {motive : Node → Prop}
    (step : ∀ node child : Node, motive node → child ∈ node.children → motive child)
    (whole : motive (plug frames node)) :
    motive node ∧ ∀ frame ∈ frames, ∀ part ∈ frame.before ++ frame.after, motive part := by
  induction frames generalizing node with
  | nil => exact ⟨whole, by simp⟩
  | cons frame outer ih =>
    obtain ⟨around, farther⟩ := ih whole
    refine ⟨step _ node around (by simp), ?_⟩
    intro other mem part inside
    rcases List.mem_cons.1 mem with rfl | mem
    · refine step _ part around ?_
      rw [List.mem_append] at inside
      simp only [Frame.children_fill, List.mem_append]
      tauto
    · exact farther other mem part inside

end Parts

section Versions

variable {names : String → Prop} {edit : Node → Node → Prop} {start : Site → Site → Prop}
  {frames frames' : List Frame} {node node' : Node}

def Unread (names : String → Prop) (frame : Frame) : Prop :=
  (frame.fill []).isSpelled = false ∧ ¬ names frame.text

theorem reworded_fill {frame frame' : Frame} (unspelled : (frame.fill []).isSpelled = false)
    (kind : frame'.kind = frame.kind) (role : frame'.role = frame.role) (nodes nodes' : List Node) :
    Reworded names (frame.fill nodes) (frame'.fill nodes') where
  kind := kind
  role := role
  text spelled := by
    change (frame.fill []).isSpelled = true at spelled
    simp [unspelled] at spelled
  asked isName := by
    simp only [Node.isSpelled, Bool.or_eq_false_iff] at unspelled
    rw [← Bool.not_eq_false] at isName
    exact absurd unspelled.1.1.1 isName

theorem rewritten_of_bares {nodes others : List Node}
    (same : others.map Node.bare = nodes.map Node.bare) (asks : ∀ node ∈ nodes, Asks names node) :
    List.Forall₂ (Rewritten names edit) nodes others :=
  forall₂_imp_of_mem (forall₂_of_map_eq same) fun node mem _ equal => .of_bare (asks node mem) equal

theorem spread_fill {frame frame' : Frame} (kept : frame.Kept frame')
    (asks : ∀ part ∈ frame.before ++ frame.after, Asks names part)
    (inner : Rewritten names edit node node') :
    List.Forall₂ (Rewritten names edit) (frame.fill [node]).children
      (frame'.fill [node']).children := by
  have before : ∀ part ∈ frame.before, Asks names part := fun part mem =>
    asks part (List.mem_append_left _ mem)
  have after : ∀ part ∈ frame.after, Asks names part := fun part mem =>
    asks part (List.mem_append_right _ mem)
  exact List.rel_append (List.rel_append (rewritten_of_bares kept.before before)
    (.cons inner .nil)) (rewritten_of_bares kept.after after)

/-- Two versions of frames whose texts are not read. -/
structure KeptFrame (names : String → Prop) (frame frame' : Frame) : Prop where
  kept : frame.Kept frame'
  asks : ∀ part ∈ frame.before ++ frame.after, Asks names part
  unread : Unread names frame
  unread' : ¬ names frame'.text

/-- The nearest frame does not read what fills its gap, or reads it alike. -/
def ReadIn (names : String → Prop) (frames : List Frame) (node node' : Node) : Prop :=
  ∀ frame ∈ frames.head?, (frame.fill []).readsChildren = true → ReadAlike names node node'

theorem KeptFrame.rewritten {frame frame' : Frame} (same : KeptFrame names frame frame')
    (inner : Rewritten names edit node node')
    (read : (frame.fill []).readsChildren = true → ReadAlike names node node') :
    Rewritten names edit (frame.fill [node]) (frame'.fill [node']) := by
  refine .spread (reworded_fill same.unread.1 same.kept.kind same.kept.role _ _)
    (spread_fill same.kept same.asks inner) ?_
  intro reads
  exact List.rel_append (List.rel_append (Node.readAlike_of_bares same.kept.before)
    (.cons (read reads) .nil)) (Node.readAlike_of_bares same.kept.after)

/-- A frame reads the frames inside of it alike. -/
theorem KeptFrame.readIn {frame frame' : Frame} (same : KeptFrame names frame frame')
    (outer : List Frame) (nodes nodes' : List Node) :
    ReadIn names outer (frame.fill nodes) (frame'.fill nodes') :=
  fun _ _ _ => .inr ⟨same.unread.2, same.unread'⟩

theorem rewritten_plug (all : List.Forall₂ (KeptFrame names) frames frames')
    (inner : Rewritten names edit node node') (read : ReadIn names frames node node') :
    Rewritten names edit (plug frames node) (plug frames' node') := by
  induction all generalizing node node' with
  | nil => exact inner
  | cons here _ ih => exact ih (here.rewritten inner (read _ rfl)) (here.readIn _ _ _)

theorem twin_plug (all : List.Forall₂ (KeptFrame names) frames frames')
    (inner : Rewritten names edit node node') (read : ReadIn names frames node node')
    (root : start (Site.root (plug frames node)) (Site.root (plug frames' node'))) :
    Twin names edit start (siteIn frames node) (siteIn frames' node') := by
  induction all generalizing node node' with
  | nil => exact .start root
  | @cons frame frame' outer outer' here _ ih =>
    have around := ih (here.rewritten inner (read _ rfl)) (here.readIn _ _ _) root
    have lengths : frame'.before.length = frame.before.length := by
      have same := congrArg List.length here.kept.before
      simpa using same
    refine .child around (spread_fill here.kept here.asks inner) frame.before.length ?_ ?_
    · simp [siteIn]
    · simp [siteIn, ← lengths]

/-- What stands before or after the gap of a frame goes from twin to twin. -/
theorem twins_fill {frame frame' : Frame} {old new : Site} (here : KeptFrame names frame frame')
    (inner : Rewritten names edit node node') (oldNode : old.node = frame.fill [node])
    (newNode : new.node = frame'.fill [node']) (around : Twin names edit start old new) :
    List.Forall₂ (Twin names edit start) (Node.preorderAll (old.node :: old.above) frame.before)
        (Node.preorderAll (new.node :: new.above) frame'.before) ∧
      List.Forall₂ (Twin names edit start) (Node.preorderAll (old.node :: old.above) frame.after)
        (Node.preorderAll (new.node :: new.above) frame'.after) := by
  have spread := spread_fill here.kept here.asks inner
  have twins := around.children (by rwa [oldNode, newNode])
  have lengths {nodes others : List Node} (same : others.map Node.bare = nodes.map Node.bare) :
      nodes.length = others.length := by
    have equal := congrArg List.length same
    simpa using equal.symm
  rw [Site.children, Site.children, oldNode, newNode, Frame.children_fill, Frame.children_fill,
    List.forall₂_map_left_iff, List.forall₂_map_right_iff,
    forall₂_append_iff (by simp [lengths here.kept.before]),
    forall₂_append_iff (lengths here.kept.before)] at twins
  exact ⟨Twin.preorderAll twins.1.1
      (fun part mem => here.asks part (List.mem_append_left _ mem)) here.kept.before,
    Twin.preorderAll twins.2
      (fun part mem => here.asks part (List.mem_append_right _ mem)) here.kept.after⟩

/-- The sites before the gap and those after it are twins. -/
theorem outside_plug (all : List.Forall₂ (KeptFrame names) frames frames')
    (inner : Rewritten names edit node node') (read : ReadIn names frames node node')
    (root : start (Site.root (plug frames node)) (Site.root (plug frames' node'))) :
    List.Forall₂ (Twin names edit start) (earlierIn frames node) (earlierIn frames' node') ∧
      List.Forall₂ (Twin names edit start) (laterIn frames node) (laterIn frames' node') := by
  induction all generalizing node node' with
  | nil => exact ⟨.nil, .nil⟩
  | @cons frame frame' outer outer' here rest ih =>
    have rewritten := here.rewritten inner (read _ rfl)
    have around := twin_plug rest rewritten (here.readIn _ _ _) root
    obtain ⟨before, after⟩ := twins_fill here inner rfl rfl around
    obtain ⟨earlier, later⟩ := ih rewritten (here.readIn _ _ _) root
    exact ⟨List.rel_append earlier (.cons around before), List.rel_append after later⟩

end Versions

end SliceGuard.Syntax
