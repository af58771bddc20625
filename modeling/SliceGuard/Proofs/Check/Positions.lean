import Mathlib.Data.List.Forall2
import Mathlib.Data.List.Nodup
import Mathlib.Data.Prod.Lex
import SliceGuard.Proofs.Check.Unguarded
import SliceGuard.Proofs.Syntax.Layout
import SliceGuard.Proofs.Syntax.Rejection

/-!
# Where the diagnostics of a file stand

Several accesses may start at one byte, such as `x[0][1]` and the `x[0]` in it, but only the
innermost of them has a plain name for an operand.  So the accesses that can be reported start at
different bytes, and each of them before those that come later in preorder: what lies below an access
lies after the name of its container.  The diagnostics of a file are therefore ordered by line and
column.
-/

namespace SliceGuard

namespace Syntax.Node

/-- The row and the column of the first byte. -/
def point (node : Node) : Nat ×ₗ Nat :=
  toLex (node.span.row, node.span.column)

/-- What is known of the places of nodes in the tree of a source. -/
structure Positioned (root : Node) : Prop where
  laid : root.LaidOut
  /-- An access starts where its operand starts. -/
  begins : ∀ site ∈ root.sites, site.node.kind.isAccess = true →
    ∀ operand, site.node.child? .operand = some operand →
      site.node.start = operand.start ∧ site.node.point = operand.point
  /-- Names are leaves and not empty. -/
  solid : ∀ site ∈ root.sites, site.node.kind = .identifier →
    site.node.children = [] ∧ site.node.start < site.node.stop
  /-- The rows and columns of names follow the order of the bytes. -/
  ordered : ∀ first ∈ root.sites, ∀ second ∈ root.sites, first.node.kind = .identifier →
    second.node.kind = .identifier → first.node.start < second.node.start →
      first.node.point < second.node.point

end Syntax.Node

namespace Check

open Syntax (Kind Node Role Site)
open Declarations (Index)

/-- An access that starts with a leaf that is not empty and no access itself. -/
def StartsWithLeaf (access : Node) : Prop :=
  ∃ leaf ∈ access.children, leaf.kind.isAccess = false ∧ leaf.children = [] ∧
    access.start = leaf.start ∧ leaf.start < leaf.stop

namespace StartsWithLeaf

variable {access : Node}

theorem start_lt_stop (starts : StartsWithLeaf access) (laid : access.LaidOut) :
    access.start < access.stop := by
  obtain ⟨leaf, mem, _, _, same, solid⟩ := starts
  have := laid.child_le_stop mem
  omega

/-- An access below starts after the leaf, and so later. -/
theorem start_lt_of_below (starts : StartsWithLeaf access) (laid : access.LaidOut) {child : Node}
    (mem : child ∈ access.children) {above : List Node} {inner : Site}
    (below : inner ∈ child.preorder above) (isAccess : inner.node.kind.isAccess = true)
    (solid : inner.node.start < inner.node.stop) : access.start < inner.node.start := by
  obtain ⟨leaf, memLeaf, other, alone, same, _⟩ := starts
  obtain ⟨starts, stops⟩ := (laid.child mem).bounds below
  have differ : leaf ≠ child := by
    rintro rfl
    rw [Node.preorder_eq, alone, Node.preorderAll_nil, List.mem_singleton] at below
    rw [below, other] at isAccess
    cases isAccess
  have first := laid.start_le_child mem
  -- A child in front of the leaf would be empty, as the access starts with the leaf.
  rcases laid.before_or_after memLeaf mem differ with before | after <;> omega

end StartsWithLeaf

/-- Accesses that start with a leaf start one after the other in preorder. -/
theorem starts_increase {p : Site → Bool}
    (accesses : ∀ site, p site = true → site.node.kind.isAccess = true) {node : Node}
    (laid : node.LaidOut) {above : List Node}
    (leaves : ∀ site ∈ node.preorder above, p site = true → StartsWithLeaf site.node) :
    ((node.preorder above).filter p).Pairwise fun earlier later =>
      earlier.node.start < later.node.start := by
  induction node using Node.childInduction generalizing above with
  | step node ih =>
    rw [Node.preorder_eq, Node.preorderAll_eq] at leaves ⊢
    have inside : ∀ child ∈ node.children, ∀ site ∈ child.preorder (node :: above),
        p site = true → StartsWithLeaf site.node := by
      intro child mem site below
      exact leaves site (List.mem_cons_of_mem _ (List.mem_flatMap.2 ⟨child, mem, below⟩))
    have solid : ∀ child ∈ node.children, ∀ site ∈ child.preorder (node :: above),
        p site = true → site.node.start < site.node.stop := by
      intro child mem site below chosen
      exact (inside child mem site below chosen).start_lt_stop ((laid.child mem).inner below)
    have later : ((node.children.flatMap (Node.preorder (node :: above))).filter p).Pairwise
        fun earlier later => earlier.node.start < later.node.start := by
      rw [List.filter_flatMap, List.pairwise_flatMap]
      refine ⟨fun child mem => ih child mem (laid.child mem) (inside child mem), ?_⟩
      refine laid.pairwise.imp_of_mem fun {first second} memFirst memSecond before => ?_
      intro earlier memEarlier later memLater
      obtain ⟨memEarlier, chosen⟩ := List.mem_filter.1 memEarlier
      have starts := solid first memFirst earlier memEarlier chosen
      have stops := ((laid.child memFirst).bounds memEarlier).2
      have follows := ((laid.child memSecond).bounds (List.mem_filter.1 memLater).1).1
      omega
    by_cases here : p ⟨node, above⟩ = true
    · rw [List.filter_cons_of_pos here, List.pairwise_cons]
      refine ⟨?_, later⟩
      intro inner mem
      obtain ⟨memInner, chosen⟩ := List.mem_filter.1 mem
      obtain ⟨child, memChild, below⟩ := List.mem_flatMap.1 memInner
      exact (leaves _ List.mem_cons_self here).start_lt_of_below laid memChild below
        (accesses inner chosen) (solid child memChild inner below chosen)
    · rw [List.filter_cons_of_neg here]
      exact later

/-- A reported access stands where the name of its container stands. -/
theorem operand_of_reported {root : Node} (placed : root.Positioned) {index : Index} {access : Site}
    (mem : access ∈ reported index root.sites) :
    ∃ operand, Checked index access operand ∧ operand ∈ root.sites ∧
      access.node.start = operand.node.start ∧ access.node.point = operand.node.point := by
  obtain ⟨inside, isAccess, unguarded⟩ := by
    simpa only [reported, List.mem_filter, Bool.and_eq_true] using mem
  obtain ⟨operand, checked, _⟩ := isReported_verdict_iff.1 unguarded
  obtain ⟨node, found, rfl⟩ := Option.map_eq_some_iff.1 checked.1
  exact ⟨access.below node, checked,
    Node.mem_sites_child inside (Node.mem_children_of_child? found),
    placed.begins access inside isAccess node found⟩

/-- The accesses that are reported stand one after the other. -/
theorem points_increase {root : Node} (placed : root.Positioned) (index : Index) :
    (reported index root.sites).Pairwise fun earlier later =>
      earlier.node.point < later.node.point := by
  have accesses (site : Site) (chosen : (site.node.kind.isAccess &&
      (verdict index site).isReported) = true) : site.node.kind.isAccess = true :=
    (Bool.and_eq_true_iff.1 chosen).1
  have starts := @starts_increase _ accesses _ placed.laid [] ?_
  · refine starts.imp_of_mem fun {earlier later} memEarlier memLater before => ?_
    obtain ⟨first, checkedFirst, insideFirst, startFirst, pointFirst⟩ :=
      operand_of_reported placed memEarlier
    obtain ⟨second, checkedSecond, insideSecond, startSecond, pointSecond⟩ :=
      operand_of_reported placed memLater
    rw [startFirst, startSecond] at before
    rw [pointFirst, pointSecond]
    exact placed.ordered first insideFirst second insideSecond checkedFirst.2.1
      checkedSecond.2.1 before
  · intro access inside chosen
    obtain ⟨operand, ⟨found, plain, _⟩, insideOperand, start, _⟩ :=
      operand_of_reported placed (List.mem_filter.2 ⟨inside, chosen⟩)
    obtain ⟨alone, solid⟩ := placed.solid operand insideOperand plain
    obtain ⟨node, here, rfl⟩ := Option.map_eq_some_iff.1 found
    refine ⟨node, Node.mem_children_of_child? here, ?_, alone, start, solid⟩
    rw [show node.kind = .identifier from plain]
    rfl

/-- The diagnostics of a file are ordered by line and column, so that no two of them stand at one
position, and each stands at the name of the container of the access that it reports. -/
theorem fileDiagnostics_increase (index : Index) {file : SourceFile}
    (placed : file.root.Positioned) :
    ((fileDiagnostics index file).map fun found => toLex (found.line, found.column)).Pairwise
        (· < ·) ∧
      ((fileDiagnostics index file).map fun found => (found.line, found.column)).Nodup ∧
      List.Forall₂ (fun found access => ∃ operand, Checked index access operand ∧
          found.file = file.path ∧ found.line = operand.node.line ∧
            found.column = operand.node.column)
        (fileDiagnostics index file) (reported index file.root.sites) := by
  have increase : ((fileDiagnostics index file).map fun found =>
      toLex (found.line, found.column)).Pairwise (· < ·) := by
    rw [fileDiagnostics_eq_reported, List.map_map, List.pairwise_map]
    refine (points_increase placed index).imp fun {earlier later} before => ?_
    simpa [Node.point, diagnosticAt, Node.line, Node.column, Prod.Lex.toLex_lt_toLex] using before
  refine ⟨increase, ?_, ?_⟩
  · rw [List.nodup_iff_pairwise_ne, List.pairwise_map]
    exact (List.pairwise_map.1 increase).imp fun before same => before.ne (congrArg toLex same)
  · rw [fileDiagnostics_eq_reported, List.forall₂_map_left_iff, List.forall₂_same]
    intro access mem
    obtain ⟨operand, checked, _, _, point⟩ := operand_of_reported placed mem
    obtain ⟨row, column⟩ := Prod.mk.inj (toLex_inj.1 point)
    exact ⟨operand, checked, rfl, congrArg (· + 1) row, congrArg (· + 1) column⟩

/-- A file with accesses in accesses, of which some start at one byte. -/
def nestedFile : SourceFile :=
  fileOf "a.go" ("package p\nfunc f(x [][]int) int \x7b\n\treturn x[x[0][1]][0]\n\x7d\n" ++
    "func g(y []int) []int \x7b return y[y[0]:] \x7d\n").toUTF8

theorem positioned_nestedFile : nestedFile.root.Positioned where
  laid := Node.laidOut_of_sites (by decide +kernel)
  begins := by decide +kernel
  solid := by decide +kernel
  ordered := by decide +kernel

/-- The accesses of one byte are told apart by their operands. -/
theorem nestedFile_increase :
    fileDiagnostics (Index.ofFiles [nestedFile]) nestedFile =
        [⟨"a.go", 3, 9⟩, ⟨"a.go", 3, 11⟩, ⟨"a.go", 5, 32⟩, ⟨"a.go", 5, 34⟩] ∧
      ((fileDiagnostics (Index.ofFiles [nestedFile]) nestedFile).map fun found =>
        toLex (found.line, found.column)).Pairwise (· < ·) :=
  ⟨by decide +kernel, (fileDiagnostics_increase _ positioned_nestedFile).1⟩

end Check

end SliceGuard
