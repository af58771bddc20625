/-!
# What is wrong with a source

A parser that goes on after an error gives a tree for any text, in which it marks what it passed
over and what it put in because it was missing.  The first of these defects is told of a source that
is rejected.
-/

namespace SliceGuard.Syntax

/-- A node of such a tree: its label, whether it was put in because it was missing, whether
something is wrong in it, and the row and the column it starts at, both counted from zero. -/
inductive Draft where
  | mk (label : String) (isMissing hasError : Bool) (row column : Nat) (children : List Draft)
deriving Repr, Inhabited

namespace Draft

def label : Draft → String
  | mk label _ _ _ _ _ => label

def isMissing : Draft → Bool
  | mk _ isMissing _ _ _ _ => isMissing

def hasError : Draft → Bool
  | mk _ _ hasError _ _ _ => hasError

def children : Draft → List Draft
  | mk _ _ _ _ _ children => children

def line : Draft → Nat
  | mk _ _ _ row _ _ => row + 1

def column : Draft → Nat
  | mk _ _ _ _ column _ => column + 1

/-- Whether a node marks something that was passed over or put in. -/
def isDefect (node : Draft) : Bool :=
  node.label == "ERROR" || node.isMissing

mutual

/-- The number of nodes. -/
def size : Draft → Nat
  | mk _ _ _ _ _ children => sizeAll children + 1

/-- The number of nodes of several trees. -/
def sizeAll : List Draft → Nat
  | [] => 0
  | node :: rest => node.size + sizeAll rest

end

theorem size_eq (node : Draft) : node.size = sizeAll node.children + 1 := by
  cases node
  rfl

theorem sizeAll_append (nodes others : List Draft) :
    sizeAll (nodes ++ others) = sizeAll nodes + sizeAll others := by
  induction nodes with
  | nil => simp [sizeAll]
  | cons node rest ih => simp [sizeAll, ih, Nat.add_assoc]

/-- The first defect in the trees that are still to be searched.  What is below a node is searched
before what comes after it, and not at all if nothing is wrong in the node. -/
def firstDefect? : List Draft → Option Draft
  | [] => none
  | node :: rest =>
    if node.isDefect then some node
    else if node.hasError then firstDefect? (node.children ++ rest)
    else firstDefect? rest
termination_by pending => sizeAll pending
decreasing_by
  · simp [sizeAll_append, sizeAll, size_eq]
  · simp [sizeAll, size_eq]

/-- The node that is told of: the first defect, or the root if none is marked. -/
def culprit (root : Draft) : Draft :=
  (firstDefect? [root]).getD root

end Draft

/-- What a parser makes of a source that is rejected. -/
class Recovery where
  draft : ByteArray → Draft

/-- A parser that does not go on after an error, so that a source is wrong as a whole. -/
@[reducible] def Recovery.whole : Recovery where
  draft _ := .mk "ERROR" false true 0 0 []

end SliceGuard.Syntax
