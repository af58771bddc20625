import SliceGuard.Check.Guard
import SliceGuard.Syntax.Walk
import SliceGuard.Typing.Expression

/-!
# Verdicts on accesses

Every index and slice expression of a file gets a verdict.  A slice expression is checked whatever
its operand is, an index expression only if its operand is known to be a slice or an array.
-/

namespace SliceGuard.Check

open Syntax (Kind Node Site)
open Declarations (Index)
open Typing

/-- What is found of an access. -/
inductive Verdict where
  /-- The operand is not a plain name. -/
  | unnamed
  /-- The operand is not known to be accessed by position. -/
  | excluded (name : String) (knowledge : Knowledge)
  | guarded (name : String) (guard : Node)
  | unguarded (name : String)
deriving Inhabited

/-- The operand of an access, if it is a plain name. -/
def operandName? (access : Site) : Option Site :=
  (access.child? .operand).filter (·.node.kind == .identifier)

def guardVerdict (index : Index) (name : String) (access : Site) : Verdict :=
  match guard? index name access with
  | some guard => .guarded name guard
  | none => .unguarded name

def verdict (index : Index) (access : Site) : Verdict :=
  match operandName? access with
  | none => .unnamed
  | some operand =>
    let name := operand.node.text
    if access.node.kind == .sliceExpression then guardVerdict index name access
    else if access.node.kind == .indexExpression then
      let knowledge := typeOf index operand
      if knowledge.typeClass?.any TypeClass.isPositional then guardVerdict index name access
      else .excluded name knowledge
    else .unnamed

namespace Verdict

/-- The container of an access that is checked. -/
def container? : Verdict → Option String
  | unnamed | excluded _ _ => none
  | guarded name _ | unguarded name => some name

def isReported : Verdict → Bool
  | unguarded _ => true
  | _ => false

def guarded? : Verdict → Option Bool
  | unnamed | excluded _ _ => none
  | guarded _ _ => some true
  | unguarded _ => some false

end Verdict

/-- The accesses of a file with their verdicts, in source order. -/
def verdicts (index : Index) (root : Node) : List (Site × Verdict) :=
  root.accesses.map fun access => (access, verdict index access)

end SliceGuard.Check
