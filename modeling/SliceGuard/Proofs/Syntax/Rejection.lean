import SliceGuard.Syntax.Source

/-!
# Sources that are rejected

A source is either read into its tree or rejected.  The defect that is told of a rejected source is
found with a list of trees that are still to be searched.  It is the first one in preorder, apart
from what lies in nodes in which nothing is wrong.
-/

namespace SliceGuard

namespace Syntax.Draft

mutual

/-- The nodes a search comes to, in preorder.  It does not look into a defect, nor into a node in
which nothing is wrong. -/
def reached : Draft → List Draft
  | node@(mk _ _ hasError _ _ children) =>
    node :: if !node.isDefect && hasError then reachedAll children else []

/-- The nodes a search through several trees comes to. -/
def reachedAll : List Draft → List Draft
  | [] => []
  | node :: rest => node.reached ++ reachedAll rest

end

theorem reached_eq (node : Draft) :
    node.reached =
      node :: if !node.isDefect && node.hasError then reachedAll node.children else [] := by
  cases node
  rw [reached]
  rfl

theorem reachedAll_append (nodes others : List Draft) :
    reachedAll (nodes ++ others) = reachedAll nodes ++ reachedAll others := by
  induction nodes with
  | nil => rfl
  | cons node rest ih => rw [List.cons_append, reachedAll, reachedAll, ih, List.append_assoc]

/-- The search ends at the first defect it comes to. -/
theorem firstDefect?_eq (pending : List Draft) :
    firstDefect? pending = (reachedAll pending).find? isDefect := by
  fun_induction firstDefect? pending with
  | case1 => rfl
  | case2 node rest defect => simp [reachedAll, reached_eq, defect]
  | case3 node rest sound wrong ih =>
    simpa [reachedAll, reached_eq, sound, wrong, reachedAll_append] using ih
  | case4 node rest sound right ih => simpa [reachedAll, reached_eq, sound, right] using ih

/-- The node that is told of: the first defect that is reached, or the root if there is none. -/
inductive IsCulprit (root : Draft) : Draft → Prop
  | first {before after : List Draft} {node : Draft}
      (inside : root.reached = before ++ node :: after)
      (defect : node.isDefect = true) (sound : ∀ earlier ∈ before, earlier.isDefect = false) :
      IsCulprit root node
  | unmarked (sound : ∀ node ∈ root.reached, node.isDefect = false) : IsCulprit root root

theorem isCulprit_iff {root node : Draft} : root.IsCulprit node ↔ node = root.culprit := by
  have search : firstDefect? [root] = root.reached.find? isDefect := by
    rw [firstDefect?_eq, reachedAll, reachedAll, List.append_nil]
  unfold culprit
  rw [search]
  constructor
  · rintro (⟨inside, defect, sound⟩ | sound)
    · rw [List.find?_eq_some_iff_append.2 ⟨defect, _, _, inside, by simpa using sound⟩]
      rfl
    · rw [List.find?_eq_none.2 (by simpa using sound)]
      rfl
  · rintro rfl
    cases found : root.reached.find? isDefect with
    | none => exact .unmarked fun node mem => by simpa using List.find?_eq_none.1 found node mem
    | some node =>
      obtain ⟨defect, before, after, inside, sound⟩ := List.find?_eq_some_iff_append.1 found
      exact .first inside defect fun earlier mem => by simpa using sound earlier mem

end Syntax.Draft

open Syntax (Recovery)

namespace SourceFile

variable {path : String} {bytes : ByteArray} {file : SourceFile}

theorem path_of_parse (parses : parse? path bytes = some file) : file.path = path := by
  obtain ⟨root, _, rfl⟩ := Option.map_eq_some_iff.1 parses
  rfl

variable [Recovery]

theorem read_eq_ok_iff : read path bytes = .ok file ↔ parse? path bytes = some file := by
  unfold read
  cases parse? path bytes <;> simp

theorem read_eq_error_iff {error : SourceError} :
    read path bytes = .error error ↔
      Syntax.tree? bytes = none ∧ error = .about path (Recovery.draft bytes).culprit := by
  unfold read parse?
  cases Syntax.tree? bytes <;> simp [eq_comm]

theorem path_of_read (reads : read path bytes = .ok file) : file.path = path :=
  path_of_parse (read_eq_ok_iff.1 reads)

end SourceFile

/-- The file of a source that is accepted. -/
def fileOf (path : String) (bytes : ByteArray) : SourceFile :=
  (SourceFile.parse? path bytes).getD default

theorem read_eq_fileOf [Recovery] {path : String} {bytes : ByteArray}
    (accepted : (SourceFile.parse? path bytes).isSome = true) :
    SourceFile.read path bytes = .ok (fileOf path bytes) := by
  rw [SourceFile.read_eq_ok_iff, fileOf]
  obtain ⟨file, parses⟩ := Option.isSome_iff_exists.1 accepted
  rw [parses]
  rfl

end SliceGuard
