import SliceGuard.Proofs.CommandLine.Findings
import SliceGuard.Proofs.Packages.Directories
import SliceGuard.Proofs.Packages.Expansion

/-!
# Runs that fail

A run fails if a pattern starts at what is no directory, or else if a path that the patterns stand
for cannot be loaded: there is nothing at the path, or no source, or a file that cannot be read or is
no source.  The run then prints the text about the first failure and nothing else, in both output
modes, although the packages before have been loaded and checked.
-/

namespace SliceGuard

namespace Packages

open Syntax (Recovery)

variable [Recovery]

theorem loadPackage_of_file {system : FileSystem} {text name : String} {contents : Contents}
    (found : system.get? (Path.ofText text) = some (.file name contents)) (withTests : Bool) :
    loadPackage system text withTests = (readSource (Path.ofText text, contents)).map
      fun file => { name := packageName (Path.ofText text).parent [file]
                    directory := (Path.ofText text).parent.text, files := [file] } := by
  simp only [loadPackage, select, found, bind, Except.bind, List.isEmpty_cons, List.mapM_cons,
    List.mapM_nil]
  cases readSource (Path.ofText text, contents) <;> rfl

theorem loadPackage_of_missing {system : FileSystem} {text : String}
    (absent : system.get? (Path.ofText text) = none) (withTests : Bool) :
    loadPackage system text withTests = .error (.noSuchPath (Path.ofText text).text) := by
  simp [loadPackage, select, absent, bind, Except.bind]

end Packages

namespace CommandLine

open Packages
open Syntax (Recovery)

section Failing

variable [Recovery] {system : FileSystem} {options : Options}

/-- The first error: that of the first pattern that starts at what is no directory, or else that of
the first path that cannot be loaded. -/
inductive FailsWith (system : FileSystem) (options : Options) : SourceError → Prop
  | expanding {base : String} (misses : MissesFirst system options.patterns base) :
      FailsWith system options (.noSuchDirectory base)
  | loading {paths : List String} {error : SourceError}
      (expanded : expandPatterns system options.patterns = .ok paths)
      (fails : FirstFails (loadPackage system · options.tests) paths error) :
      FailsWith system options error

/-- There is only one first error. -/
theorem FailsWith.unique {error other : SourceError} (fails : FailsWith system options error)
    (fails' : FailsWith system options other) : error = other := by
  rcases fails with misses | ⟨expanded, first⟩ <;> rcases fails' with misses' | ⟨expanded', first'⟩
  · have stops := expandPatterns_eq_error_iff.2 ⟨_, misses, rfl⟩
    exact Except.error.inj (stops.symm.trans (expandPatterns_eq_error_iff.2 ⟨_, misses', rfl⟩))
  · rw [expandPatterns_eq_error_iff.2 ⟨_, misses, rfl⟩] at expanded'
    cases expanded'
  · rw [expandPatterns_eq_error_iff.2 ⟨_, misses', rfl⟩] at expanded
    cases expanded
  · obtain rfl := Except.ok.inj (expanded.symm.trans expanded')
    exact Except.error.inj ((mapM_eq_error_iff.2 first).symm.trans (mapM_eq_error_iff.2 first'))

end Failing

end CommandLine

end SliceGuard
