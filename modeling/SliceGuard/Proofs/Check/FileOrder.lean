import SliceGuard.Proofs.Check.Versions
import SliceGuard.Proofs.Syntax.Rejection
import SliceGuard.Proofs.Typing.Mentions

/-!
# The order of files

The first declaration of a name is the one that counts, so the order of the files of a package
matters where a name is declared twice.  Where all names that are declared twice are nowhere
mentioned, as it is with initializing functions and with blank names, every file is reported alike
in any order.
-/

namespace SliceGuard.Check

open Syntax (Kind Node Role Site)
open Declarations
open Typing

/-- The kinds of symbols that are looked up together. -/
def nameSpaces : List (List SymbolKind) :=
  [[.type], [.variable, .constant], [.function]]

/-- Files of which no two declarations of a name space share a name, except names that no expression
or type of the files mentions. -/
def DeclaredApart (files : List SourceFile) : Prop :=
  ∀ kinds ∈ nameSpaces,
    ((Index.ofFiles files).symbols.filter (kinds.contains ·.kind)).Pairwise fun symbol other =>
      symbol.name = other.name → ¬ Mentioned files symbol.name

instance (files : List SourceFile) : Decidable (DeclaredApart files) :=
  inferInstanceAs (Decidable (∀ kinds ∈ nameSpaces, List.Pairwise _ _))

section Reordering

variable {files files' : List SourceFile}

theorem symbols_perm (order : files'.Perm files) :
    (Index.ofFiles files').symbols.Perm (Index.ofFiles files).symbols :=
  order.flatMap_right _

/-- What at most one entry satisfies is found in any order. -/
theorem find?_of_perm {α : Type} {p : α → Bool} {xs ys : List α} (order : ys.Perm xs)
    (once : (xs.filter p).length ≤ 1) : ys.find? p = xs.find? p := by
  have filtered := order.filter p
  rw [← List.head?_filter, ← List.head?_filter]
  match same : xs.filter p with
  | [] =>
    rw [same] at filtered
    rw [filtered.eq_nil]
  | [x] =>
    rw [same] at filtered
    rw [filtered.eq_singleton]
  | _ :: _ :: _ =>
    rw [same] at once
    simp at once

theorem length_le_one_of_pairwise {α : Type} {apart : α → α → Prop} {xs : List α}
    (pairs : xs.Pairwise apart) (never : ∀ x ∈ xs, ∀ y ∈ xs, ¬ apart x y) : xs.length ≤ 1 := by
  match xs with
  | [] => exact Nat.zero_le 1
  | [_] => exact Nat.le_refl 1
  | x :: y :: _ =>
    have here := (List.pairwise_cons.1 pairs).1 y (by simp)
    exact absurd here (never x (by simp) y (by simp))

theorem length_declarations_le (apart : DeclaredApart files) {kinds : List SymbolKind}
    (space : kinds ∈ nameSpaces) {name : String} (mentioned : Mentioned files name) :
    ((Index.ofFiles files).symbols.filter fun symbol =>
      kinds.contains symbol.kind && symbol.name == name).length ≤ 1 := by
  have swapped : (fun symbol : Symbol => kinds.contains symbol.kind && symbol.name == name) =
      fun symbol => symbol.name == name && kinds.contains symbol.kind := by
    funext symbol
    exact Bool.and_comm _ _
  rw [swapped, ← List.filter_filter]
  apply length_le_one_of_pairwise ((apart kinds space).filter _)
  intro symbol mem other memOther unmentioned
  have named := beq_iff_eq.1 (List.mem_filter.1 mem).2
  have namedOther := beq_iff_eq.1 (List.mem_filter.1 memOther).2
  refine unmentioned (named.trans namedOther.symm) ?_
  rw [named]
  exact mentioned

theorem find?_of_order (order : files'.Perm files) (apart : DeclaredApart files)
    {kinds : List SymbolKind} (space : kinds ∈ nameSpaces) {name : String}
    (mentioned : Mentioned files name) :
    (Index.ofFiles files').find? kinds name = (Index.ofFiles files).find? kinds name :=
  find?_of_perm (symbols_perm order) (length_declarations_le apart space mentioned)

/-- Whether a type is sortable does not depend on the order of its methods. -/
theorem isSortable_of_order (order : files'.Perm files) :
    (Index.ofFiles files').isSortable = (Index.ofFiles files).isSortable := by
  have methods : (Index.ofFiles files').methods.Perm (Index.ofFiles files).methods :=
    (symbols_perm order).filter _
  funext type
  unfold Index.isSortable Index.hasMethod
  rw [methods.any_eq, methods.any_eq, methods.any_eq]

/-- An expression has the same class in any order of the files. -/
theorem classOf_of_order (order : files'.Perm files) (apart : DeclaredApart files) {site : Site}
    (used : Used files site) :
    classOf (Index.ofFiles files') site = classOf (Index.ofFiles files) site := by
  have carries := carries_of_mentioned
    (fun _ mentioned => find?_of_order order apart (by simp [nameSpaces]) mentioned)
    (fun _ mentioned => find?_of_order order apart (by simp [nameSpaces]) mentioned)
    (fun _ mentioned => find?_of_order order apart (by simp [nameSpaces]) mentioned)
  exact (carries.typeWithin stepLimit used.sameSite).typeClass?_eq

theorem fileDiagnostics_of_order (order : files'.Perm files) (apart : DeclaredApart files)
    {file : SourceFile} (mem : file ∈ files) :
    fileDiagnostics (Index.ofFiles files') file = fileDiagnostics (Index.ofFiles files) file := by
  apply fileDiagnostics_congr
  intro access inside
  have stands : Stands files access := ⟨file, mem, Site.within_of_mem_sites inside⟩
  refine isReported_of_classOf (isSortable_of_order order) fun operand named => ?_
  have here := (operandName?_eq_some_iff.1 named).1
  exact classOf_of_order order apart (stands.used_child? (by decide) here)

end Reordering

/-- In any order of its files a package has the same reports for every file, and they stand in the
order of the files. -/
theorem diagnostics_of_order {package package' : Package}
    (order : package'.files.Perm package.files) (apart : DeclaredApart package.files) :
    (∀ file ∈ package.files, fileDiagnostics (Index.ofFiles package'.files) file =
        fileDiagnostics (Index.ofFiles package.files) file) ∧
      diagnostics package' =
        package'.files.flatMap (fileDiagnostics (Index.ofFiles package.files)) := by
  have each (file : SourceFile) (mem : file ∈ package.files) :=
    fileDiagnostics_of_order order apart mem
  refine ⟨each, ?_⟩
  rw [diagnostics, diagnosticsWith, List.flatMap_def, List.flatMap_def]
  congr 1
  apply List.map_congr_left
  intro file mem
  exact each file (order.mem_iff.1 mem)

/-- A file that indexes a variable of another one; both declare a blank name and an initializing
function. -/
def usingFile : SourceFile :=
  fileOf "a.go" ("package p\nvar _ = 1\nfunc init() \x7b _ = 2 \x7d\n" ++
    "func f() int \x7b return x[0] \x7d\n").toUTF8

def declaringFile : SourceFile :=
  fileOf "b.go" ("package p\nvar _, x []int\n" ++
    "func init() \x7b if x[1] > 0 \x7b _ = x[2] \x7d \x7d\n").toUTF8

theorem diagnostics_of_blanks :
    DeclaredApart [usingFile, declaringFile] ∧
      diagnostics ⟨"p", ".", [usingFile, declaringFile]⟩ =
        [⟨"a.go", 4, 23⟩, ⟨"b.go", 3, 18⟩, ⟨"b.go", 3, 33⟩] ∧
      diagnostics ⟨"p", ".", [declaringFile, usingFile]⟩ =
        [⟨"b.go", 3, 18⟩, ⟨"b.go", 3, 33⟩, ⟨"a.go", 4, 23⟩] := by
  have apart : DeclaredApart [usingFile, declaringFile] := by decide +kernel
  refine ⟨apart, by decide +kernel, ?_⟩
  have order : [declaringFile, usingFile].Perm [usingFile, declaringFile] := .swap _ _ _
  have whole := @diagnostics_of_order ⟨"p", ".", [usingFile, declaringFile]⟩
    ⟨"p", ".", [declaringFile, usingFile]⟩ order apart
  rw [whole.2]
  decide +kernel

end SliceGuard.Check
