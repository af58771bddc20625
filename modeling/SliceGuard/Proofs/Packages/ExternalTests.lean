import SliceGuard.Proofs.Check.Subpackage
import SliceGuard.Proofs.Packages.Directories

/-!
# External test packages

The sources of a package and those of its external test package stand in one directory and are
loaded together.  Without the sources of the external test package, the others are loaded in the
same order.  They are reported alike if the declarations of the external test package do not come
first for a name that stands in them; otherwise the test package decides.
-/

namespace SliceGuard.Packages

open Declarations
open Syntax (Recovery)

/-- Whether a source is of the external test package of a package. -/
def isTestSource (package : String) (source : Source) : Bool :=
  (source.2.toOption.bind (SourceFile.parse? source.1.text)).any
    (·.packageName == package ++ "_test")

/-- Whether an entry of a directory is a source of the external test package. -/
def isExternalTest (package : String) (path : Path) (entry : Entry) : Bool :=
  match entry with
  | .file name contents =>
    Path.isSourceName name && isTestSource package (path.child name, contents)
  | .directory _ _ => false

def withoutExternalTests (package : String) (path : Path) (entries : List Entry) : List Entry :=
  entries.filter (!isExternalTest package path ·)

/-- The sources of a directory without those of an external test package are the others. -/
theorem directorySources_withoutExternalTests (package : String) (withTests : Bool) (path : Path)
    (entries : List Entry) :
    directorySources withTests path (withoutExternalTests package path entries) =
      (directorySources withTests path entries).filter (!isTestSource package ·) := by
  apply directorySources_filter
  intro name contents source
  have isName : Path.isSourceName name = true := by
    simp only [isSource, Entry.name, Bool.and_eq_true] at source
    exact source.1.2
  rw [isExternalTest, isName, Bool.true_and]

theorem isTestSource_of_reads [Recovery] (package : String) {source : Source} {file : SourceFile}
    (reads : readSource source = .ok file) :
    isTestSource package source = (file.packageName == package ++ "_test") := by
  obtain ⟨path, contents⟩ := source
  cases contents with
  | error reason => cases reads
  | ok bytes =>
    have parses : SourceFile.parse? path.text bytes = some file :=
      SourceFile.read_eq_ok_iff.1 reads
    simp [isTestSource, Except.toOption, parses]

theorem ne_testName (package : String) : package ≠ package ++ "_test" := by
  intro same
  have lengths := congrArg String.length same
  rw [String.length_append] at lengths
  have : "_test".length = 5 := rfl
  omega

/-- The files of a package, without those of its external test package. -/
def ownFiles (package : String) (files : List SourceFile) : List SourceFile :=
  files.filter (·.packageName == package)

/-- The sources without those of the external test package give the files of the package. -/
theorem forall₂_ownFiles [Recovery] {package : String} {sources : List Source}
    {files : List SourceFile}
    (reads : List.Forall₂ (fun source file => readSource source = .ok file)
      sources files)
    (members : ∀ file ∈ files, file.packageName = package ∨
      file.packageName = package ++ "_test") :
    List.Forall₂ (fun source file => readSource source = .ok file)
      (sources.filter (!isTestSource package ·)) (ownFiles package files) := by
  have all := List.Forall₂.flip (forall₂_imp_of_mem (List.Forall₂.flip reads)
    fun file mem source here => And.intro here (members file mem))
  refine (forall₂_filter ?_ all).imp fun _ _ both => both.1
  rintro source file ⟨here, belongs⟩
  have test : isTestSource package source = (file.packageName == package ++ "_test") :=
    isTestSource_of_reads package here
  rcases belongs with own | external
  · rw [test, own, beq_false_of_ne (ne_testName package), beq_self_eq_true, Bool.not_false]
  · rw [test, external, beq_false_of_ne (ne_testName package).symm, beq_self_eq_true,
      Bool.not_true]

/-- When the files of the external test package are removed from a directory, the files of the
package are still loaded, and they are reported as before, if both indexes answer alike for the
names that stand in them. -/
theorem diagnostics_without_external_tests [Recovery] {system system' : FileSystem}
    {text name package : String} {entries : List Entry} {withTests : Bool} {whole : Package}
    (found : system.get? (Path.ofText text) = some (.directory name entries))
    (removed : system'.get? (Path.ofText text) =
      some (.directory name (withoutExternalTests package (Path.ofText text) entries)))
    (loads : loadPackage system text withTests = .ok whole)
    (members : ∀ file ∈ whole.files, file.packageName = package ∨
      file.packageName = package ++ "_test")
    (own : ∃ file ∈ whole.files, file.packageName = package)
    (agree : Check.Agree (Check.Mentions (ownFiles package whole.files))
      (Index.ofFiles (ownFiles package whole.files)) (Index.ofFiles whole.files)) :
    ∃ part, loadPackage system' text withTests = .ok part ∧
      part.files = ownFiles package whole.files ∧
      ∀ file ∈ part.files, Check.fileDiagnostics (Index.ofFiles part.files) file =
        Check.fileDiagnostics (Index.ofFiles whole.files) file := by
  obtain ⟨_, reads, _⟩ := (loadPackage_eq_ok_iff found).1 loads
  have ownReads := forall₂_ownFiles reads members
  rw [← directorySources_withoutExternalTests] at ownReads
  have some : directorySources withTests (Path.ofText text)
      (withoutExternalTests package (Path.ofText text) entries) ≠ [] := by
    intro empty
    rw [empty, List.forall₂_nil_left_iff, ownFiles, List.filter_eq_nil_iff] at ownReads
    obtain ⟨file, mem, belongs⟩ := own
    exact ownReads file mem (by simp [belongs])
  refine ⟨⟨packageName (Path.ofText text) (ownFiles package whole.files), (Path.ofText text).text,
    ownFiles package whole.files⟩, ?_, rfl, ?_⟩
  · exact (loadPackage_eq_ok_iff removed).2 ⟨some, ownReads, rfl, rfl⟩
  · intro file mem
    exact (Check.fileDiagnostics_here agree mem).symm

/-- A source of the external test package that declares a variable. -/
def testBytes (declared : String) : ByteArray :=
  ("package p_test\nvar " ++ declared ++ " map[int]int\n").toUTF8

def ownBytes : ByteArray :=
  "package p\nvar x []int\nfunc f() int \x7b return x[0] \x7d\n".toUTF8

def testedEntries (declared : String) : List Entry :=
  [.file "a_test.go" (.ok (testBytes declared)), .file "b.go" (.ok ownBytes)]

theorem directorySources_testedEntries (declared : String) :
    directorySources true (Path.ofText ".") (testedEntries declared) =
      [((Path.ofText ".").child "a_test.go", .ok (testBytes declared)),
        ((Path.ofText ".").child "b.go", .ok ownBytes)] := by
  have sources : (testedEntries declared).filter (isSource true) = testedEntries declared := by
    refine List.filter_eq_self.2 (List.forall_mem_cons.2 ⟨?_, List.forall_mem_singleton.2 ?_⟩) <;>
    · rw [isSource_file]
      decide +kernel
  have ordered : (testedEntries declared).Pairwise
      fun first second => first.name < second.name := by
    rw [testedEntries, List.pairwise_pair]
    exact (by decide : "a_test.go" < "b.go")
  rw [directorySources_of_perm (.of_eq sources) ordered]
  rfl

theorem loadPackage_testedEntries [Recovery] (declared : String)
    (accepted : (SourceFile.parse? "a_test.go" (testBytes declared)).isSome = true) :
    loadPackage (directoryOf (testedEntries declared)) "." true =
      .ok ⟨packageName (Path.ofText ".") [fileOf "a_test.go" (testBytes declared),
        fileOf "b.go" ownBytes], ".", [fileOf "a_test.go" (testBytes declared),
        fileOf "b.go" ownBytes]⟩ := by
  refine (loadPackage_eq_ok_iff rfl).2 ⟨?_, ?_, rfl, rfl⟩
  · rw [directorySources_testedEntries]
    exact List.cons_ne_nil _ _
  · rw [directorySources_testedEntries]
    exact .cons (read_eq_fileOf accepted) (.cons (read_eq_fileOf (by decide +kernel)) .nil)

theorem loadPackage_withoutExternalTests [Recovery] {declared : String}
    (test : isTestSource "p" ((Path.ofText ".").child "a_test.go", .ok (testBytes declared)) =
      true) :
    loadPackage (directoryOf (withoutExternalTests "p" (Path.ofText ".") (testedEntries declared)))
        "." true =
      .ok ⟨packageName (Path.ofText ".") [fileOf "b.go" ownBytes], ".",
        [fileOf "b.go" ownBytes]⟩ := by
  have sources : directorySources true (Path.ofText ".")
      (withoutExternalTests "p" (Path.ofText ".") (testedEntries declared)) =
        [((Path.ofText ".").child "b.go", .ok ownBytes)] := by
    rw [directorySources_withoutExternalTests, directorySources_testedEntries,
      List.filter_cons_of_neg (by simp [test]), List.filter_cons_of_pos (by decide +kernel),
      List.filter_nil]
  refine (loadPackage_eq_ok_iff rfl).2 ⟨?_, ?_, rfl, rfl⟩
  · rw [sources]
    exact List.cons_ne_nil _ _
  · rw [sources]
    exact .cons (read_eq_fileOf (by decide +kernel)) .nil

/-- The access is reported only without the external test package, whose variable comes first. -/
theorem external_test_interferes :
    letI := Recovery.whole
    (loadPackage (directoryOf (testedEntries "x")) "." true).toOption.map Check.diagnostics =
        some [] ∧
      (loadPackage (directoryOf (withoutExternalTests "p" (Path.ofText ".") (testedEntries "x")))
        "." true).toOption.map Check.diagnostics = some [⟨"b.go", 3, 23⟩] := by
  let := Recovery.whole
  rw [loadPackage_testedEntries "x" (by decide +kernel),
    loadPackage_withoutExternalTests (by decide +kernel)]
  constructor <;> decide +kernel

/-- The files of the package, if the external test package declares the variable `y`. -/
def testedFiles : List SourceFile :=
  [fileOf "a_test.go" (testBytes "y"), fileOf "b.go" ownBytes]

theorem not_mentions_testedFiles : ¬ Check.Mentions (ownFiles "p" testedFiles) "y" := by
  have names : ∀ file ∈ ownFiles "p" testedFiles, ∀ site ∈ file.root.sites,
      site.node.isName = true → site.node.text ≠ "y" := by
    decide +kernel
  rintro ⟨file, mem, site, inside, isName, text⟩
  exact names file mem site inside isName text

theorem agree_testedFiles : Check.Agree (Check.Mentions (ownFiles "p" testedFiles))
    (Index.ofFiles (ownFiles "p" testedFiles)) (Index.ofFiles testedFiles) := by
  have declares : ∀ file ∈ testedFiles, (file.packageName == "p") = false →
      ∀ symbol ∈ symbols file.path file.root, symbol.kind ≠ .method ∧ symbol.name = "y" := by
    decide +kernel
  apply Check.agree_of_undeclared
  intro file mem left symbol listed
  obtain ⟨isValue, name⟩ := declares file mem left symbol listed
  rw [if_neg isValue, name]
  exact not_mentions_testedFiles

/-- A test package that declares another variable does not matter. -/
theorem diagnostics_without_external_variable :
    letI := Recovery.whole
    ∃ part, loadPackage (directoryOf
        (withoutExternalTests "p" (Path.ofText ".") (testedEntries "y"))) "." true = .ok part ∧
      part.files = ownFiles "p" testedFiles ∧
      ∀ file ∈ part.files, Check.fileDiagnostics (Index.ofFiles part.files) file =
        Check.fileDiagnostics (Index.ofFiles testedFiles) file := by
  let := Recovery.whole
  have members : ∀ file ∈ testedFiles,
      file.packageName = "p" ∨ file.packageName = "p" ++ "_test" := by
    decide +kernel
  have own : ∃ file ∈ testedFiles, file.packageName = "p" := by decide +kernel
  exact diagnostics_without_external_tests rfl rfl
    (loadPackage_testedEntries "y" (by decide +kernel)) members own agree_testedFiles

end SliceGuard.Packages
