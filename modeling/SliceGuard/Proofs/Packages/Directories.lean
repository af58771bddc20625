import SliceGuard.Proofs.Packages.Complaints
import SliceGuard.Proofs.Packages.FileSystem
import SliceGuard.Proofs.Packages.Lists
import SliceGuard.Proofs.Syntax.Correspondence

/-!
# Loading directories

A directory is loaded from all files that have the extension of a source after something else, and
that are no tests if these are left out.  They are read in the order of their names, which tells
them apart, and the first one that is no source stops the load.  The package is named after the first
file that is not of an external test package, which makes no difference if all files are of one
package and its external tests.
-/

namespace SliceGuard.Packages

open Syntax (Recovery)

section Paths

/-- In front of the names below a path stands nothing, or a slash at the end. -/
theorem lead_ofText (text : String) :
    (Path.ofText text).lead = "" ∨ ∃ front, (Path.ofText text).lead = front ++ "/" := by
  have root : Path.rootOf text.toList = "" ∨ ∃ front, Path.rootOf text.toList = front ++ "/" := by
    unfold Path.rootOf
    split
    · exact .inr ⟨"", rfl⟩
    · exact .inr ⟨"/", rfl⟩
    · exact .inr ⟨"", rfl⟩
    · exact .inl rfl
  unfold Path.lead
  split
  · rw [String.append_empty]
    exact root
  · exact .inr ⟨_, (String.append_assoc ..).symm⟩

/-- The text of a path below a directory gives back its last name. -/
theorem name_ofText_child (text : String) {name : String} (valid : Path.IsEntryName name) :
    (Path.ofText ((Path.ofText text).child name).text).name = name := by
  have last (before : List (List Char)) :
      (((before ++ Path.pieces name.toList).filter Path.isName).map String.ofList).getLast? =
        some name := by
    rw [Path.pieces_of_noSlash valid.noSlash, List.filter_append,
      List.filter_cons_of_pos valid.isName, List.filter_nil, List.map_append, List.map_singleton,
      String.ofList_toList, List.getLast?_concat]
  rw [Path.text_child, Path.name, Path.ofText]
  rcases lead_ofText text with none | ⟨front, slash⟩
  · rw [none, String.empty_append]
    exact congrArg (Option.getD · "") (last [])
  · have chars : (front ++ "/" ++ name).toList = front.toList ++ '/' :: name.toList := by simp
    rw [slash, chars, Path.pieces_append]
    exact congrArg (Option.getD · "") (last _)

end Paths

section Selecting

variable {withTests : Bool} {path : Path} {entries : List Entry}

/-- The names of the files that are loaded: they have the extension after something else, and are no
tests if these are left out. -/
def IsEligible (withTests : Bool) (name : String) : Prop :=
  (∃ stem, stem ≠ "" ∧ name = stem ++ ".go") ∧
    (withTests = true ∨ ¬ ∃ stem, name = stem ++ "_test.go")

theorem isSuffixOf_toList_iff {ending text : String} :
    ending.toList.isSuffixOf text.toList = true ↔ ∃ stem, text = stem ++ ending := by
  rw [List.isSuffixOf_iff_suffix]
  constructor
  · rintro ⟨stem, same⟩
    exact ⟨String.ofList stem, by rw [← String.toList_inj, ← same]; simp⟩
  · rintro ⟨stem, rfl⟩
    exact ⟨stem.toList, by simp⟩

theorem isSourceName_iff_stem {name : String} :
    Path.isSourceName name = true ↔ ∃ stem, stem ≠ "" ∧ name = stem ++ ".go" := by
  have long (stem : String) : 3 < (stem ++ ".go").toList.length ↔ stem ≠ "" := by
    have lengths : (stem ++ ".go").toList.length = stem.toList.length + 3 := by
      rw [String.toList_append, List.length_append]
      rfl
    rw [lengths, Ne, ← String.toList_eq_nil_iff, ← List.length_eq_zero_iff]
    omega
  unfold Path.isSourceName
  dsimp only
  rw [Bool.and_eq_true, decide_eq_true_eq,
    show ['.', 'g', 'o'] = ".go".toList from rfl, isSuffixOf_toList_iff]
  constructor
  · rintro ⟨⟨stem, rfl⟩, more⟩
    exact ⟨stem, (long stem).1 more, rfl⟩
  · rintro ⟨stem, nonempty, rfl⟩
    exact ⟨⟨stem, rfl⟩, (long stem).2 nonempty⟩

theorem isSource_file (withTests : Bool) (name : String) (contents : Contents) :
    isSource withTests (.file name contents) =
      (Path.isSourceName name && (withTests || !Path.isTestName name)) :=
  rfl

theorem isSource_file_iff {name : String} {contents : Contents} :
    isSource withTests (.file name contents) = true ↔ IsEligible withTests name := by
  rw [IsEligible, ← isSourceName_iff_stem, ← isSuffixOf_toList_iff]
  change _ ↔ _ ∧ (_ ∨ ¬ Path.isTestName name = true)
  simp [isSource_file]

/-- The files to load from a directory, each once and in the order of their names. -/
structure Selects (withTests : Bool) (path : Path) (entries : List Entry)
    (sources : List Source) : Prop where
  complete : ∀ source, source ∈ sources ↔ ∃ name contents, Entry.file name contents ∈ entries ∧
    IsEligible withTests name ∧ source = (path.child name, contents)
  ordered : sources.Pairwise fun earlier later => earlier.1.name < later.1.name

theorem mem_directorySources_iff {source : Source} :
    source ∈ directorySources withTests path entries ↔ ∃ name contents,
      Entry.file name contents ∈ entries ∧ IsEligible withTests name ∧
        source = (path.child name, contents) := by
  simp only [directorySources, List.mem_filterMap, List.mem_mergeSort, List.mem_filter]
  constructor
  · rintro ⟨entry, ⟨mem, chosen⟩, read⟩
    cases entry with
    | directory name inside => cases read
    | file name contents =>
      exact ⟨name, contents, mem, isSource_file_iff.1 chosen, (Option.some.inj read).symm⟩
  · rintro ⟨name, contents, mem, eligible, rfl⟩
    exact ⟨.file name contents, ⟨mem, isSource_file_iff.2 eligible⟩, rfl⟩

/-- The sources of a directory are the files to load. -/
theorem selects_directorySources (apart : (entries.map Entry.name).Nodup) :
    Selects withTests path entries (directorySources withTests path entries) where
  complete _ := mem_directorySources_iff
  ordered := by
    have chosen : ((entries.filter (isSource withTests)).map Entry.name).Nodup :=
      apart.sublist (List.filter_sublist.map Entry.name)
    rw [directorySources, List.pairwise_filterMap]
    refine (pairwise_lt_mergeSort chosen).imp ?_
    intro earlier later before source read source' read'
    cases earlier with
    | directory => cases read
    | file name contents =>
      cases later with
      | directory => cases read'
      | file name' contents' =>
        rw [← Option.some.inj read, ← Option.some.inj read', Path.name_child, Path.name_child]
        exact before

/-- Sources are read in the order of their names. -/
theorem directorySources_of_perm {sorted : List Entry}
    (chosen : (entries.filter (isSource withTests)).Perm sorted)
    (ordered : sorted.Pairwise fun first second => first.name < second.name) (path : Path) :
    directorySources withTests path entries = sorted.filterMap fun
      | .file name contents => some (path.child name, contents)
      | .directory _ _ => none :=
  congrArg _ (mergeSort_eq_of_perm chosen ordered)

/-- Leaving entries out of a directory leaves their sources out. -/
theorem directorySources_filter {keep : Entry → Bool} {kept : Source → Bool}
    (same : ∀ name contents, isSource withTests (.file name contents) = true →
      keep (.file name contents) = kept (path.child name, contents)) (entries : List Entry) :
    directorySources withTests path (entries.filter keep) =
      (directorySources withTests path entries).filter kept := by
  have ordered : ((entries.filter keep).filter (isSource withTests)).mergeSort
        (fun first second => decide (first.name ≤ second.name)) =
      ((entries.filter (isSource withTests)).mergeSort
        fun first second => decide (first.name ≤ second.name)).filter keep := by
    rw [← mergeSort_filter, List.filter_filter, List.filter_filter]
    · congr 2
      funext entry
      exact Bool.and_comm _ _
    · intro first second third
      simpa using String.le_trans
    · intro first second
      simpa using String.le_total first.name second.name
  have sources : ∀ entry ∈ (entries.filter (isSource withTests)).mergeSort
      fun first second => decide (first.name ≤ second.name), isSource withTests entry = true := by
    intro entry mem
    exact (List.mem_filter.1 (List.mem_mergeSort.1 mem)).2
  unfold directorySources
  dsimp only
  rw [ordered]
  generalize (entries.filter (isSource withTests)).mergeSort
    (fun first second => decide (first.name ≤ second.name)) = chosen at sources
  induction chosen with
  | nil => rfl
  | cons entry chosen ih =>
    have rest := ih fun other mem => sources other (List.mem_cons_of_mem _ mem)
    have source := sources entry List.mem_cons_self
    cases entry with
    | directory name inside => simp [isSource, Entry.isDirectory] at source
    | file name contents =>
      cases keeps : kept (path.child name, contents) with
      | true => simpa [same name contents source, keeps] using rest
      | false => simpa [same name contents source, keeps] using rest

end Selecting

section Naming

/-- Whichever file comes first, a package is named after its own files. -/
theorem packageName_of_own {own : String} {files : List SourceFile} (nonempty : own ≠ "")
    (noTest : ¬ ∃ stem, own = stem ++ "_test")
    (members : ∀ file ∈ files, file.packageName = own ∨ file.packageName = own ++ "_test")
    (some : ∃ file ∈ files, file.packageName = own) (directory : Path) :
    packageName directory files = own := by
  have isOwn (name : String) : (name != "" && !"_test".toList.isSuffixOf name.toList) = true ↔
      name ≠ "" ∧ ¬ ∃ stem, name = stem ++ "_test" := by
    rw [Bool.and_eq_true, bne_iff_ne, Bool.not_eq_true', ← Bool.not_eq_true, isSuffixOf_toList_iff]
  unfold packageName
  dsimp only
  cases first : (files.map SourceFile.packageName).find? fun name =>
      name != "" && !"_test".toList.isSuffixOf name.toList with
  | none =>
    obtain ⟨file, mem, same⟩ := some
    have other := List.find?_eq_none.1 first own (List.mem_map.2 ⟨file, mem, same⟩)
    exact absurd ((isOwn own).2 ⟨nonempty, noTest⟩) other
  | some name =>
    obtain ⟨file, mem, rfl⟩ := List.mem_map.1 (List.mem_of_find?_eq_some first)
    rcases members file mem with same | external
    · exact same
    · have isOwnName := List.find?_some first
      exact absurd ⟨own, external⟩ ((isOwn _).1 isOwnName).2

/-- The files whose names are not those of tests. -/
def withoutTests (files : List SourceFile) : List SourceFile :=
  files.filter fun file => !Path.isTestName (Path.ofText file.path).name

end Naming

section Loading

variable [Recovery]

theorem path_of_readSource {source : Source} {file : SourceFile}
    (reads : readSource source = .ok file) : file.path = source.1.text := by
  obtain ⟨path, contents⟩ := source
  cases contents with
  | error reason => cases reads
  | ok bytes => exact SourceFile.path_of_read reads

variable {system : FileSystem} {text name : String} {entries : List Entry} {withTests : Bool}

/-- A directory is loaded by reading all of its sources, if there are any. -/
theorem loadPackage_of_directory
    (found : system.get? (Path.ofText text) = some (.directory name entries)) (withTests : Bool) :
    loadPackage system text withTests =
      if directorySources withTests (Path.ofText text) entries = [] then
        .error (.noSources (Path.ofText text).text)
      else ((directorySources withTests (Path.ofText text) entries).mapM readSource).map
        fun files => { name := packageName (Path.ofText text) files
                       directory := (Path.ofText text).text, files } := by
  have selected : select system (Path.ofText text) withTests =
      .ok ⟨Path.ofText text, directorySources withTests (Path.ofText text) entries⟩ := by
    rw [select, found]
  unfold loadPackage
  dsimp only
  rw [selected]
  cases directorySources withTests (Path.ofText text) entries with
  | nil => rfl
  | cons source rest =>
    rw [if_neg (List.cons_ne_nil source rest)]
    change ((source :: rest).mapM readSource >>= _) = _
    cases (source :: rest).mapM readSource <;> rfl

theorem loadPackage_eq_ok_iff
    (found : system.get? (Path.ofText text) = some (.directory name entries)) {package : Package} :
    loadPackage system text withTests = .ok package ↔
      directorySources withTests (Path.ofText text) entries ≠ [] ∧
        List.Forall₂ (fun source file => readSource source = .ok file)
          (directorySources withTests (Path.ofText text) entries) package.files ∧
        package.name = packageName (Path.ofText text) package.files ∧
        package.directory = (Path.ofText text).text := by
  rw [loadPackage_of_directory found]
  rw [← mapM_eq_ok_iff]
  split
  · rename_i none
    simp [none]
  · rename_i some
    obtain ⟨name, directory, files⟩ := package
    cases (directorySources withTests (Path.ofText text) entries).mapM readSource with
    | error cause => simp [Except.map]
    | ok read =>
      simp only [Except.map, Except.ok.injEq, Package.mk.injEq]
      constructor
      · rintro ⟨rfl, rfl, rfl⟩
        exact ⟨some, rfl, rfl, rfl⟩
      · rintro ⟨_, rfl, rfl, rfl⟩
        exact ⟨rfl, rfl, rfl⟩

/-- A directory can be loaded if it has sources and all of them can be read. -/
theorem exists_loadPackage_iff
    (found : system.get? (Path.ofText text) = some (.directory name entries)) :
    (∃ package, loadPackage system text withTests = .ok package) ↔
      directorySources withTests (Path.ofText text) entries ≠ [] ∧
        ∀ source ∈ directorySources withTests (Path.ofText text) entries,
          ∃ file, readSource source = .ok file := by
  rw [loadPackage_of_directory found, ← exists_mapM_iff]
  split
  · rename_i none
    simp [none]
  · rename_i some
    cases (directorySources withTests (Path.ofText text) entries).mapM readSource <;>
      simp [some, Except.map]

/-- A directory cannot be loaded if it has no sources, or if one of them cannot be read. -/
theorem loadPackage_eq_error_iff
    (found : system.get? (Path.ofText text) = some (.directory name entries))
    {error : SourceError} :
    loadPackage system text withTests = .error error ↔
      directorySources withTests (Path.ofText text) entries = [] ∧
          error = .noSources (Path.ofText text).text ∨
        FirstFails readSource (directorySources withTests (Path.ofText text) entries) error := by
  rw [loadPackage_of_directory found, ← mapM_eq_error_iff]
  split
  · rename_i none
    simp [none, eq_comm, pure, Except.pure]
  · rename_i some
    cases (directorySources withTests (Path.ofText text) entries).mapM readSource <;>
      simp [some, Except.map]

/-- What is told of a directory that cannot be loaded. -/
theorem complaint_loadPackage_iff
    (found : system.get? (Path.ofText text) = some (.directory name entries)) {told : String} :
    (∃ error, loadPackage system text withTests = .error error ∧ error.message = told) ↔
      directorySources withTests (Path.ofText text) entries = [] ∧
          told = (Path.ofText text).text ++ ": no Go files in directory" ∨
        FirstComplaint ((directorySources withTests (Path.ofText text) entries).map
          fun source => (source.1.text, source.2)) told := by
  simp only [loadPackage_eq_error_iff found, firstComplaint_sources_iff, or_and_right, exists_or,
    and_assoc, exists_and_left, exists_eq_left, SourceError.message_noSources,
    eq_comm (b := told)]

/-- The sources without tests are read to the files without tests. -/
theorem files_withoutTests (valid : ∀ entry ∈ entries, Path.IsEntryName entry.name)
    {whole part : List SourceFile}
    (reads : List.Forall₂ (fun source file => readSource source = .ok file)
      (directorySources true (Path.ofText text) entries) whole)
    (reads' : List.Forall₂ (fun source file => readSource source = .ok file)
      (directorySources false (Path.ofText text) entries) part) : part = withoutTests whole := by
  have kept := @directorySources_filter true (Path.ofText text)
    (fun entry => !Path.isTestName entry.name) (fun source => !Path.isTestName source.1.name)
    (fun name bytes _ => by rw [Path.name_child]; rfl) entries
  have chosen : (entries.filter fun entry => !Path.isTestName entry.name).filter
      (isSource true) = entries.filter (isSource false) := by
    rw [List.filter_filter]
    congr 1
    funext entry
    simp [isSource]
  have sources : directorySources false (Path.ofText text) entries =
      (directorySources true (Path.ofText text) entries).filter
        fun source => !Path.isTestName source.1.name := by
    rw [← kept, directorySources, directorySources, chosen]
  have named : List.Forall₂ (fun source file => readSource source = .ok file ∧
      (Path.ofText file.path).name = source.1.name)
        (directorySources true (Path.ofText text) entries) whole := by
    refine forall₂_imp_of_mem reads fun source mem file read => ⟨read, ?_⟩
    obtain ⟨name, contents, inside, _, rfl⟩ := mem_directorySources_iff.1 mem
    have isName : Path.IsEntryName name := valid _ inside
    rw [path_of_readSource read, name_ofText_child text isName, Path.name_child]
  have rest : List.Forall₂ (fun source file => readSource source = .ok file)
      ((directorySources true (Path.ofText text) entries).filter
        fun source => !Path.isTestName source.1.name) (withoutTests whole) :=
    (forall₂_filter (fun _ _ here => by rw [here.2]) named).imp fun _ _ both => both.1
  rw [sources, ← mapM_eq_ok_iff] at reads'
  rw [← mapM_eq_ok_iff] at rest
  exact Except.ok.inj (reads'.symm.trans rest)

/-- A directory is loaded exactly if it has files to load, all of which can be read and are sources.
Otherwise it is told that there are none, or what is wrong with the first file that cannot be had.
A package that is loaded has the files in the order of their names and the name of its own files,
and without tests, it has the files that are not named like tests. -/
theorem directory_loads (wellFormed : system.WellFormed)
    (found : system.get? (Path.ofText text) = some (.directory name entries)) :
    (∀ withTests, ∃ sources, Selects withTests (Path.ofText text) entries sources ∧
      ((∃ package, loadPackage system text withTests = .ok package) ↔
        sources ≠ [] ∧ ∀ source ∈ sources, ∃ file, readSource source = .ok file) ∧
      (∀ error, loadPackage system text withTests = .error error ↔
        sources = [] ∧ error = .noSources (Path.ofText text).text ∨
          FirstFails readSource sources error) ∧
      (∀ told, (∃ error, loadPackage system text withTests = .error error ∧ error.message = told) ↔
        sources = [] ∧ told = (Path.ofText text).text ++ ": no Go files in directory" ∨
          FirstComplaint (sources.map fun source => (source.1.text, source.2)) told) ∧
      ∀ package, loadPackage system text withTests = .ok package →
        List.Forall₂ (fun source file => readSource source = .ok file) sources package.files ∧
        ∀ own, own ≠ "" → (¬ ∃ stem, own = stem ++ "_test") →
          (∀ file ∈ package.files, file.packageName = own ∨ file.packageName = own ++ "_test") →
          (∃ file ∈ package.files, file.packageName = own) → package.name = own) ∧
      ∀ whole part, loadPackage system text true = .ok whole →
        loadPackage system text false = .ok part → part.files = withoutTests whole.files := by
  have here := wellFormed.get? found
  constructor
  · intro withTests
    refine ⟨_, selects_directorySources here.apart, exists_loadPackage_iff found,
      fun _ => loadPackage_eq_error_iff found, fun _ => complaint_loadPackage_iff found, ?_⟩
    intro package loads
    obtain ⟨_, reads, named, _⟩ := (loadPackage_eq_ok_iff found).1 loads
    refine ⟨reads, fun own nonempty noTest members some => ?_⟩
    rw [named, packageName_of_own nonempty noTest members some]
  · intro whole part loads loads'
    obtain ⟨_, reads, _⟩ := (loadPackage_eq_ok_iff found).1 loads
    obtain ⟨_, reads', _⟩ := (loadPackage_eq_ok_iff found).1 loads'
    exact files_withoutTests here.named reads reads'

end Loading

section Mixed

def directoryOf (entries : List Entry) : FileSystem where
  root := .directory "" entries
  working := []

/-- A source and one of the external test package, beside a directory that is named like a source
and a file with nothing but the extension. -/
def mixedEntries (own test : Contents) : List Entry :=
  [.file "b.go" own, .directory "c.go" [], .file ".go" own, .file "a_test.go" test]

theorem wellFormed_mixedEntries (own test : Contents) :
    (directoryOf (mixedEntries own test)).WellFormed where
  root := by
    refine .directory ?_ ?_ ?_
    · simp [mixedEntries, Entry.name]
    · simpa [mixedEntries, Entry.name] using by decide
    · simpa [mixedEntries] using ⟨.file _ _, Entry.wellFormed_nil _, .file _ _, .file _ _⟩
  working := by simp [directoryOf]

theorem directorySources_mixedEntries (own test : Contents) :
    directorySources true (Path.ofText ".") (mixedEntries own test) =
        [((Path.ofText ".").child "a_test.go", test), ((Path.ofText ".").child "b.go", own)] ∧
      directorySources false (Path.ofText ".") (mixedEntries own test) =
        [((Path.ofText ".").child "b.go", own)] := by
  have isOwn (withTests : Bool) : isSource withTests (.file "b.go" own) = true := by
    rw [isSource_file]
    cases withTests <;> decide +kernel
  have isTest (withTests : Bool) : isSource withTests (.file "a_test.go" test) = withTests := by
    rw [isSource_file]
    cases withTests <;> decide +kernel
  have isBare (withTests : Bool) : isSource withTests (.file ".go" own) = false := by
    rw [isSource_file]
    cases withTests <;> decide +kernel
  have isInner (withTests : Bool) : isSource withTests (.directory "c.go" []) = false := rfl
  have chosen : (mixedEntries own test).filter (isSource true) =
      [.file "b.go" own, .file "a_test.go" test] := by
    simp [mixedEntries, isOwn, isTest, isBare, isInner]
  have chosen' : (mixedEntries own test).filter (isSource false) = [.file "b.go" own] := by
    simp [mixedEntries, isOwn, isTest, isBare, isInner]
  have ordered : [Entry.file "a_test.go" test, .file "b.go" own].Pairwise
      fun first second => first.name < second.name := by
    rw [List.pairwise_pair]
    exact (by decide : "a_test.go" < "b.go")
  constructor
  · rw [directorySources_of_perm (chosen ▸ .swap _ _ _) ordered]
    rfl
  · rw [directorySources_of_perm (.of_eq chosen') (List.pairwise_singleton _ _)]
    rfl

theorem loadPackage_mixedEntries [Recovery] {own test : ByteArray}
    (ownAccepted : (SourceFile.parse? "b.go" own).isSome = true)
    (testAccepted : (SourceFile.parse? "a_test.go" test).isSome = true) :
    loadPackage (directoryOf (mixedEntries (.ok own) (.ok test))) "." true =
        .ok ⟨packageName (Path.ofText ".") [fileOf "a_test.go" test, fileOf "b.go" own], ".",
          [fileOf "a_test.go" test, fileOf "b.go" own]⟩ ∧
      loadPackage (directoryOf (mixedEntries (.ok own) (.ok test))) "." false =
        .ok ⟨packageName (Path.ofText ".") [fileOf "b.go" own], ".", [fileOf "b.go" own]⟩ := by
  obtain ⟨selected, selected'⟩ := directorySources_mixedEntries (.ok own) (.ok test)
  constructor
  · refine (loadPackage_eq_ok_iff rfl).2 ⟨?_, ?_, rfl, rfl⟩ <;> rw [selected]
    · exact List.cons_ne_nil _ _
    · exact .cons (read_eq_fileOf testAccepted) (.cons (read_eq_fileOf ownAccepted) .nil)
  · refine (loadPackage_eq_ok_iff rfl).2 ⟨?_, ?_, rfl, rfl⟩ <;> rw [selected']
    · exact List.cons_ne_nil _ _
    · exact .cons (read_eq_fileOf ownAccepted) .nil

/-- A directory with a source and one of its external test package. -/
def mixedDirectory : FileSystem :=
  directoryOf (mixedEntries (.ok "package p\n".toUTF8) (.ok "package p_test\n".toUTF8))

/-- The directory, if its own source may not be read. -/
def lockedDirectory : FileSystem :=
  directoryOf (mixedEntries (.error "Permission denied") (.ok "package p_test\n".toUTF8))

theorem complaint_lockedSource [Recovery] :
    FirstComplaint [("a_test.go", .ok "package p_test\n".toUTF8),
      ("b.go", .error "Permission denied")] "b.go: cannot read file: Permission denied" :=
  .later (by decide +kernel) (.here (.unreadable "Permission denied"))

/-- The package is named after its own file, although that of the test comes first.  If the own file
may not be read, there is no package. -/
theorem mixedDirectory_loads :
    letI := Recovery.whole
    (∃ whole part : Package,
      loadPackage mixedDirectory "." true = .ok whole ∧
      loadPackage mixedDirectory "." false = .ok part ∧
      whole.files.map SourceFile.path = ["a_test.go", "b.go"] ∧ whole.name = "p" ∧
      part.files.map SourceFile.path = ["b.go"] ∧ part.files = withoutTests whole.files) ∧
      ∃ error, loadPackage lockedDirectory "." true = .error error ∧
        error.message = "b.go: cannot read file: Permission denied" := by
  let := Recovery.whole
  constructor
  · obtain ⟨loads, loads'⟩ := @loadPackage_mixedEntries _ "package p\n".toUTF8
      "package p_test\n".toUTF8 (by decide +kernel) (by decide +kernel)
    obtain ⟨each, both⟩ :=
      @directory_loads _ mixedDirectory "." _ _ (wellFormed_mixedEntries _ _) rfl
    obtain ⟨_, _, _, _, _, named⟩ := each true
    have own : ¬ ∃ stem, "p" = stem ++ "_test" := by
      rw [← isSuffixOf_toList_iff]
      decide
    exact ⟨_, _, loads, loads', by decide +kernel,
      (named _ loads).2 "p" (by decide) own (by decide +kernel) (by decide +kernel),
      by decide +kernel, both _ _ loads loads'⟩
  · refine (complaint_loadPackage_iff rfl).2 (.inr ?_)
    rw [(directorySources_mixedEntries _ _).1]
    exact complaint_lockedSource

end Mixed

end SliceGuard.Packages
