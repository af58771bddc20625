import SliceGuard.Proofs.CommandLine.Failures

/-!
# What recursive patterns stand for

A recursive pattern stands for directories that hold a file whose name ends like that of a source.
Such a directory can be loaded unless all of these files are left out by their names: a name that is
nothing but the extension, or that of a test in a run without tests.  Only at such a directory, or
at a path that is given by itself, does a run fail for want of sources.
-/

namespace SliceGuard.Packages

open Syntax (Recovery)

/-- The names that are passed by when a directory is loaded, although they end like the name of a
source. -/
def LeftOut (withTests : Bool) (name : String) : Prop :=
  name = ".go" ∨ withTests = false ∧ Path.isTestName name = true

instance (withTests : Bool) (name : String) : Decidable (LeftOut withTests name) :=
  inferInstanceAs (Decidable (_ ∨ _))

theorem isSourceName_iff {name : String} :
    Path.isSourceName name = true ↔
      ['.', 'g', 'o'].isSuffixOf name.toList = true ∧ name ≠ ".go" := by
  rw [isSourceName_iff_stem, show ['.', 'g', 'o'] = ".go".toList from rfl, isSuffixOf_toList_iff]
  constructor
  · rintro ⟨stem, nonempty, rfl⟩
    exact ⟨⟨stem, rfl⟩, by simpa using nonempty⟩
  · rintro ⟨⟨stem, rfl⟩, other⟩
    exact ⟨stem, by simpa using other, rfl⟩

theorem isSource_iff {withTests : Bool} {entry : Entry} :
    isSource withTests entry = true ↔
      isNamedSource entry = true ∧ ¬ LeftOut withTests entry.name := by
  simp only [isSource, isNamedSource, LeftOut, Bool.and_eq_true, isSourceName_iff, Bool.or_eq_true,
    Bool.not_eq_true', not_or]
  cases withTests <;> simp [and_assoc]

theorem directorySources_eq_nil_iff {withTests : Bool} {path : Path} {entries : List Entry} :
    directorySources withTests path entries = [] ↔
      ∀ entry ∈ entries, isSource withTests entry = false := by
  simp only [directorySources, List.filterMap_eq_nil_iff, List.mem_mergeSort, List.mem_filter]
  constructor
  · intro nothing entry mem
    by_contra source
    have none := nothing entry ⟨mem, by simpa using source⟩
    cases entry with
    | file name bytes => simp at none
    | directory name entries => simp [isSource, Entry.isDirectory] at source
  · rintro none entry ⟨mem, source⟩
    rw [none entry mem] at source
    cases source

/-- The files that are read are found unless all that are named like sources are left out. -/
theorem directorySources_ne_nil_iff {withTests : Bool} {path : Path} {entries : List Entry} :
    directorySources withTests path entries ≠ [] ↔
      ∃ entry ∈ entries, isNamedSource entry = true ∧ ¬ LeftOut withTests entry.name := by
  rw [Ne, directorySources_eq_nil_iff]
  push Not
  simp only [ne_eq, Bool.not_eq_false, isSource_iff]

/-- A text that leads to a directory with a file that is named like a source. -/
def LeadsToSources (system : FileSystem) (text : String) : Prop :=
  ∃ name entries, system.get? (Path.ofText text) = some (.directory name entries) ∧
    ∃ entry ∈ entries, isNamedSource entry = true

/-- Every path that a recursive pattern stands for leads to sources, at least by their names. -/
theorem leads_of_expandPattern {system : FileSystem} (wellFormed : system.WellFormed)
    {pattern base : String} (recursive : patternBase pattern = some base) {yielded : List String}
    (expanded : expandPattern system pattern = .ok yielded) :
    ∀ path ∈ yielded, LeadsToSources system path := by
  cases (expandPattern_eq_ok_iff wellFormed).1 expanded with
  | plain single => exact absurd (patternBase_eq_some_iff.1 recursive) (single base)
  | recursive starts found isDirectory complete ordered =>
    intro path mem
    obtain ⟨names, listed, rfl⟩ := List.mem_map.1 mem
    obtain ⟨last, leads, file, inside, isNamed⟩ := (complete names).1 listed
    have there := wellFormed.get?_of_leads leads starts.nonempty found
    cases last with
    | file => cases inside
    | directory name entries => exact ⟨name, entries, there, file, inside, isNamed⟩

theorem readSource_ne_noSources [Recovery] (source : Source) (place : String) :
    readSource source ≠ .error (.noSources place) := by
  obtain ⟨path, contents⟩ := source
  cases contents with
  | error reason => nofun
  | ok bytes =>
    intro fails
    obtain ⟨_, same⟩ := SourceFile.read_eq_error_iff.1 fails
    cases same

/-- Sources are missed only in a directory without any. -/
theorem directory_of_noSources [Recovery] {system : FileSystem} {text place : String}
    {withTests : Bool} (fails : loadPackage system text withTests = .error (.noSources place)) :
    ∃ name entries, system.get? (Path.ofText text) = some (.directory name entries) ∧
      directorySources withTests (Path.ofText text) entries = [] := by
  cases found : system.get? (Path.ofText text) with
  | none =>
    rw [loadPackage_of_missing found] at fails
    cases fails
  | some entry =>
    cases entry with
    | file name contents =>
      rw [loadPackage_of_file found] at fails
      cases reads : readSource (Path.ofText text, contents) with
      | error error =>
        rw [reads] at fails
        obtain rfl := Except.error.inj fails
        exact absurd reads (readSource_ne_noSources _ place)
      | ok file => simp [reads, Except.map] at fails
    | directory name entries =>
      rcases (loadPackage_eq_error_iff found).1 fails with
        ⟨nothing, _⟩ | ⟨_, source, _, _, _, stops⟩
      · exact ⟨name, entries, rfl, nothing⟩
      · exact absurd stops (readSource_ne_noSources source place)

end SliceGuard.Packages

namespace SliceGuard.SourceError

/-- The last words of a message, which may be those of the system or of a parser. -/
def words : SourceError → String
  | syntaxError _ _ _ none => "syntax error"
  | syntaxError _ _ _ (some label) => label
  | unreadable _ reason => reason
  | noSuchPath _ => "no such file or directory"
  | noSources _ => "no Go files in directory"
  | noSuchDirectory _ => "no such directory"

/-- Before the last words stands a blank after a colon, or after `missing`. -/
theorem message_words (error : SourceError) :
    ∃ front c, (c = ':' ∨ c = 'g') ∧
      error.message.toList = front ++ c :: ' ' :: error.words.toList := by
  have located (path text : String) (line column : Int) : ∃ front,
      (located path text line column).toList = front ++ ':' :: ' ' :: text.toList := by
    unfold SourceError.located
    split
    · exact ⟨path.toList, by simp [toString]⟩
    · exact ⟨(path ++ ":" ++ toString line ++ ":" ++ toString column).toList, by simp [toString]⟩
  cases error with
  | syntaxError path line column missing =>
    cases missing with
    | none =>
      obtain ⟨front, text⟩ := located path "syntax error" line column
      exact ⟨front, ':', .inl rfl, text⟩
    | some label =>
      obtain ⟨front, text⟩ := located path ("syntax error: missing " ++ label) line column
      exact ⟨front ++ ':' :: ' ' :: "syntax error: missin".toList, 'g', .inr rfl, by
        simpa [message, words] using text⟩
  | unreadable path reason =>
    obtain ⟨front, text⟩ := located path ("cannot read file: " ++ reason) 0 0
    exact ⟨front ++ ':' :: ' ' :: "cannot read file".toList, ':', .inl rfl, by
      simpa [message, words] using text⟩
  | noSuchPath path | noSources path | noSuchDirectory path =>
    obtain ⟨front, text⟩ := located path _ 0 0
    exact ⟨front, ':', .inl rfl, text⟩

/-- An error whose message ends with words of the system or of a parser that end with a text. -/
inductive Quotes (text : String) : SourceError → Prop
  | reason (path front : String) : Quotes text (unreadable path (front ++ text))
  | label (path : String) (line column : Nat) (front : String) :
      Quotes text (syntaxError path line column (some (front ++ text)))

end SliceGuard.SourceError

namespace SliceGuard.CommandLine

open Packages
open Syntax (Recovery)

/-- The end of a text lies behind every character that does not stand in it. -/
theorem suffix_of_not_mem {ending before rest : List Char} {c : Char} (absent : c ∉ ending)
    (ends : ending <:+ before ++ c :: rest) : ending <:+ rest := by
  rcases List.suffix_or_suffix_of_suffix ends (List.suffix_append before (c :: rest)) with
    here | more
  · rcases List.suffix_cons_iff.1 here with whole | later
    · exact absurd (by simp [whole]) absent
    · exact later
  · exact absurd (more.subset List.mem_cons_self) absent

/-- What is printed of a failure for want of sources is the end of its last words. -/
theorem words_of_failed {told told' : List String} {error : SourceError} {place : String}
    (same : failed told error = failed told' (.noSources place)) :
    "no Go files in directory".toList <:+ error.words.toList := by
  have printed := congrArg (fun outcome => outcome.errors.toList) same
  simp only [failed, lines_append_singleton, SourceError.message_noSources] at printed
  obtain ⟨front, c, isMark, text⟩ := error.message_words
  have ends : "no Go files in directory\n".toList <:+
      ((lines told).toList ++ Check.analyzerName.toList ++ ": ".toList ++ front) ++
        c :: (' ' :: (error.words.toList ++ ['\n'])) := by
    refine ⟨(lines told' ++ Check.analyzerName ++ ": " ++ place ++ ": ").toList, ?_⟩
    simpa [text] using printed.symm
  have absent : c ∉ "no Go files in directory\n".toList := by
    rcases isMark with rfl | rfl <;> decide
  rcases List.suffix_cons_iff.1 (suffix_of_not_mem absent ends) with whole | later
  · cases whole
  · obtain ⟨before, ended⟩ := later
    have same : before ++ "no Go files in directory".toList ++ ['\n'] =
        error.words.toList ++ ['\n'] := by
      simpa using ended
    exact ⟨before, List.append_cancel_right same⟩

/-- A failure that reads like one for want of sources is one, or the words are quoted. -/
theorem noSources_of_failed {told told' : List String} {error : SourceError} {place : String}
    (same : failed told error = failed told' (.noSources place)) :
    (∃ place', error = .noSources place') ∨ error.Quotes "no Go files in directory" := by
  have ends := words_of_failed same
  cases error with
  | noSources place' => exact .inl ⟨place', rfl⟩
  | unreadable path reason =>
    obtain ⟨front, text⟩ := ends
    have quoted : reason = String.ofList front ++ "no Go files in directory" := by
      rw [← String.toList_inj, String.toList_append, String.toList_ofList]
      exact text.symm
    exact .inr (quoted ▸ .reason path _)
  | syntaxError path line column missing =>
    cases missing with
    | none => exact absurd ends (by decide : ¬ _ <:+ "syntax error".toList)
    | some label =>
      obtain ⟨front, text⟩ := ends
      have quoted : label = String.ofList front ++ "no Go files in directory" := by
        rw [← String.toList_inj, String.toList_append, String.toList_ofList]
        exact text.symm
      exact .inr (quoted ▸ .label path line column _)
  | noSuchPath => exact absurd ends (by decide : ¬ _ <:+ "no such file or directory".toList)
  | noSuchDirectory => exact absurd ends (by decide : ¬ _ <:+ "no such directory".toList)

/-- A run that fails like one for want of sources fails with an error of that text. -/
theorem failsWith_of_failed [Recovery] {system : FileSystem} {arguments : List String}
    {options : Options} (parsed : invocation arguments = .run options) {told : List String}
    {place : String} (fails : run system arguments = failed told (.noSources place)) :
    ∃ error, FailsWith system options error ∧
      ((∃ place', error = .noSources place') ∨ error.Quotes "no Go files in directory") := by
  unfold run check at fails
  rw [parsed] at fails
  dsimp only at fails
  cases expanded : expandPatterns system options.patterns with
  | error error =>
    rw [expanded] at fails
    obtain ⟨base, misses, rfl⟩ := expandPatterns_eq_error_iff.1 expanded
    exact ⟨_, .expanding misses, noSources_of_failed fails⟩
  | ok paths =>
    rw [expanded] at fails
    dsimp only at fails
    split at fails
    · rename_i error stops
      exact ⟨error, .loading expanded (survey_failure_eq_some_iff.1 stops),
        noSources_of_failed fails⟩
    · -- A run that does not fail has another status.
      have exits := congrArg Outcome.exit fails
      unfold reported failed at exits
      split at exits
      · cases exits
      · dsimp only at exits
        split at exits <;> cases exits

/-- A run fails for want of sources at one of its paths. -/
theorem path_of_noSources [Recovery] {system : FileSystem} {options : Options}
    {paths : List String} (expanded : expandPatterns system options.patterns = .ok paths)
    {place : String} (fails : FailsWith system options (.noSources place)) :
    ∃ path ∈ paths, loadPackage system path options.tests = .error (.noSources place) := by
  cases fails with
  | loading expanded' first =>
    obtain rfl := Except.ok.inj (expanded.symm.trans expanded')
    obtain ⟨before, path, after, rfl, _, stops⟩ := first
    exact ⟨path, by simp, stops⟩

/-- Every path that a recursive pattern stands for leads to a directory with a file that is named
like a source, and sources are found there exactly if one of these files is not left out.  A run
fails for want of sources only at a path that is given by itself, or at a directory where all of
these files are left out. -/
theorem recursive_patterns_load [Recovery] {system : FileSystem} (wellFormed : system.WellFormed)
    {options : Options} {paths : List String}
    (expanded : expandPatterns system options.patterns = .ok paths) :
    (∀ pattern ∈ options.patterns, ∀ base, patternBase pattern = some base →
      ∃ yielded, expandPattern system pattern = .ok yielded ∧ ∀ path ∈ yielded, path ∈ paths ∧
        ∃ name entries, system.get? (Path.ofText path) = some (.directory name entries) ∧
          (∃ entry ∈ entries, isNamedSource entry = true) ∧
          (directorySources options.tests (Path.ofText path) entries ≠ [] ↔
            ∃ entry ∈ entries, isNamedSource entry = true ∧ ¬ LeftOut options.tests entry.name)) ∧
      ∀ arguments told place, invocation arguments = .run options →
        run system arguments = failed told (.noSources place) →
        (∃ path ∈ paths, path ∈ options.patterns ∧ patternBase path = none ∨
          ∃ name entries, system.get? (Path.ofText path) = some (.directory name entries) ∧
            (∃ entry ∈ entries, isNamedSource entry = true) ∧
            ∀ entry ∈ entries, isNamedSource entry = true → LeftOut options.tests entry.name) ∨
          ∃ error, FailsWith system options error ∧
            error.Quotes "no Go files in directory" := by
  have yields := expandPatterns_eq_ok expanded
  obtain ⟨lists, each, rfl⟩ := yields
  constructor
  · intro pattern mem base recursive
    obtain ⟨yielded, listed, here⟩ := exists_of_mem_forall₂ each mem
    refine ⟨yielded, here, fun path inside => ⟨List.mem_flatten_of_mem listed inside, ?_⟩⟩
    obtain ⟨name, entries, found, named⟩ :=
      leads_of_expandPattern wellFormed recursive here path inside
    exact ⟨name, entries, found, named, directorySources_ne_nil_iff⟩
  · intro arguments told place parsed fails
    obtain ⟨error, cause, ⟨place', rfl⟩ | quotes⟩ := failsWith_of_failed parsed fails
    case inr => exact .inr ⟨error, cause, quotes⟩
    obtain ⟨path, mem, loads⟩ := path_of_noSources expanded cause
    refine .inl ⟨path, mem, ?_⟩
    obtain ⟨yielded, listed, inside⟩ := List.mem_flatten.1 mem
    obtain ⟨pattern, known, here⟩ := exists_of_mem_forall₂ each.flip listed
    cases recursive : patternBase pattern with
    | none =>
      simp only [expandPattern, recursive, Except.ok.injEq] at here
      rw [← here, List.mem_singleton] at inside
      exact .inl ⟨inside ▸ known, inside ▸ recursive⟩
    | some base =>
      obtain ⟨name, entries, found, named⟩ :=
        leads_of_expandPattern wellFormed recursive here path inside
      obtain ⟨_, _, again, nothing⟩ := directory_of_noSources loads
      rw [found] at again
      obtain ⟨rfl, rfl⟩ := Entry.directory.inj (Option.some.inj again)
      refine .inr ⟨name, entries, found, named, ?_⟩
      intro entry inner isNamed
      by_contra kept
      exact directorySources_ne_nil_iff.2 ⟨entry, inner, isNamed, kept⟩ nothing

/-- A directory with nothing but a test. -/
def testOnly : FileSystem where
  root := .directory "" [.file "a_test.go" (.ok "package p\n".toUTF8)]
  working := []

/-- The directory is yielded because of its test, and the run without tests fails there. -/
theorem recursive_pattern_fails :
    letI := Recovery.whole
    invocation ["-test=false", "./..."] = .run { tests := false, patterns := ["./..."] } ∧
      expandPatterns testOnly ["./..."] = .ok ["."] ∧
      run testOnly ["-test=false", "./..."] =
        { exit := 1, errors := "goboundcheck: .: no Go files in directory\n" } := by
  refine ⟨by decide +kernel, by decide +kernel, by decide +kernel⟩

/-- A package with its sources, above a directory with nothing but a test. -/
def testsBelow : FileSystem where
  root := .directory "" [.directory "sub" [.file "a_test.go" (.ok "package p\n".toUTF8)],
    .file "b.go" (.ok "package p\n".toUTF8)]
  working := []

theorem wellFormed_testsBelow : testsBelow.WellFormed where
  root := by
    have sub : (Entry.directory "sub" [.file "a_test.go" (.ok "package p\n".toUTF8)]).WellFormed :=
      .directory (by decide) (by simpa using by decide) (by simpa using .file _ _)
    refine .directory (by decide) ?_ ?_
    · simpa [Entry.name] using by decide
    · simpa using ⟨sub, .file _ _⟩
  working := by simp [testsBelow]

/-- Both directories are yielded, and the run without tests fails at the one below. -/
theorem testsBelow_load :
    letI := Recovery.whole
    expandPatterns testsBelow ["./..."] = .ok [".", "./sub"] ∧
      run testsBelow ["-test=false", "./..."] = failed [] (.noSources "sub") ∧
      ∃ path ∈ [".", "./sub"], path ∈ ["./..."] ∧ patternBase path = none ∨
        ∃ name entries, testsBelow.get? (Path.ofText path) = some (.directory name entries) ∧
          (∃ entry ∈ entries, isNamedSource entry = true) ∧
          ∀ entry ∈ entries, isNamedSource entry = true → LeftOut false entry.name := by
  let := Recovery.whole
  have expanded : expandPatterns testsBelow ["./..."] = .ok [".", "./sub"] := by decide +kernel
  have fails : run testsBelow ["-test=false", "./..."] = failed [] (.noSources "sub") := by
    decide +kernel
  have parsed : invocation ["-test=false", "./..."] =
      .run { tests := false, patterns := ["./..."] } := by decide +kernel
  have cause : FailsWith testsBelow { tests := false, patterns := ["./..."] }
      (.noSources "sub") := by
    have loads : ∃ package, loadPackage testsBelow "." false = .ok package := by
      have loaded : (loadPackage testsBelow "." false).toOption.isSome = true := by decide +kernel
      cases result : loadPackage testsBelow "." false with
      | ok package => exact ⟨package, rfl⟩
      | error error => simp [result, Except.toOption] at loaded
    have stops : loadPackage testsBelow "./sub" false = .error (.noSources "sub") :=
      (loadPackage_eq_error_iff rfl).2
        (.inl ⟨directorySources_eq_nil_iff.2 (by decide +kernel), by decide +kernel⟩)
    refine .loading expanded ⟨["."], "./sub", [], rfl, ?_, stops⟩
    simpa using loads
  rcases (recursive_patterns_load wellFormed_testsBelow expanded).2 _ [] "sub" parsed fails with
    barren | ⟨error, again, quotes⟩
  · exact ⟨expanded, fails, barren⟩
  · obtain rfl := cause.unique again
    cases quotes

end SliceGuard.CommandLine
