import Mathlib.Data.List.Forall2
import Mathlib.Data.List.Induction
import SliceGuard.CommandLine.Run
import SliceGuard.Proofs.Packages.Lists

/-!
# Which diagnostics a run prints

The diagnostics of packages that share a directory take each other's place, so that a run prints
those of the last package of every directory and no others.  A run prints all that was found exactly
if whatever was found in a package was found again in the last one of a directory.
-/

namespace SliceGuard.CommandLine

open Packages (FileSystem)
open Syntax (Recovery)

theorem lines_append_singleton (told : List String) (last : String) :
    lines (told ++ [last]) = lines told ++ (last ++ "\n") := by
  simp [lines]

/-- A package that no later package of the same directory takes the place of. -/
def Kept (packages : List Package) (package : Package) : Prop :=
  ∃ before after, packages = before ++ package :: after ∧
    ∀ later ∈ after, later.directory ≠ package.directory

theorem not_kept_nil (package : Package) : ¬ Kept [] package := by
  rintro ⟨before, after, split, _⟩
  simp at split

theorem kept_append_singleton_iff {packages : List Package} {last package : Package} :
    Kept (packages ++ [last]) package ↔
      package = last ∨ Kept packages package ∧ package.directory ≠ last.directory := by
  constructor
  · rintro ⟨before, after, split, later⟩
    rcases List.eq_nil_or_concat after with rfl | ⟨front, final, rfl⟩
    · exact .inl (List.append_inj_right' split rfl |> List.singleton_inj.1).symm
    · rw [List.concat_eq_append] at split later
      rw [← List.cons_append, ← List.append_assoc] at split
      obtain ⟨same, final_eq⟩ := List.append_inj' split rfl
      obtain rfl := List.singleton_inj.1 final_eq
      exact .inr ⟨⟨before, front, same, fun other mem => later other (by simp [mem])⟩,
        (later last (by simp)).symm⟩
  · rintro (rfl | ⟨⟨before, after, rfl, later⟩, differ⟩)
    · exact ⟨packages, [], rfl, by simp⟩
    · refine ⟨before, after ++ [last], by simp, ?_⟩
      intro other mem
      rcases List.mem_append.1 mem with inAfter | isLast
      · exact later other inAfter
      · rw [List.mem_singleton.1 isLast]
        exact differ.symm

/-- Where no two packages share a directory, all of them are kept. -/
theorem kept_of_nodup {packages : List Package} (apart : (packages.map Package.directory).Nodup)
    {package : Package} (mem : package ∈ packages) : Kept packages package := by
  obtain ⟨before, after, rfl⟩ := List.append_of_mem mem
  refine ⟨before, after, rfl, ?_⟩
  intro later memLater same
  rw [List.map_append, List.map_cons, List.nodup_append] at apart
  exact (List.nodup_cons.1 apart.2.1).1 (List.mem_map.2 ⟨later, memLater, same⟩)

namespace Findings

theorem mem_record_iff {findings : Findings} {directory : String} {found : List Diagnostic}
    {entry : String × List Diagnostic} :
    entry ∈ findings.record directory found ↔
      entry = (directory, found) ∨ entry ∈ findings ∧ entry.1 ≠ directory := by
  unfold record
  split
  · rename_i known
    obtain ⟨old, memOld, sameOld⟩ := List.any_eq_true.1 known
    rw [List.mem_map]
    constructor
    · rintro ⟨each, mem, rfl⟩
      by_cases same : each.1 = directory
      · simp [same]
      · simp [same, mem]
    · rintro (rfl | ⟨mem, differ⟩)
      · exact ⟨old, memOld, by simp [beq_iff_eq.1 sameOld]⟩
      · exact ⟨entry, mem, by simp [differ]⟩
  · rename_i unknown
    have fresh (mem : entry ∈ findings) : entry.1 ≠ directory := by
      intro same
      exact unknown (List.any_eq_true.2 ⟨entry, mem, by simp [same]⟩)
    rw [List.mem_append, List.mem_singleton]
    constructor
    · rintro (mem | rfl)
      · exact .inr ⟨mem, fresh mem⟩
      · exact .inl rfl
    · rintro (rfl | ⟨mem, _⟩)
      · exact .inr rfl
      · exact .inl mem

/-- One more package takes the place of those of its directory. -/
theorem ofPackages_append_singleton (packages : List Package) (last : Package) :
    ofPackages (packages ++ [last]) =
      (ofPackages packages).record last.directory (Check.diagnostics last) := by
  simp [ofPackages]

/-- After any number of packages, the last one of every directory is left. -/
theorem mem_ofPackages_iff {packages : List Package} {entry : String × List Diagnostic} :
    entry ∈ ofPackages packages ↔
      ∃ kept, Kept packages kept ∧ entry = (kept.directory, Check.diagnostics kept) := by
  induction packages using List.reverseRecOn generalizing entry with
  | nil => simp [ofPackages, not_kept_nil]
  | append_singleton packages last ih =>
    simp only [ofPackages_append_singleton, mem_record_iff, kept_append_singleton_iff, ih]
    constructor
    · rintro (rfl | ⟨⟨kept, isKept, rfl⟩, differ⟩)
      · exact ⟨last, .inl rfl, rfl⟩
      · exact ⟨kept, .inr ⟨isKept, differ⟩, rfl⟩
    · rintro ⟨kept, rfl | ⟨isKept, differ⟩, rfl⟩
      · exact .inl rfl
      · exact .inr ⟨⟨kept, isKept, rfl⟩, differ⟩

theorem mem_diagnostics_iff {packages : List Package} {diagnostic : Diagnostic} :
    diagnostic ∈ (ofPackages packages).diagnostics ↔
      ∃ kept, Kept packages kept ∧ diagnostic ∈ Check.diagnostics kept := by
  simp only [diagnostics, List.mem_flatMap, mem_ofPackages_iff]
  constructor
  · rintro ⟨_, ⟨kept, isKept, rfl⟩, mem⟩
    exact ⟨kept, isKept, mem⟩
  · rintro ⟨kept, isKept, mem⟩
    exact ⟨_, ⟨kept, isKept, rfl⟩, mem⟩

end Findings

theorem exists_found_iff_of_kept {packages : List Package}
    (keeps : ∀ package ∈ packages, ∀ diagnostic ∈ Check.diagnostics package,
      ∃ kept, Kept packages kept ∧ diagnostic ∈ Check.diagnostics kept) :
    (Findings.ofPackages packages).diagnostics = [] ↔
      ∀ package ∈ packages, Check.diagnostics package = [] := by
  simp only [List.eq_nil_iff_forall_not_mem, Findings.mem_diagnostics_iff]
  constructor
  · intro silent package mem diagnostic found
    exact silent diagnostic (keeps package mem diagnostic found)
  · rintro silent diagnostic ⟨kept, ⟨before, after, rfl, _⟩, found⟩
    exact silent kept (by simp) diagnostic found

section Runs

variable [Recovery]

section Survey

variable {system : FileSystem} {withTests : Bool} {path : String}

theorem survey_of_error {error : SourceError}
    (fails : Packages.loadPackage system path withTests = .error error) (rest : List String) :
    survey system withTests (path :: rest) = ⟨[], some error⟩ := by
  unfold survey
  rw [fails]

theorem survey_of_ok {package : Package}
    (loads : Packages.loadPackage system path withTests = .ok package) (rest : List String) :
    survey system withTests (path :: rest) =
      ⟨package :: (survey system withTests rest).packages,
        (survey system withTests rest).failure⟩ := by
  conv_lhs => unfold survey
  rw [loads]

end Survey

/-- Where every path can be loaded, all packages are surveyed. -/
theorem survey_eq_of_loaded {system : FileSystem} {withTests : Bool} {paths : List String}
    {packages : List Package}
    (loaded : List.Forall₂ (fun path package =>
      Packages.loadPackage system path withTests = .ok package) paths packages) :
    survey system withTests paths = ⟨packages, none⟩ := by
  induction loaded with
  | nil => rfl
  | cons here _ ih => rw [survey_of_ok here, ih]

/-- A survey stops at the first path that cannot be loaded. -/
theorem survey_failure_eq_some_iff {system : FileSystem} {withTests : Bool} {paths : List String}
    {error : SourceError} :
    (survey system withTests paths).failure = some error ↔
      Packages.FirstFails (Packages.loadPackage system · withTests) paths error := by
  induction paths with
  | nil => exact ⟨nofun, fun fails => absurd fails Packages.not_firstFails_nil⟩
  | cons path rest ih =>
    rw [Packages.firstFails_cons_iff, ← ih]
    cases loads : Packages.loadPackage system path withTests with
    | error cause => simp [survey_of_error loads]
    | ok package => simp [survey_of_ok loads]

/-- What a run prints when every path can be loaded: the diagnostics of the packages that are kept,
after and before the lines of events, and a status that tells whether there are any. -/
theorem run_eq_of_loaded {system : FileSystem} {arguments : List String} {options : Options}
    {paths : List String} {packages : List Package}
    (parsed : invocation arguments = .run options) (plain : options.json = false)
    (expanded : Packages.expandPatterns system options.patterns = .ok paths)
    (loaded : List.Forall₂ (fun path package =>
      Packages.loadPackage system path options.tests = .ok package) paths packages) :
    run system arguments =
      { exit := if (Findings.ofPackages packages).diagnostics = [] then 0 else 3
        errors := lines (eventLines options (surveyEvents packages) ++
          (Findings.ofPackages packages).diagnostics.map diagnosticLine ++
          eventLines options [.reported (Findings.ofPackages packages).diagnostics.length]) } := by
  simp [run, parsed, check, expanded, survey_eq_of_loaded loaded, reported, plain]

/-- A run without JSON prints every diagnostic of every package that it loads, and its status is that
of the packages, exactly if whatever is found in a package is found in one that is kept.  This is so
where no two packages share a directory. -/
theorem run_prints_all_iff {system : FileSystem} {arguments : List String} {options : Options}
    {paths : List String} {packages : List Package}
    (parsed : invocation arguments = .run options) (plain : options.json = false)
    (expanded : Packages.expandPatterns system options.patterns = .ok paths)
    (loaded : List.Forall₂ (fun path package =>
      Packages.loadPackage system path options.tests = .ok package) paths packages) :
    ∃ printed : List Diagnostic,
      (run system arguments).errors =
          lines (eventLines options (surveyEvents packages) ++ printed.map diagnosticLine ++
            eventLines options [.reported printed.length]) ∧
        (∀ diagnostic, diagnostic ∈ printed ↔
          ∃ kept, Kept packages kept ∧ diagnostic ∈ Check.diagnostics kept) ∧
        (run system arguments).exit = (if printed = [] then 0 else 3) ∧
        ((∀ package ∈ packages, ∀ diagnostic ∈ Check.diagnostics package, diagnostic ∈ printed) ∧
            ((run system arguments).exit = 3 ↔
              ∃ package ∈ packages, Check.diagnostics package ≠ []) ↔
          ∀ package ∈ packages, ∀ diagnostic ∈ Check.diagnostics package,
            ∃ kept, Kept packages kept ∧ diagnostic ∈ Check.diagnostics kept) ∧
        ((packages.map Package.directory).Nodup →
          ∀ package ∈ packages, ∀ diagnostic ∈ Check.diagnostics package,
            diagnostic ∈ printed) := by
  rw [run_eq_of_loaded parsed plain expanded loaded]
  refine ⟨(Findings.ofPackages packages).diagnostics, rfl, fun _ => Findings.mem_diagnostics_iff,
    rfl, ?_, ?_⟩
  · simp only [Findings.mem_diagnostics_iff]
    constructor
    · exact And.left
    · intro keeps
      refine ⟨keeps, ?_⟩
      have silent := exists_found_iff_of_kept keeps
      by_cases nothing : (Findings.ofPackages packages).diagnostics = []
      · simpa [nothing] using silent.1 nothing
      · have found := mt silent.2 nothing
        push Not at found
        simpa [nothing] using found
  · intro apart package mem diagnostic found
    exact Findings.mem_diagnostics_iff.2 ⟨package, kept_of_nodup apart mem, found⟩

end Runs

/-- Two files of one directory, the first with an unguarded access and the second with none. -/
def sharedDirectory : FileSystem where
  root := .directory ""
    [.file "a.go" (.ok "package p\nfunc f(x []int) int \x7b return x[0] \x7d\n".toUTF8),
     .file "b.go" (.ok "package p\n".toUTF8)]
  working := []

theorem sharedDirectory_loads :
    letI := Recovery.whole
    ∃ first second, Packages.loadPackage sharedDirectory "a.go" true = .ok first ∧
      Check.diagnostics first = [⟨"a.go", 2, 30⟩] ∧
      Packages.loadPackage sharedDirectory "b.go" true = .ok second := by
  let := Recovery.whole
  have found : (Packages.loadPackage sharedDirectory "a.go" true).toOption.map
      Check.diagnostics = some [⟨"a.go", 2, 30⟩] := by decide +kernel
  have loads : (Packages.loadPackage sharedDirectory "b.go" true).toOption.isSome = true := by
    decide +kernel
  cases loadFirst : Packages.loadPackage sharedDirectory "a.go" true with
  | error error => simp [loadFirst, Except.toOption] at found
  | ok first =>
    cases loadSecond : Packages.loadPackage sharedDirectory "b.go" true with
    | error error => simp [loadSecond, Except.toOption] at loads
    | ok second =>
      rw [loadFirst] at found
      exact ⟨first, second, rfl, Option.some.inj found, rfl⟩

/-- The second file takes the place of the first, and its diagnostic is lost. -/
theorem run_loses_diagnostic :
    letI := Recovery.whole
    (∃ package, Packages.loadPackage sharedDirectory "a.go" true = .ok package ∧
        Check.diagnostics package = [⟨"a.go", 2, 30⟩]) ∧
      (∃ package, Packages.loadPackage sharedDirectory "b.go" true = .ok package) ∧
      run sharedDirectory ["a.go", "b.go"] = { exit := 0, output := "", errors := "" } := by
  obtain ⟨first, second, loadsFirst, found, loadsSecond⟩ := sharedDirectory_loads
  exact ⟨⟨first, loadsFirst, found⟩, ⟨second, loadsSecond⟩, by decide +kernel⟩

/-- In the other order the diagnostic is printed, as its package is kept. -/
theorem run_prints_all_shared :
    letI := Recovery.whole
    ∃ (packages : List Package) (printed : List Diagnostic),
      List.Forall₂ (fun path package =>
        Packages.loadPackage sharedDirectory path true = .ok package) ["b.go", "a.go"] packages ∧
      (run sharedDirectory ["b.go", "a.go"]).errors = lines (printed.map diagnosticLine) ∧
      ∀ diagnostic, diagnostic ∈ printed ↔
        ∃ kept, Kept packages kept ∧ diagnostic ∈ Check.diagnostics kept := by
  let := Recovery.whole
  obtain ⟨first, second, loadsFirst, _, loadsSecond⟩ := sharedDirectory_loads
  have parsed : invocation ["b.go", "a.go"] = .run { patterns := ["b.go", "a.go"] } := by
    decide +kernel
  have loaded : List.Forall₂ (fun path package =>
      Packages.loadPackage sharedDirectory path true = .ok package) ["b.go", "a.go"]
      [second, first] := .cons loadsSecond (.cons loadsFirst .nil)
  obtain ⟨printed, text, kept, _⟩ := run_prints_all_iff parsed rfl rfl loaded
  refine ⟨[second, first], printed, loaded, ?_, kept⟩
  simpa [eventLines] using text

end SliceGuard.CommandLine
