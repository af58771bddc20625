import SliceGuard.Proofs.CommandLine.Modes
import SliceGuard.Proofs.Service.Buffers

/-!
# Front ends

The command line and the service report the same diagnostics for a directory and fail for the same
reasons, and the modes of the command line agree with each other.
-/

namespace SliceGuard.Service

open CommandLine (Outcome flattened? invocation lines run)
open Packages (FileSystem Path loadPackage patternBase)
open Syntax (Recovery)
open Text (Json)

/-- The line that stands for a returned diagnostic. -/
def line? (diagnostic : Json) : Option String :=
  match diagnostic.field? "file", diagnostic.field? "line", diagnostic.field? "column",
    diagnostic.field? "message" with
  | some (.string file), some (.number line places), some (.number column places'),
      some (.string message) =>
    some (file ++ ":" ++ Json.numberText line places ++ ":" ++ Json.numberText column places' ++
      ": " ++ message)
  | _, _, _, _ => none

theorem line?_diagnosticJson (diagnostic : Diagnostic) :
    line? (diagnosticJson diagnostic) = some (CommandLine.diagnosticLine diagnostic) := by
  have fields : line? (diagnosticJson diagnostic) = some (diagnostic.file ++ ":" ++
      Json.numberText diagnostic.line 0 ++ ":" ++ Json.numberText diagnostic.column 0 ++ ": " ++
      Diagnostic.message) := rfl
  rw [fields]
  rfl

theorem expandPatterns_of_single {system : FileSystem} {directory : Path}
    (single : patternBase directory.text = none) :
    Packages.expandPatterns system [directory.text] = .ok [directory.text] := by
  simp [Packages.expandPatterns, Packages.expandPattern, single, bind, Except.bind, pure,
    Except.pure]

section Directory

variable [Recovery] {system : FileSystem} {directory : Path} {withTests : Bool}
  {arguments : List String}

/-- What a run over a directory prints that can be loaded. -/
theorem run_eq_of_loads (single : patternBase directory.text = none)
    (parsed : invocation arguments = .run { patterns := [directory.text], tests := withTests })
    {package : Package} (loads : loadPackage system directory.text withTests = .ok package) :
    run system arguments =
      { exit := if Check.diagnostics package = [] then 0 else 3
        errors := lines ((Check.diagnostics package).map CommandLine.diagnosticLine) } := by
  have alone : (CommandLine.Findings.ofPackages [package]).diagnostics =
      Check.diagnostics package := by
    simp [CommandLine.Findings.ofPackages, CommandLine.Findings.record,
      CommandLine.Findings.diagnostics]
  rw [CommandLine.run_eq_of_loaded parsed rfl (expandPatterns_of_single single)
    (.cons loads .nil), alone]
  simp [CommandLine.eventLines]

/-- A directory that cannot be loaded makes a run fail. -/
theorem run_eq_of_fails (single : patternBase directory.text = none)
    (parsed : invocation arguments = .run { patterns := [directory.text], tests := withTests })
    {error : SourceError} (fails : loadPackage system directory.text withTests = .error error) :
    run system arguments = { exit := 1, errors := lines ["goboundcheck: " ++ error.message] } := by
  unfold run CommandLine.check
  rw [parsed]
  dsimp only
  rw [expandPatterns_of_single single]
  dsimp only
  rw [CommandLine.survey_of_error fails]
  rfl

theorem reply_eq_refused (normal : directory.IsNormal) (there : system.isDirectory directory = true)
    {error : SourceError} (fails : loadPackage system directory.text withTests = .error error) :
    PackageRequest.reply system ⟨directory.text, withTests⟩ = .refused error.message := by
  unfold PackageRequest.reply
  simp only [resolve_text normal, there, fails]
  rfl

/-- A run over a directory prints what the service returns, or fails for the reason for which the
service refuses. -/
theorem run_eq_reply (normal : directory.IsNormal) (there : system.isDirectory directory = true)
    (single : patternBase directory.text = none)
    (parsed : invocation arguments = .run { patterns := [directory.text], tests := withTests }) :
    (∃ reason, respond system (PackageRequest.posted ⟨directory.text, withTests⟩) =
          .refused reason ∧
        run system arguments = { exit := 1, errors := lines ["goboundcheck: " ++ reason] }) ∨
      ∃ returned printed,
        (respond system (PackageRequest.posted ⟨directory.text, withTests⟩)).diagnostics? =
            some returned ∧
          returned.mapM line? = some printed ∧
          run system arguments =
            { exit := if returned = [] then 0 else 3, errors := lines printed } := by
  rw [PackageRequest.respond_posted]
  cases loads : loadPackage system directory.text withTests with
  | error error =>
    exact .inl ⟨error.message, reply_eq_refused normal there loads,
      run_eq_of_fails single parsed loads⟩
  | ok package =>
    refine .inr ⟨_, _, PackageRequest.diagnostics?_reply normal there loads,
      CommandLine.mapM_map_eq_some line?_diagnosticJson _, ?_⟩
    rw [run_eq_of_loads single parsed loads]
    simp

end Directory

/-- Without events, the output modes report the same diagnostics, or both fail alike.  For a
directory, the lines that are printed stand for the diagnostics that the service returns, and a run
fails exactly if the service refuses, for the reason that it gives. -/
theorem front_ends_agree [Recovery] (system : FileSystem) :
    (∀ arguments options, invocation arguments = .run options → options.json = false →
      options.verbose = false →
      (run system ("-json" :: arguments) = run system arguments ∧
          (run system arguments).exit = 1) ∨
        ∃ (packages : List (String × Json)) (printed : List (String × String)),
          run system ("-json" :: arguments) =
              { exit := 0, output := lines [(Json.object packages).text] } ∧
            Json.ofText? (run system ("-json" :: arguments)).output = some (.object packages) ∧
            (packages.map Prod.fst).Nodup ∧ flattened? (.object packages) = some printed ∧
            run system arguments =
              { exit := if printed = [] then 0 else 3
                errors := lines (printed.map fun pair => pair.1 ++ ": " ++ pair.2) }) ∧
      ∀ directory withTests arguments, Path.IsNormal directory →
        system.isDirectory directory = true → patternBase directory.text = none →
        invocation arguments = .run { patterns := [directory.text], tests := withTests } →
        (∀ reason, respond system (PackageRequest.posted ⟨directory.text, withTests⟩) =
            .refused reason ↔
          run system arguments = { exit := 1, errors := lines ["goboundcheck: " ++ reason] }) ∧
        ((∃ reason, respond system (PackageRequest.posted ⟨directory.text, withTests⟩) =
            .refused reason) ∨
          ∃ returned printed,
            (respond system (PackageRequest.posted ⟨directory.text, withTests⟩)).diagnostics? =
                some returned ∧
              returned.mapM line? = some printed ∧
              run system arguments =
                { exit := if returned = [] then 0 else 3, errors := lines printed }) := by
  refine ⟨fun _ _ parsed plain quiet => CommandLine.modes_agree parsed plain quiet, ?_⟩
  intro directory withTests arguments normal there single parsed
  rcases @run_eq_reply _ system directory withTests arguments normal there single parsed with
    ⟨reason, refused, failed⟩ | ⟨returned, printed, done, texts, reported⟩
  · refine ⟨fun other => ?_, .inl ⟨reason, refused⟩⟩
    rw [refused, failed]
    constructor
    · rintro ⟨⟩
      rfl
    · intro same
      have errors : reason = other := by simpa [lines] using congrArg Outcome.errors same
      rw [errors]
  · refine ⟨fun other => ⟨?_, ?_⟩, .inr ⟨returned, printed, done, texts, reported⟩⟩
    · intro refused
      rw [refused] at done
      cases done
    · -- A run that reports has another status than one that fails.
      intro failed
      have exits := congrArg Outcome.exit (reported.symm.trans failed)
      dsimp only at exits
      split at exits <;> cases exits

/-- The directory with the saved buffers, which is analyzed without an option. -/
theorem usingSystem_front_ends :
    letI := Recovery.whole
    invocation ["/d"] = .run { patterns := ["/d"], tests := true } ∧
      ((run usingSystem ["-json", "/d"] = run usingSystem ["/d"] ∧
          (run usingSystem ["/d"]).exit = 1) ∨
        ∃ (packages : List (String × Json)) (printed : List (String × String)),
          run usingSystem ["-json", "/d"] =
              { exit := 0, output := lines [(Json.object packages).text] } ∧
            Json.ofText? (run usingSystem ["-json", "/d"]).output = some (.object packages) ∧
            (packages.map Prod.fst).Nodup ∧ flattened? (.object packages) = some printed ∧
            run usingSystem ["/d"] =
              { exit := if printed = [] then 0 else 3
                errors := lines (printed.map fun pair => pair.1 ++ ": " ++ pair.2) }) ∧
      ((∃ reason, respond usingSystem (PackageRequest.posted ⟨"/d", true⟩) = .refused reason) ∨
        ∃ returned printed,
          (respond usingSystem (PackageRequest.posted ⟨"/d", true⟩)).diagnostics? =
              some returned ∧
            returned.mapM line? = some printed ∧
            run usingSystem ["/d"] =
              { exit := if returned = [] then 0 else 3, errors := lines printed }) := by
  let := Recovery.whole
  have parsed : invocation ["/d"] = .run { patterns := ["/d"], tests := true } := by decide +kernel
  have normal : Path.IsNormal ⟨"/", ["d"]⟩ := ⟨rfl, by simpa using by decide⟩
  have single : patternBase "/d" = none := by decide +kernel
  have both := front_ends_agree usingSystem
  exact ⟨parsed, both.1 ["/d"] _ parsed rfl rfl,
    (both.2 ⟨"/", ["d"]⟩ true ["/d"] normal rfl single parsed).2⟩

end SliceGuard.Service
