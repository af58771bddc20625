import Mathlib.Data.List.Nodup
import SliceGuard.Proofs.CommandLine.Findings
import SliceGuard.Proofs.Text.JsonRoundTrip

/-!
# Output modes

A run that prints lines and one that prints JSON report the same diagnostics in the same order, or
both fail in the same way.  Asking for JSON in front of the arguments changes nothing else about
what they ask for.
-/

namespace SliceGuard.CommandLine

open Packages (FileSystem)
open Syntax (Recovery)
open Text (Json)

section Json

def Options.withJson (options : Options) : Options :=
  { options with json := true }

def Progress.withJson (progress : Progress) : Progress :=
  { progress with options := progress.options.withJson }

/-- What is asked for, with JSON if it is a run. -/
def Invocation.withJson : Invocation → Invocation
  | .run options => .run options.withJson
  | .help => .help
  | .invalid error => .invalid error

/-- A result changed so, or what it was stopped for. -/
def resultWithJson {α : Type} (change : α → α) : Except Invocation α → Except Invocation α
  | .ok value => .ok (change value)
  | .error stop => .error stop.withJson

theorem perform_withJson (options : Options) (actions : List Action) :
    perform options.withJson actions = resultWithJson .withJson (perform options actions) := by
  fun_induction perform options actions with
  | case1 => rfl
  | case2 options action rest flag => simp [perform, flag, resultWithJson, Invocation.withJson]
  | case3 options action rest flag ih =>
    rw [perform, flag]
    exact ih
  | case4 options action rest flag ih =>
    rw [perform, flag]
    exact ih
  | case5 options action rest flag tests valid ih =>
    rw [perform, flag]
    dsimp only
    rw [valid]
    exact ih
  | case6 options action rest flag invalid =>
    simp [perform, flag, invalid, resultWithJson, Invocation.withJson]

namespace Progress

theorem endRun_withJson (progress : Progress) :
    progress.withJson.endRun = progress.endRun.withJson := by
  unfold endRun
  dsimp only
  rw [apply_ite withJson]
  rfl

theorem act_withJson (progress : Progress) (actions : List Action) :
    progress.withJson.act actions = resultWithJson withJson (progress.act actions) := by
  have performed := perform_withJson progress.options actions
  unfold act
  rw [show progress.withJson.options = progress.options.withJson from rfl, performed]
  cases perform progress.options actions <;> rfl

theorem takeOption_withJson (progress : Progress) (flag : Flag) (attached : Attached) :
    progress.withJson.takeOption flag attached =
      resultWithJson withJson (progress.takeOption flag attached) := by
  unfold takeOption
  cases useOption flag attached with
  | error error => rfl
  | ok use =>
    dsimp only
    cases use.waiting with
    | some waiting => rfl
    | none =>
      exact act_withJson { progress with unrecognized := progress.unrecognized ++ use.unrecognized }
        use.actions

/-- No step looks at whether JSON is asked for. -/
theorem step_withJson (progress : Progress) (item : Item) :
    progress.withJson.step item = resultWithJson withJson (progress.step item) := by
  obtain ⟨options, run, hasPatterns, unrecognized, waiting⟩ := progress
  cases waiting with
  | some waiting =>
    cases item with
    | plain value => exact act_withJson _ _
    | separator | option | unknown => rfl
  | none =>
    cases item with
    | option flag spelling attached =>
      change (endRun (withJson _)).takeOption flag attached = _
      rw [endRun_withJson, takeOption_withJson]
      rfl
    | unknown text =>
      change Except.ok _ = Except.ok _
      rw [show endRun _ = _ from endRun_withJson ⟨options, run, hasPatterns, unrecognized, none⟩]
      rfl
    | plain | separator => rfl

theorem foldlM_withJson (progress : Progress) (items : List Item) :
    items.foldlM step progress.withJson = resultWithJson withJson (items.foldlM step progress) := by
  induction items generalizing progress with
  | nil => rfl
  | cons item items ih =>
    rw [List.foldlM_cons, List.foldlM_cons, step_withJson]
    cases progress.step item with
    | error stop => rfl
    | ok next => exact ih next

theorem finish_withJson (progress : Progress) :
    progress.withJson.finish = progress.finish.withJson := by
  unfold finish
  rw [show progress.withJson.waiting = progress.waiting from rfl]
  cases progress.waiting with
  | some waiting => rfl
  | none =>
    dsimp only
    rw [endRun_withJson, apply_ite Invocation.withJson, apply_ite Invocation.withJson]
    rfl

end Progress

/-- Arguments with a request for JSON in front ask for the same, with JSON. -/
theorem invocation_json (arguments : List String) :
    invocation ("-json" :: arguments) = (invocation arguments).withJson := by
  have first : item "-json" = .ok (.option .json "-json" .none) := by decide +kernel
  have asked : Progress.step {} (.option .json "-json" .none) = .ok (Progress.withJson {}) := rfl
  have read : items ("-json" :: arguments) =
      (items arguments).map (.option .json "-json" .none :: ·) := by
    rw [items, if_neg (by decide), first]
    cases items arguments <;> rfl
  unfold invocation
  rw [read]
  cases items arguments with
  | error error => rfl
  | ok items =>
    have later : (.option .json "-json" .none :: items).foldlM Progress.step {} =
        items.foldlM Progress.step (Progress.withJson {}) := by
      rw [List.foldlM_cons, asked]
      rfl
    simp only [Except.map, later, Progress.foldlM_withJson]
    cases items.foldlM Progress.step {} with
    | error stop => rfl
    | ok progress => exact Progress.finish_withJson progress

end Json

section Flattening

/-- The position and the message of a diagnostic in JSON. -/
def pair? (diagnostic : Json) : Option (String × String) :=
  match diagnostic.field? "posn", diagnostic.field? "message" with
  | some (.string position), some (.string message) => some (position, message)
  | _, _ => none

def packagePairs? (package : Json) : Option (List (String × String)) :=
  match package.field? Check.analyzerName with
  | some (.array diagnostics) => diagnostics.mapM pair?
  | _ => none

/-- The positions and messages of findings in JSON, package by package and in the order of the
diagnostics of a package. -/
def flattened? : Json → Option (List (String × String))
  | .object packages => (packages.mapM fun package => packagePairs? package.2).map List.flatten
  | _ => none

theorem mapM_map_eq_some {α β γ : Type} {f : α → β} {g : β → Option γ} {h : α → γ}
    (each : ∀ x, g (f x) = some (h x)) (xs : List α) : (xs.map f).mapM g = some (xs.map h) := by
  induction xs with
  | nil => rfl
  | cons x xs ih => simp [each, ih]

/-- The position and the message of a diagnostic. -/
def pair (diagnostic : Diagnostic) : String × String :=
  (diagnostic.position, Diagnostic.message)

namespace Findings

/-- The fields under which the findings are printed. -/
def fields (findings : Findings) : List (String × Json) :=
  (findings.filter fun entry => !entry.2.isEmpty).map fun entry =>
    (entry.1, .object [(Check.analyzerName, .array (entry.2.map diagnosticJson))])

/-- Flattening gives back all diagnostics; directories without any add nothing. -/
theorem flattened?_fields (findings : Findings) :
    flattened? (.object findings.fields) = some (findings.diagnostics.map pair) := by
  have pairs (diagnostic : Diagnostic) :
      pair? (diagnosticJson diagnostic) = some (pair diagnostic) := rfl
  have package (found : List Diagnostic) :
      packagePairs? (.object [(Check.analyzerName, .array (found.map diagnosticJson))]) =
        some (found.map pair) := by
    rw [← mapM_map_eq_some pairs]
    rfl
  have kept : ((findings.filter fun entry => !entry.2.isEmpty).map
      fun entry => entry.2.map pair).flatten = findings.diagnostics.map pair := by
    induction findings with
    | nil => rfl
    | cons entry findings ih =>
      obtain ⟨directory, _ | ⟨first, others⟩⟩ := entry <;>
        simp_all [diagnostics]
  have packages := @mapM_map_eq_some _ _ _ (fun entry : String × List Diagnostic =>
      (entry.1, Json.object [(Check.analyzerName, .array (entry.2.map diagnosticJson))]))
    (fun field => packagePairs? field.2) _ fun entry => package entry.2
  rw [← kept, flattened?, fields, packages]
  rfl

/-- No directory is recorded twice. -/
theorem nodup_ofPackages (packages : List Package) :
    ((ofPackages packages).map Prod.fst).Nodup := by
  induction packages using List.reverseRecOn with
  | nil => exact List.nodup_nil
  | append_singleton packages last ih =>
    rw [ofPackages_append_singleton]
    unfold record
    split
    · have same (entry : String × List Diagnostic) :
          (if entry.1 == last.directory then (last.directory, Check.diagnostics last)
            else entry).1 = entry.1 := by
        split <;> simp_all
      rw [List.map_map]
      exact (List.map_congr_left fun entry _ => same entry) ▸ ih
    · rename_i unknown
      rw [List.map_append, List.map_singleton, List.nodup_append_comm]
      refine List.nodup_cons.2 ⟨?_, ih⟩
      intro known
      obtain ⟨entry, mem, same⟩ := List.mem_map.1 known
      exact unknown (List.any_eq_true.2 ⟨entry, mem, by simp [same]⟩)

theorem nodup_fields (packages : List Package) :
    ((ofPackages packages).fields.map Prod.fst).Nodup := by
  rw [fields, List.map_map]
  exact (nodup_ofPackages packages).sublist (List.filter_sublist.map Prod.fst)

end Findings

/-- The text that is printed for a value is read as that value. -/
theorem ofText?_lines (value : Json) : Json.ofText? (lines [value.text]) = some value := by
  have printed : lines [value.text] = value.text ++ "\n" := by simp [lines]
  rw [printed]
  refine Json.ofText?_text_append value fun c mem => ?_
  obtain rfl : c = '\n' := List.mem_singleton.1 mem
  rfl

/-- Without events, lines and JSON report the same findings, or both modes fail alike.  The findings
in JSON are those of the text that is printed, as a reader of JSON sees it. -/
theorem modes_agree [Recovery] {system : FileSystem} {arguments : List String} {options : Options}
    (parsed : invocation arguments = .run options) (plain : options.json = false)
    (quiet : options.verbose = false) :
    (run system ("-json" :: arguments) = run system arguments ∧
        (run system arguments).exit = 1) ∨
      ∃ (packages : List (String × Json)) (printed : List (String × String)),
        run system ("-json" :: arguments) =
            { exit := 0, output := lines [(Json.object packages).text] } ∧
          Json.ofText? (run system ("-json" :: arguments)).output = some (.object packages) ∧
          (packages.map Prod.fst).Nodup ∧ flattened? (.object packages) = some printed ∧
          run system arguments =
            { exit := if printed = [] then 0 else 3
              errors := lines (printed.map fun pair => pair.1 ++ ": " ++ pair.2) } := by
  have parsed' := invocation_json arguments
  rw [parsed] at parsed'
  have silent (events : List Check.Event) : eventLines options events = [] := by
    simp [eventLines, quiet]
  have silent' (events : List Check.Event) : eventLines options.withJson events = [] :=
    silent events
  unfold run check
  rw [parsed, parsed']
  simp only [Invocation.withJson, silent, silent']
  rw [show options.withJson.patterns = options.patterns from rfl,
    show options.withJson.tests = options.tests from rfl]
  cases Packages.expandPatterns system options.patterns with
  | error error => exact .inl ⟨rfl, rfl⟩
  | ok paths =>
    dsimp only
    generalize survey system options.tests paths = surveyed
    cases surveyed.failure with
    | some error => exact .inl ⟨rfl, rfl⟩
    | none =>
      generalize findings : Findings.ofPackages surveyed.packages = found
      refine .inr ⟨found.fields, found.diagnostics.map pair, rfl, ofText?_lines _, ?_,
        found.flattened?_fields, ?_⟩
      · rw [← findings]
        exact Findings.nodup_fields surveyed.packages
      · have texts : (found.diagnostics.map pair).map (fun pair => pair.1 ++ ": " ++ pair.2) =
            found.diagnostics.map diagnosticLine := List.map_map
        rw [texts]
        simp [reported, plain, silent]

end Flattening

end SliceGuard.CommandLine
