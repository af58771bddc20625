import SliceGuard.Packages.Loading
import SliceGuard.Proofs.Packages.Lists
import SliceGuard.Proofs.Syntax.Rejection

/-!
# Complaints about files

Of a file that cannot be read, the reason of the system is told; of one that is no source, the place
of its first defect, and what is missing there if that is what is wrong.
-/

namespace SliceGuard

namespace SourceError

open Syntax (Draft)

/-- The text about a node has its place in it, because lines are counted from one. -/
theorem located_node (path message : String) (node : Draft) :
    located path message node.line node.column =
      path ++ ":" ++ toString node.line ++ ":" ++ toString node.column ++ (": " ++ message) := by
  have positive : (node.line : Int) ≠ 0 := by
    cases node
    simp only [Draft.line]
    omega
  rw [located, if_neg positive, ← String.append_assoc]
  rfl

theorem message_about_present (path : String) {node : Draft} (present : node.isMissing = false) :
    (about path node).message =
      path ++ ":" ++ toString node.line ++ ":" ++ toString node.column ++ ": syntax error" := by
  rw [about, present]
  exact located_node path "syntax error" node

theorem message_about_missing (path : String) {node : Draft} (absent : node.isMissing = true) :
    (about path node).message = path ++ ":" ++ toString node.line ++ ":" ++ toString node.column ++
      ": syntax error: missing " ++ node.label := by
  have text : ": " ++ ("syntax error: missing " ++ node.label) =
      ": syntax error: missing " ++ node.label := by
    rw [← String.append_assoc]
    rfl
  rw [about, absent]
  refine (located_node path ("syntax error: missing " ++ node.label) node).trans ?_
  rw [text, ← String.append_assoc]

/-- A bracket that is missing at the sixth column of the third line. -/
example : (about "a.go" (.mk ")" true true 2 5 [])).message =
    "a.go:3:6: syntax error: missing )" := by decide

theorem located_file (path message : String) :
    located path message 0 0 = path ++ (": " ++ message) :=
  String.append_assoc

theorem message_unreadable (path reason : String) :
    (unreadable path reason).message = path ++ ": cannot read file: " ++ reason := by
  have front : ": cannot read file: " = ": " ++ "cannot read file: " := rfl
  rw [message, located_file, front, String.append_assoc, String.append_assoc]

theorem message_noSources (path : String) :
    (noSources path).message = path ++ ": no Go files in directory" :=
  located_file path "no Go files in directory"

end SourceError

namespace Packages

open Syntax (Draft Recovery)

variable [Recovery]

/-- What is told of a file that cannot be had. -/
inductive Complaint (path : String) : Contents → String → Prop
  | unreadable (reason : String) :
      Complaint path (.error reason) (path ++ ": cannot read file: " ++ reason)
  | wrong {bytes : ByteArray} {node : Draft} (rejected : Syntax.tree? bytes = none)
      (culprit : (Recovery.draft bytes).IsCulprit node) (present : node.isMissing = false) :
      Complaint path (.ok bytes) (path ++ ":" ++ toString node.line ++ ":" ++
        toString node.column ++ ": syntax error")
  | missing {bytes : ByteArray} {node : Draft} (rejected : Syntax.tree? bytes = none)
      (culprit : (Recovery.draft bytes).IsCulprit node) (absent : node.isMissing = true) :
      Complaint path (.ok bytes) (path ++ ":" ++ toString node.line ++ ":" ++
        toString node.column ++ ": syntax error: missing " ++ node.label)

theorem readSource_ok (path : Path) (bytes : ByteArray) :
    readSource (path, .ok bytes) = SourceFile.read path.text bytes :=
  rfl

/-- The text tells the place of a node and what is missing there. -/
theorem complaint_ok_iff {path text : String} {bytes : ByteArray} :
    Complaint path (.ok bytes) text ↔
      Syntax.tree? bytes = none ∧
        (SourceError.about path (Recovery.draft bytes).culprit).message = text := by
  constructor
  · rintro (_ | ⟨rejected, culprit, present⟩ | ⟨rejected, culprit, absent⟩)
    · rw [← Draft.isCulprit_iff.1 culprit, SourceError.message_about_present path present]
      exact ⟨rejected, rfl⟩
    · rw [← Draft.isCulprit_iff.1 culprit, SourceError.message_about_missing path absent]
      exact ⟨rejected, rfl⟩
  · rintro ⟨rejected, rfl⟩
    cases missing : (Recovery.draft bytes).culprit.isMissing with
    | false =>
      rw [SourceError.message_about_present path missing]
      exact .wrong rejected (Draft.isCulprit_iff.2 rfl) missing
    | true =>
      rw [SourceError.message_about_missing path missing]
      exact .missing rejected (Draft.isCulprit_iff.2 rfl) missing

theorem complaint_error_iff {path reason text : String} :
    Complaint path (.error reason) text ↔ (SourceError.unreadable path reason).message = text := by
  rw [SourceError.message_unreadable]
  constructor
  · rintro ⟨⟩
    rfl
  · rintro rfl
    exact .unreadable reason

theorem complaint_read_iff {path text : String} {bytes : ByteArray} :
    Complaint path (.ok bytes) text ↔
      ∃ error, SourceFile.read path bytes = .error error ∧ error.message = text := by
  simp [complaint_ok_iff, SourceFile.read_eq_error_iff, and_assoc]

/-- A complaint is what the error tells with which a file is not read. -/
theorem complaint_readSource_iff {path : Path} {contents : Contents} {text : String} :
    Complaint path.text contents text ↔
      ∃ error, readSource (path, contents) = .error error ∧ error.message = text := by
  cases contents with
  | error reason => simp [complaint_error_iff, readSource]
  | ok bytes => exact complaint_read_iff

/-- The complaint about the first of some files that cannot be had. -/
inductive FirstComplaint : List (String × Contents) → String → Prop
  | here {path text : String} {contents : Contents} {rest : List (String × Contents)}
      (complaint : Complaint path contents text) : FirstComplaint ((path, contents) :: rest) text
  | later {path text : String} {bytes : ByteArray} {rest : List (String × Contents)}
      (accepted : (Syntax.tree? bytes).isSome = true) (further : FirstComplaint rest text) :
      FirstComplaint ((path, .ok bytes) :: rest) text

theorem firstComplaint_cons_iff {path text : String} {contents : Contents}
    {rest : List (String × Contents)} :
    FirstComplaint ((path, contents) :: rest) text ↔
      Complaint path contents text ∨
        (∃ bytes, contents = .ok bytes ∧ (Syntax.tree? bytes).isSome = true) ∧
          FirstComplaint rest text := by
  constructor
  · rintro (complaint | ⟨accepted, further⟩)
    · exact .inl complaint
    · exact .inr ⟨⟨_, rfl, accepted⟩, further⟩
  · rintro (complaint | ⟨⟨bytes, rfl, accepted⟩, further⟩)
    · exact .here complaint
    · exact .later accepted further

/-- Where files are read one by one, the first complaint is what the first error tells. -/
theorem firstComplaint_iff {α : Type} {read : α → Except SourceError SourceFile}
    {file : α → String × Contents}
    (complains : ∀ x text, Complaint (file x).1 (file x).2 text ↔
      ∃ error, read x = .error error ∧ error.message = text)
    (accepts : ∀ x, (∃ bytes, (file x).2 = .ok bytes ∧ (Syntax.tree? bytes).isSome = true) ↔
      ∃ result, read x = .ok result) {xs : List α} {text : String} :
    FirstComplaint (xs.map file) text ↔
      ∃ error, FirstFails read xs error ∧ error.message = text := by
  induction xs with
  | nil =>
    simp only [not_firstFails_nil, false_and, exists_false, iff_false]
    rintro ⟨⟩
  | cons x xs ih =>
    rw [List.map_cons, firstComplaint_cons_iff, complains, accepts, ih]
    simp only [firstFails_cons_iff, or_and_right, exists_or, and_assoc, exists_and_left]

theorem isSome_tree?_iff {path : String} {bytes : ByteArray} :
    (Syntax.tree? bytes).isSome = true ↔ ∃ file, SourceFile.read path bytes = .ok file := by
  simp only [SourceFile.read_eq_ok_iff, SourceFile.parse?, ← Option.isSome_iff_exists,
    Option.isSome_map]

theorem firstComplaint_sources_iff {sources : List Source} {text : String} :
    FirstComplaint (sources.map fun source => (source.1.text, source.2)) text ↔
      ∃ error, FirstFails readSource sources error ∧ error.message = text := by
  refine firstComplaint_iff (fun _ _ => complaint_readSource_iff) ?_
  rintro ⟨path, contents⟩
  cases contents with
  | error reason => simp [readSource]
  | ok bytes => simp [readSource, ← isSome_tree?_iff]

end Packages

end SliceGuard
