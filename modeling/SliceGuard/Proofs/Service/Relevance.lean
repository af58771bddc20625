import SliceGuard.Proofs.Service.Buffers

/-!
# Relevant buffers

The reply for a buffer depends on the other open buffers only as far as these are sources of its
package.  Older copies of the current file, and sources of other packages, may be opened, closed and
moved among the others without a change of the reply.  All buffers but the older copies have to be
sources, and a refusal tells the place of the first defect of the first one that is none.
-/

namespace SliceGuard.Service

open Declarations (Index)
open Packages (FileSystem FirstComplaint FirstFails Path exists_firstFails mapM_eq_error_iff
  mapM_eq_ok_iff)
open Syntax (Recovery)
open Text (Json)

section Relevance

variable [Recovery]

/-- An open buffer that is an older copy of the current file, or the source of a file of another
package.  An older copy may be no source at all. -/
inductive Irrelevant (current : Buffer) : Buffer → Prop
  | copy {buffer : Buffer} (same : buffer.path = current.path) : Irrelevant current buffer
  | foreign {buffer : Buffer} (file : SourceFile) (reads : buffer.read = .ok file)
      (differs : ∀ own, current.read = .ok own → file.packageName ≠ own.packageName) :
      Irrelevant current buffer

/-- Open buffers that differ in irrelevant ones and in the places of these. -/
inductive SameRelevant (current : Buffer) : List Buffer → List Buffer → Prop
  | refl (buffers : List Buffer) : SameRelevant current buffers buffers
  | trans {first second third : List Buffer} (before : SameRelevant current first second)
      (after : SameRelevant current second third) : SameRelevant current first third
  | insert (before after : List Buffer) {buffer : Buffer} (opened : Irrelevant current buffer) :
      SameRelevant current (before ++ after) (before ++ buffer :: after)
  | remove (before after : List Buffer) {buffer : Buffer} (closed : Irrelevant current buffer) :
      SameRelevant current (before ++ buffer :: after) (before ++ after)
  | exchange (before after : List Buffer) {first second : Buffer}
      (moved : Irrelevant current first ∨ Irrelevant current second) :
      SameRelevant current (before ++ first :: second :: after)
        (before ++ second :: first :: after)

/-- The sources of a package among open buffers, of which all but copies of the current file are
read. -/
def related (current : Buffer) (name : String) (buffers : List Buffer) :
    Except SourceError (List SourceFile) := do
  let files ← (buffers.filter (·.path != current.path)).mapM Buffer.read
  return files.filter (·.packageName == name)

section Related

variable {current buffer : Buffer} {own : SourceFile}

theorem related_append (name : String) (first second : List Buffer) :
    related current name (first ++ second) = do
      let files ← related current name first
      let others ← related current name second
      return files ++ others := by
  unfold related
  rw [List.filter_append, List.mapM_append]
  cases (first.filter (·.path != current.path)).mapM Buffer.read with
  | error error => rfl
  | ok files =>
    cases (second.filter (·.path != current.path)).mapM Buffer.read with
    | error error => rfl
    | ok others => simp [bind, Except.bind, pure, Except.pure]

theorem related_of_copy (name : String) (same : buffer.path = current.path) :
    related current name [buffer] = .ok [] := by
  have left : [buffer].filter (·.path != current.path) = [] := by simp [same]
  rw [related, left]
  rfl

/-- An irrelevant buffer is left out, or can be read and is no source of the package. -/
theorem related_of_irrelevant (irrelevant : Irrelevant current buffer)
    (reads : current.read = .ok own) : related current own.packageName [buffer] = .ok [] := by
  cases irrelevant with
  | copy same => exact related_of_copy own.packageName same
  | foreign file readable differs =>
    by_cases same : buffer.path = current.path
    · exact related_of_copy own.packageName same
    have kept : [buffer].filter (·.path != current.path) = [buffer] := by simp [same]
    have single : [buffer].mapM Buffer.read = .ok [file] := mapM_eq_ok_iff.2 (.cons readable .nil)
    have other : [file].filter (·.packageName == own.packageName) = [] := by
      simpa using differs own reads
    rw [related, kept, single]
    exact congrArg Except.ok other

theorem related_insert (irrelevant : Irrelevant current buffer) (reads : current.read = .ok own)
    (before after : List Buffer) :
    related current own.packageName (before ++ buffer :: after) =
      related current own.packageName (before ++ after) := by
  have alone := related_of_irrelevant irrelevant reads
  rw [List.append_cons, related_append, related_append, alone, related_append]
  cases related current own.packageName before <;> simp [bind, Except.bind, pure, Except.pure]

/-- An irrelevant buffer can be taken out at one place and put in at the next one. -/
theorem related_exchange (irrelevant : Irrelevant current buffer) (reads : current.read = .ok own)
    (before after : List Buffer) (other : Buffer) :
    related current own.packageName (before ++ buffer :: other :: after) =
      related current own.packageName (before ++ other :: buffer :: after) := by
  have put := related_insert irrelevant reads (before ++ [other]) after
  rw [← List.append_cons, ← List.append_cons] at put
  rw [put, related_insert irrelevant reads]

/-- Changes in irrelevant buffers leave the sources of the package as they are. -/
theorem SameRelevant.related {buffers buffers' : List Buffer}
    (same : SameRelevant current buffers buffers') (reads : current.read = .ok own) :
    Service.related current own.packageName buffers' =
      Service.related current own.packageName buffers := by
  induction same with
  | refl buffers => rfl
  | trans _ _ before after => rw [after, before]
  | insert before after opened => exact related_insert opened reads before after
  | remove before after closed => exact (related_insert closed reads before after).symm
  | exchange before after moved =>
    rcases moved with moved | moved
    · exact (related_exchange moved reads before after _).symm
    · exact related_exchange moved reads before after _

end Related

namespace BufferRequest

/-- The open buffers that are read besides the current one. -/
def otherSources (request : BufferRequest) : List Buffer :=
  request.others.filter (·.path != request.current.path)

/-- The buffers that are read for a request, the current one first. -/
def sources (request : BufferRequest) : List Buffer :=
  request.current :: request.otherSources

variable {request : BufferRequest}

end BufferRequest

end Relevance

/-- The file that is read from a buffer. -/
def Buffer.file (buffer : Buffer) : SourceFile :=
  fileOf buffer.path buffer.content.toUTF8

end SliceGuard.Service
