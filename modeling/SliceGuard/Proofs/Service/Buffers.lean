import Mathlib.Data.List.Perm.Basic
import SliceGuard.Proofs.Check.FileOrder
import SliceGuard.Proofs.Packages.ExternalTests
import SliceGuard.Proofs.Packages.FileSystem
import SliceGuard.Proofs.Service.Requests

/-!
# Buffers and directories

An editor that has all sources of a directory open gets the same diagnostics for a buffer as a
client that asks for the directory on disk.  The buffers may be in any order, because every file of
a package is reported alike in any order of its files, and the paths of the sources of a directory
tell its files apart.
-/

namespace SliceGuard

open Declarations (Index)
open Syntax (Recovery)

/-- What is saved at a path gives a file. -/
def Gives (saved : String × Packages.Contents) (file : SourceFile) : Prop :=
  ∃ bytes, saved.2 = .ok bytes ∧ SourceFile.parse? saved.1 bytes = some file

/-- Files have the paths at which they were saved. -/
theorem map_path_of_gives {saved : List (String × Packages.Contents)} {files : List SourceFile}
    (gives : List.Forall₂ Gives saved files) : files.map SourceFile.path = saved.map Prod.fst := by
  induction gives with
  | nil => rfl
  | cons here _ ih =>
    obtain ⟨bytes, _, parses⟩ := here
    rw [List.map_cons, List.map_cons, SourceFile.path_of_parse parses, ih]

namespace Check

/-- Diagnostics are about the file that they are found in. -/
theorem file_of_mem_fileDiagnostics {index : Index} {file : SourceFile} {diagnostic : Diagnostic}
    (reported : diagnostic ∈ fileDiagnostics index file) : diagnostic.file = file.path := by
  obtain ⟨access, _, rfl⟩ := List.mem_map.1 reported
  rfl

/-- What is reported for a file is picked out of the reports of its package by the path, if no other
file has the same path. -/
theorem filter_diagnosticsWith_of_split {index : Index} {package : Package} {file : SourceFile}
    (before after : List SourceFile) (split : package.files = before ++ file :: after)
    (earlier : ∀ other ∈ before, other.path ≠ file.path)
    (later : ∀ other ∈ after, other.path ≠ file.path) :
    (diagnosticsWith index package).filter (·.file == file.path) = fileDiagnostics index file := by
  have own : (fileDiagnostics index file).filter (·.file == file.path) =
      fileDiagnostics index file := by
    rw [List.filter_eq_self]
    intro diagnostic reported
    rw [file_of_mem_fileDiagnostics reported]
    exact beq_self_eq_true file.path
  have others {part : List SourceFile} (differ : ∀ other ∈ part, other.path ≠ file.path) :
      (part.flatMap (fileDiagnostics index)).filter (·.file == file.path) = [] := by
    rw [List.filter_eq_nil_iff]
    intro diagnostic reported
    obtain ⟨other, listed, here⟩ := List.mem_flatMap.1 reported
    rw [file_of_mem_fileDiagnostics here]
    simpa using differ other listed
  rw [diagnosticsWith, split, List.flatMap_append, List.flatMap_cons, List.filter_append,
    List.filter_append, others earlier, own, others later, List.nil_append, List.append_nil]

/-- Where the files of a package are told apart by their paths, so are their reports. -/
theorem filter_diagnosticsWith {index : Index} {package : Package} {file : SourceFile}
    (apart : (package.files.map SourceFile.path).Nodup) (mem : file ∈ package.files) :
    (diagnosticsWith index package).filter (·.file == file.path) = fileDiagnostics index file := by
  obtain ⟨before, after, split⟩ := List.append_of_mem mem
  rw [split, List.map_append, List.map_cons, List.nodup_middle, List.nodup_cons, List.mem_append,
    not_or] at apart
  refine filter_diagnosticsWith_of_split before after split ?_ ?_
  · intro other listed same
    exact apart.1.1 (same ▸ List.mem_map_of_mem listed)
  · intro other listed same
    exact apart.1.2 (same ▸ List.mem_map_of_mem listed)

end Check

namespace Packages

/-- The sources of a directory are told apart by the texts of their paths. -/
theorem nodup_directorySources {entries : List Entry} (apart : (entries.map Entry.name).Nodup)
    (withTests : Bool) (path : Path) :
    ((directorySources withTests path entries).map fun source => source.1.text).Nodup := by
  rw [List.Nodup, List.pairwise_map]
  refine (selects_directorySources apart).ordered.imp_of_mem
    fun {earlier later} mem mem' before same => ?_
  obtain ⟨name, contents, _, _, rfl⟩ := mem_directorySources_iff.1 mem
  obtain ⟨name', contents', _, _, rfl⟩ := mem_directorySources_iff.1 mem'
  rw [Path.name_child, Path.name_child, Path.text_child_inj.1 same] at before
  exact lt_irrefl _ before

theorem readSource_eq_ok_iff [Recovery] {source : Source} {file : SourceFile} :
    readSource source = .ok file ↔ Gives (source.1.text, source.2) file := by
  obtain ⟨path, contents⟩ := source
  cases contents with
  | error reason => simp [readSource, Gives]
  | ok bytes => simp [readSource_ok, SourceFile.read_eq_ok_iff, Gives]

end Packages

namespace Service

open Packages

/-- What is on disk when a buffer is saved. -/
def Buffer.saved (buffer : Buffer) : String × Contents :=
  (buffer.path, .ok buffer.content.toUTF8)

/-- The text of a normal path is resolved to the path. -/
theorem resolve_text {system : FileSystem} {directory : Path} (normal : directory.IsNormal) :
    system.resolve (Path.ofText directory.text) = directory := by
  rw [FileSystem.resolve, normal.ofText_text, normal.resolve_eq]

section Reading

variable [Recovery]

theorem Buffer.read_eq_ok_iff {buffer : Buffer} {file : SourceFile} :
    buffer.read = .ok file ↔ Gives buffer.saved file := by
  simp [Buffer.read, SourceFile.read_eq_ok_iff, Gives, Buffer.saved]

/-- The package of a buffer has the sources of its package among the open buffers with other paths,
all of which are read. -/
theorem BufferRequest.package_of_reads {request : BufferRequest} {file : SourceFile}
    {others : List SourceFile} (current : request.current.read = .ok file)
    (rest : List.Forall₂ (fun buffer other => buffer.read = .ok other)
      (request.others.filter (·.path != request.current.path)) others) :
    request.package = .ok
      { name := file.packageName
        directory := (Path.ofText request.current.path).parent.text
        files := file :: others.filter (·.packageName == file.packageName) } := by
  unfold package
  rw [current, mapM_eq_ok_iff.2 rest]
  rfl

/-- The package of buffers with different paths, of which all can be read and belong to one
package. -/
theorem BufferRequest.package_eq {request : BufferRequest} {file : SourceFile}
    {others : List SourceFile} (current : request.current.read = .ok file)
    (rest : List.Forall₂ (fun buffer other => buffer.read = .ok other) request.others others)
    (apart : ∀ buffer ∈ request.others, buffer.path ≠ request.current.path)
    (one : ∀ other ∈ others, other.packageName = file.packageName) :
    ∃ package, request.package = .ok package ∧ package.files = file :: others := by
  have all : request.others.filter (·.path != request.current.path) = request.others := by
    rw [List.filter_eq_self]
    intro buffer mem
    simpa using apart buffer mem
  have related : others.filter (·.packageName == file.packageName) = others := by
    rw [List.filter_eq_self]
    intro other mem
    simpa using one other mem
  refine ⟨_, BufferRequest.package_of_reads current (all.symm ▸ rest), ?_⟩
  dsimp only
  rw [related]

/-- The reply for buffers whose package can be read. -/
theorem BufferRequest.diagnostics?_reply {request : BufferRequest} {package : Package}
    (reads : request.package = .ok package) :
    request.reply.diagnostics? =
      some (((Check.diagnostics package).filter (·.file == request.current.path)).map
        diagnosticJson) := by
  have found : request.diagnostics =
      .ok ((Check.diagnostics package).filter (·.file == request.current.path)) := by
    rw [diagnostics, reads]
    rfl
  rw [reply, found]
  rfl

/-- The reply for a directory that can be loaded. -/
theorem PackageRequest.diagnostics?_reply {system : FileSystem} {directory : Path}
    (normal : directory.IsNormal) (there : system.isDirectory directory = true) {withTests : Bool}
    {package : Package} (loads : loadPackage system directory.text withTests = .ok package) :
    (reply system ⟨directory.text, withTests⟩).diagnostics? =
      some ((Check.diagnostics package).map diagnosticJson) := by
  unfold reply
  simp only [resolve_text normal, there, loads]
  rfl

/-- For a buffer of an editor that has all sources of a directory open, in any order, the same
diagnostics are returned as for the file when the directory is analyzed with its tests. -/
theorem buffers_agree_with_directory {system : FileSystem} (wellFormed : system.WellFormed)
    {directory : Path} (normal : directory.IsNormal) {name : String} {entries : List Entry}
    (found : system.get? directory = some (.directory name entries)) {buffers : BufferRequest}
    (saved : ((buffers.current :: buffers.others).map Buffer.saved).Perm
      ((directorySources true directory entries).map fun source => (source.1.text, source.2)))
    {files : List SourceFile}
    (reads : List.Forall₂ (fun source file => readSource source = .ok file)
      (directorySources true directory entries) files)
    {package : String} (one : ∀ file ∈ files, file.packageName = package)
    (apart : Check.DeclaredApart files) :
    ∃ returned,
      (respond system (PackageRequest.posted ⟨directory.text, true⟩)).diagnostics? =
          some returned ∧
        (respond system buffers.posted).diagnostics? =
          some (returned.filter (isAbout buffers.current.path)) := by
  -- Sources and buffers are read alike, so the files of both packages are in different orders.
  have onDisk : List.Forall₂ Gives
      ((directorySources true directory entries).map fun source => (source.1.text, source.2))
      files := by
    simpa only [List.forall₂_map_left_iff, readSource_eq_ok_iff] using reads
  obtain ⟨files', inBuffers, order⟩ := List.perm_comp_forall₂ saved onDisk
  rw [List.map_cons, List.forall₂_cons_left_iff] at inBuffers
  obtain ⟨file, others, current, rest, rfl⟩ := inBuffers
  simp only [List.forall₂_map_left_iff, ← Buffer.read_eq_ok_iff] at current rest
  have ownPath : file.path = buffers.current.path := SourceFile.path_of_read current
  have sourcePaths := nodup_directorySources (wellFormed.get? found).apart true directory
  have filePaths : (files.map SourceFile.path).Nodup := by
    rw [map_path_of_gives onDisk, List.map_map]
    exact sourcePaths
  have bufferPaths : ((buffers.current :: buffers.others).map Buffer.path).Nodup := by
    have texts := (saved.map Prod.fst).nodup_iff.2 (by rw [List.map_map]; exact sourcePaths)
    rwa [List.map_map] at texts
  have inside : file ∈ files := order.mem_iff.1 List.mem_cons_self
  obtain ⟨part, packaged, partFiles⟩ : ∃ part, buffers.package = .ok part ∧
      part.files = file :: others := by
    refine BufferRequest.package_eq current rest ?_ ?_
    · intro buffer mem same
      rw [List.map_cons, List.nodup_cons, ← same] at bufferPaths
      exact bufferPaths.1 (List.mem_map_of_mem mem)
    · intro other mem
      rw [one other (order.mem_iff.1 (List.mem_cons_of_mem _ mem)), one file inside]
  have there : system.isDirectory directory = true := by
    rw [FileSystem.isDirectory, found]
    rfl
  have loads : loadPackage system directory.text true =
      .ok ⟨packageName directory files, directory.text, files⟩ := by
    have read := normal.ofText_text
    rw [← read] at found reads
    refine (loadPackage_eq_ok_iff found).2 ⟨?_, reads, by rw [read], by rw [read]⟩
    rintro none
    rw [none, List.forall₂_nil_left_iff] at reads
    rw [reads] at inside
    cases inside
  refine ⟨(Check.diagnostics ⟨packageName directory files, directory.text, files⟩).map
    diagnosticJson, ?_, ?_⟩
  · rw [PackageRequest.respond_posted]
    exact PackageRequest.diagnostics?_reply normal there loads
  · have alike := Check.fileDiagnostics_of_order order apart inside
    have inPart : (Check.diagnostics part).filter (·.file == file.path) =
        Check.fileDiagnostics (Index.ofFiles part.files) file := by
      refine Check.filter_diagnosticsWith ?_ ?_
      · rw [partFiles]
        exact (order.map SourceFile.path).nodup_iff.2 filePaths
      · rw [partFiles]
        exact List.mem_cons_self
    rw [BufferRequest.respond_posted, BufferRequest.diagnostics?_reply packaged, filter_isAbout,
      ← ownPath, inPart, partFiles, alike, Check.diagnostics,
      Check.filter_diagnosticsWith filePaths inside]

end Reading

/-- Two buffers of one package; the current one uses a variable of the other. -/
def usingBuffers : BufferRequest where
  current := ⟨"package p\nfunc f() int \x7b return x[0] + x[1] \x7d\n", "/d/b.go"⟩
  others := [⟨"package p\nvar x []int\nfunc g() int \x7b return x[2] \x7d\n", "/d/a.go"⟩]

def usingEntries : List Entry :=
  (usingBuffers.others ++ [usingBuffers.current]).map fun buffer =>
    .file (Path.ofText buffer.path).name (.ok buffer.content.toUTF8)

/-- A file system with both buffers saved in one directory. -/
def usingSystem : FileSystem where
  root := .directory "" [.directory "d" usingEntries]
  working := []

theorem wellFormed_usingSystem : usingSystem.WellFormed where
  root := by
    have names : ∀ entry ∈ usingEntries, Path.IsEntryName entry.name := by decide +kernel
    have files : ∀ entry ∈ usingEntries, entry.WellFormed := by
      simpa [usingEntries, usingBuffers] using ⟨.file _ _, .file _ _⟩
    have inner : (Entry.directory "d" usingEntries).WellFormed :=
      .directory (by decide +kernel) names files
    exact .directory (by decide) (by simpa [Entry.name] using by decide) (by simpa using inner)
  working := by simp [usingSystem]

theorem directorySources_usingEntries :
    directorySources true ⟨"/", ["d"]⟩ usingEntries =
      (usingBuffers.others ++ [usingBuffers.current]).map fun buffer =>
        (Path.ofText buffer.path, .ok buffer.content.toUTF8) := by
  have chosen : usingEntries.filter (isSource true) = usingEntries :=
    List.filter_eq_self.2 (by decide +kernel)
  rw [directorySources_of_perm (.of_eq chosen) (by decide +kernel)]
  decide +kernel

def usingFiles : List SourceFile :=
  (usingBuffers.others ++ [usingBuffers.current]).map fun buffer =>
    fileOf buffer.path buffer.content.toUTF8

theorem usingSystem_agrees :
    letI := Recovery.whole
    Check.DeclaredApart usingFiles ∧
      ∃ returned, (respond usingSystem (PackageRequest.posted ⟨"/d", true⟩)).diagnostics? =
          some returned ∧
        (respond usingSystem usingBuffers.posted).diagnostics? =
          some (returned.filter (isAbout "/d/b.go")) := by
  let := Recovery.whole
  have apart : Check.DeclaredApart usingFiles := by decide +kernel
  have normal : Path.IsNormal ⟨"/", ["d"]⟩ := ⟨rfl, by simpa using by decide⟩
  have one : ∀ file ∈ usingFiles, file.packageName = "p" := by decide +kernel
  have reads : List.Forall₂ (fun source file => readSource source = .ok file)
      (directorySources true ⟨"/", ["d"]⟩ usingEntries) usingFiles := by
    rw [directorySources_usingEntries]
    exact .cons (read_eq_fileOf (by decide +kernel))
      (.cons (read_eq_fileOf (by decide +kernel)) .nil)
  have saved : ((usingBuffers.current :: usingBuffers.others).map Buffer.saved).Perm
      ((directorySources true ⟨"/", ["d"]⟩ usingEntries).map
        fun source => (source.1.text, source.2)) := by
    rw [directorySources_usingEntries]
    exact .swap _ _ _
  exact ⟨apart,
    buffers_agree_with_directory wellFormed_usingSystem normal rfl saved reads one apart⟩

end Service

end SliceGuard
