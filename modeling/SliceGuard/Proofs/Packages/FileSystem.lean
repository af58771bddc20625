import Mathlib.Data.List.Nodup
import SliceGuard.Proofs.Packages.Paths

/-!
# Well-formed file systems

In a well-formed file system the entries of a directory have different names, all of which a path
can lead to.  Every file system that is built from an empty one by writing, making directories and
removing is of this kind.  In such a file system a path leads to each entry of a directory.
-/

namespace SliceGuard.Packages

open SliceGuard.Packages.Path (IsEntryName)

namespace Entry

/-- A tree in which the entries of a directory are told apart by their names. -/
inductive WellFormed : Entry → Prop where
  | file (name : String) (contents : Contents) : WellFormed (file name contents)
  | directory {name : String} {entries : List Entry} (apart : (entries.map Entry.name).Nodup)
      (named : ∀ entry ∈ entries, IsEntryName entry.name)
      (inner : ∀ entry ∈ entries, WellFormed entry) : WellFormed (directory name entries)

theorem wellFormed_nil (name : String) : (directory name []).WellFormed :=
  .directory List.nodup_nil (by simp) (by simp)

theorem name_of_child? {entry inner : Entry} {name : String}
    (found : entry.child? name = some inner) : inner.name = name := by
  have named := List.find?_some found
  exact beq_iff_eq.1 named

namespace WellFormed

variable {entry : Entry}

theorem apart (wellFormed : entry.WellFormed) : (entry.entries.map Entry.name).Nodup := by
  cases wellFormed with
  | file => exact List.nodup_nil
  | directory apart => exact apart

theorem named (wellFormed : entry.WellFormed) :
    ∀ inner ∈ entry.entries, IsEntryName inner.name := by
  cases wellFormed with
  | file => intro inner mem; cases mem
  | directory _ named => exact named

theorem inner (wellFormed : entry.WellFormed) : ∀ inner ∈ entry.entries, inner.WellFormed := by
  cases wellFormed with
  | file => intro inner mem; cases mem
  | directory _ _ inner => exact inner

theorem child? (wellFormed : entry.WellFormed) {name : String} {inner : Entry}
    (found : entry.child? name = some inner) : inner.WellFormed :=
  wellFormed.inner inner (List.mem_of_find?_eq_some found)

/-- Each entry of a directory is found under its name. -/
theorem child?_of_mem (wellFormed : entry.WellFormed) {inner : Entry}
    (mem : inner ∈ entry.entries) : entry.child? inner.name = some inner := by
  have known : (entry.child? inner.name).isSome = true :=
    List.find?_isSome.2 ⟨inner, mem, beq_self_eq_true inner.name⟩
  obtain ⟨other, found⟩ := Option.isSome_iff_exists.1 known
  have same : other = inner := List.inj_on_of_nodup_map wellFormed.apart
    (List.mem_of_find?_eq_some found) mem (name_of_child? found)
  rw [found, same]

theorem others (wellFormed : entry.WellFormed) (name outer : String) :
    (Entry.directory outer (entry.others name)).WellFormed := by
  have kept : ∀ inner ∈ entry.others name, inner ∈ entry.entries := by
    intro inner mem
    exact (List.mem_filter.1 mem).1
  exact directory (wellFormed.apart.sublist (List.filter_sublist.map Entry.name))
    (fun inner mem => wellFormed.named inner (kept inner mem))
    (fun inner mem => wellFormed.inner inner (kept inner mem))

/-- A new entry in the place of the one with its name. -/
theorem replace (wellFormed : entry.WellFormed) {new : Entry} (valid : IsEntryName new.name)
    (newFormed : new.WellFormed) (outer : String) :
    (Entry.directory outer (entry.others new.name ++ [new])).WellFormed := by
  have rest := wellFormed.others new.name outer
  have fresh : new.name ∉ (entry.others new.name).map Entry.name := by
    rw [List.mem_map]
    rintro ⟨inner, mem, same⟩
    simp [Entry.others, same] at mem
  refine .directory ?_ ?_ ?_
  · rw [List.map_append, List.map_singleton]
    exact (List.nodup_append_comm.1 (List.nodup_cons.2 ⟨fresh, rest.apart⟩))
  · intro inner mem
    rcases List.mem_append.1 mem with old | isNew
    · exact rest.named inner old
    · rw [List.mem_singleton.1 isNew]
      exact valid
  · intro inner mem
    rcases List.mem_append.1 mem with old | isNew
    · exact rest.inner inner old
    · rw [List.mem_singleton.1 isNew]
      exact newFormed

/-- What stands under a name, or else an empty directory. -/
theorem childOrEmpty (wellFormed : entry.WellFormed) (name : String) :
    ((entry.child? name).getD (.directory name [])).WellFormed ∧
      ((entry.child? name).getD (.directory name [])).name = name := by
  cases found : entry.child? name with
  | none => exact ⟨wellFormed_nil name, rfl⟩
  | some inner => exact ⟨wellFormed.child? found, name_of_child? found⟩

end WellFormed

theorem name_put (new : String → Entry) (entry : Entry) (names : List String) :
    (put new entry names).name = entry.name := by
  fun_cases put new entry names <;> rfl

theorem name_makeDirectory (entry : Entry) (names : List String) :
    (entry.makeDirectory names).name = entry.name := by
  fun_cases makeDirectory entry names <;> rfl

theorem name_remove (entry : Entry) (names : List String) :
    (entry.remove names).name = entry.name := by
  fun_cases remove entry names <;> rfl

namespace WellFormed

variable {entry : Entry} {names : List String}

theorem put (wellFormed : entry.WellFormed) (valid : ∀ name ∈ names, IsEntryName name)
    {new : String → Entry} (named : ∀ name, (new name).name = name)
    (newFormed : ∀ name, (new name).WellFormed) : (entry.put new names).WellFormed := by
  fun_induction Entry.put new entry names with
  | case1 => exact wellFormed
  | case2 entry last =>
    have here := fun isName => wellFormed.replace isName (newFormed last) entry.name
    rw [named last] at here
    exact here (valid last List.mem_cons_self)
  | case3 entry next rest _ below ih =>
    obtain ⟨belowFormed, belowName⟩ := wellFormed.childOrEmpty next
    have here := ih belowFormed fun name mem => valid name (List.mem_cons_of_mem _ mem)
    have outer := fun isName => wellFormed.replace isName here entry.name
    rw [name_put, belowName] at outer
    exact outer (valid next List.mem_cons_self)

theorem makeDirectory (wellFormed : entry.WellFormed) (valid : ∀ name ∈ names, IsEntryName name) :
    (entry.makeDirectory names).WellFormed := by
  fun_induction Entry.makeDirectory entry names with
  | case1 => exact wellFormed
  | case2 entry next rest below ih =>
    obtain ⟨belowFormed, belowName⟩ := wellFormed.childOrEmpty next
    have here := ih belowFormed fun name mem => valid name (List.mem_cons_of_mem _ mem)
    have outer := fun isName => wellFormed.replace isName here entry.name
    rw [name_makeDirectory, belowName] at outer
    exact outer (valid next List.mem_cons_self)

theorem remove (wellFormed : entry.WellFormed) (valid : ∀ name ∈ names, IsEntryName name) :
    (entry.remove names).WellFormed := by
  fun_induction Entry.remove entry names with
  | case1 => exact wellFormed
  | case2 entry last => exact wellFormed.others last entry.name
  | case3 entry next rest _ below found ih =>
    have here := ih (wellFormed.child? found) fun name mem =>
      valid name (List.mem_cons_of_mem _ mem)
    have outer := fun isName => wellFormed.replace isName here entry.name
    rw [name_remove, name_of_child? found] at outer
    exact outer (valid next List.mem_cons_self)
  | case4 => exact wellFormed

end WellFormed

/-- Names are followed one after the other. -/
theorem follow_append (way : List Entry) (names more : List String) :
    follow way (names ++ more) = (follow way names).bind (follow · more) := by
  fun_induction follow way names with
  | case1 => rfl
  | case2 names => cases names <;> simp_all [follow]
  | case3 here back name rest file => simp [follow, file]
  | case4 here back name rest _ dots ih => simp_all [follow]
  | case5 here back name rest _ _ next found ih => simp_all [follow]
  | case6 here back name rest _ _ found => simp_all [follow]

/-- All that is passed on the way from a well-formed tree is well-formed. -/
theorem wellFormed_of_follow {way passed : List Entry} {names : List String}
    (leads : follow way names = some passed) (wellFormed : ∀ entry ∈ way, entry.WellFormed) :
    ∀ entry ∈ passed, entry.WellFormed := by
  fun_induction follow way names with
  | case1 way =>
    rw [← Option.some.inj leads]
    exact wellFormed
  | case2 | case3 | case6 => cases leads
  | case4 here back name rest _ _ ih =>
    refine ih leads fun entry mem => wellFormed entry ?_
    split at mem
    · exact mem
    · exact List.mem_cons_of_mem _ mem
  | case5 here back name rest _ _ next found ih =>
    refine ih leads fun entry mem => ?_
    rcases List.mem_cons.1 mem with rfl | old
    · exact (wellFormed here List.mem_cons_self).child? found
    · exact wellFormed entry old

end Entry

namespace FileSystem

/-- A file system whose tree is well-formed, with a working directory that can be led to. -/
structure WellFormed (system : FileSystem) : Prop where
  root : system.root.WellFormed
  working : ∀ name ∈ system.working, IsEntryName name

variable {system : FileSystem} {path : Path}

theorem get?_eq_some_iff {entry : Entry} :
    system.get? path = some entry ↔
      ∃ back, Entry.follow [system.root]
        (if path.isAbsolute then path.names else system.working ++ path.names) =
          some (entry :: back) := by
  rw [get?, Option.bind_eq_bind, Option.bind_eq_some_iff]
  constructor
  · rintro ⟨way, leads, first⟩
    obtain ⟨back, rfl⟩ := List.head?_eq_some_iff.1 first
    exact ⟨back, leads⟩
  · rintro ⟨back, leads⟩
    exact ⟨entry :: back, leads, rfl⟩

theorem WellFormed.get? (wellFormed : system.WellFormed) {entry : Entry}
    (found : system.get? path = some entry) : entry.WellFormed := by
  obtain ⟨back, leads⟩ := get?_eq_some_iff.1 found
  refine Entry.wellFormed_of_follow leads ?_ entry List.mem_cons_self
  intro root mem
  rw [List.mem_singleton.1 mem]
  exact wellFormed.root

/-- One name further from a directory is the entry of that name. -/
theorem get?_child {outer name : String} {entries : List Entry}
    (found : system.get? path = some (.directory outer entries)) (noDots : name ≠ "..")
    {entry : Entry} (inside : (Entry.directory outer entries).child? name = some entry) :
    system.get? (path.child name) = some entry := by
  obtain ⟨back, leads⟩ := get?_eq_some_iff.1 found
  have names : (if (path.child name).isAbsolute then (path.child name).names
      else system.working ++ (path.child name).names) =
        (if path.isAbsolute then path.names else system.working ++ path.names) ++ [name] := by
    by_cases absolute : path.isAbsolute = true <;> simp_all [Path.child, Path.isAbsolute]
  refine get?_eq_some_iff.2 ⟨.directory outer entries :: back, ?_⟩
  rw [names, Entry.follow_append, leads]
  simp [Entry.follow, Entry.isDirectory, noDots, inside]

/-- A path leads to each entry of a directory. -/
theorem WellFormed.get?_of_mem (wellFormed : system.WellFormed) {outer : String}
    {entries : List Entry} (found : system.get? path = some (.directory outer entries))
    {entry : Entry} (mem : entry ∈ entries) : system.get? (path.child entry.name) = some entry := by
  have here := wellFormed.get? found
  exact get?_child found (here.named entry mem).noDots (here.child?_of_mem mem)

end FileSystem

namespace Path

/-- The names of a text are names of entries, or two dots. -/
theorem isEntryName_of_mem_ofText {text name : String} (mem : name ∈ (ofText text).names)
    (noDots : name ≠ "..") : IsEntryName name := by
  have noSlash (chars : List Char) : ∀ piece ∈ pieces chars, '/' ∉ piece := by
    fun_induction pieces chars with
    | case1 => simp
    | case2 rest ih => simpa using ih
    | case3 c rest other none => simp_all [pieces_ne_nil]
    | case4 c rest other first others cut ih =>
      rw [cut] at ih
      simpa [Ne.symm other] using ih
  simp only [ofText, List.mem_map, List.mem_filter] at mem
  obtain ⟨piece, ⟨isPiece, names⟩, rfl⟩ := mem
  simp only [isName, Bool.and_eq_true, Bool.not_eq_true', List.isEmpty_eq_false_iff,
    bne_iff_ne] at names
  refine ⟨?_, ?_, ?_, noDots⟩
  · intro empty
    exact names.1 (by simpa using congrArg String.toList empty)
  · simpa using noSlash _ piece isPiece
  · intro dot
    exact names.2 (by simpa using congrArg String.toList dot)

/-- Two dots are carried out in a resolved path. -/
theorem isEntryName_of_mem_resolve {working : List String} {text name : String}
    (valid : ∀ name ∈ working, IsEntryName name)
    (mem : name ∈ (resolve working (ofText text)).names) : IsEntryName name := by
  have kept (names taken : List String) (each : ∀ name ∈ names, name ≠ ".." → IsEntryName name)
      (old : ∀ name ∈ taken, IsEntryName name) :
      ∀ name ∈ names.foldl (fun taken name => if name == ".." then taken.drop 1 else name :: taken)
        taken, IsEntryName name := by
    induction names generalizing taken with
    | nil => exact old
    | cons first names ih =>
      refine ih _ (fun name mem => each name (List.mem_cons_of_mem _ mem)) fun name mem => ?_
      dsimp only at mem
      split at mem
      · exact old name (List.mem_of_mem_drop mem)
      · rename_i noDots
        rcases List.mem_cons.1 mem with rfl | inside
        · exact each name List.mem_cons_self (by simpa using noDots)
        · exact old name inside
  have read : ∀ name ∈ (ofText text).names, name ≠ ".." → IsEntryName name :=
    fun name mem => isEntryName_of_mem_ofText mem
  simp only [resolve, normalize, List.mem_reverse] at mem
  refine kept _ [] ?_ (by simp) name mem
  intro name mem
  split at mem
  · exact read name mem
  · rcases List.mem_append.1 mem with outer | inner
    · exact fun _ => valid name outer
    · exact read name inner

end Path

namespace FileSystem

/-- A file system with nothing in it is well-formed. -/
theorem wellFormed_empty {working : List String} (valid : ∀ name ∈ working, IsEntryName name) :
    (empty working).WellFormed where
  root := (Entry.wellFormed_nil "").makeDirectory valid
  working := valid

namespace WellFormed

variable {system : FileSystem}

theorem write (wellFormed : system.WellFormed) (text : String) (contents : Contents) :
    (system.write (Path.ofText text) contents).WellFormed where
  root := wellFormed.root.put
    (fun _ mem => Path.isEntryName_of_mem_resolve wellFormed.working mem) (fun _ => rfl)
    (fun name => .file name contents)
  working := wellFormed.working

theorem makeDirectory (wellFormed : system.WellFormed) (text : String) :
    (system.makeDirectory (Path.ofText text)).WellFormed where
  root := wellFormed.root.makeDirectory
    fun _ mem => Path.isEntryName_of_mem_resolve wellFormed.working mem
  working := wellFormed.working

theorem remove (wellFormed : system.WellFormed) (text : String) :
    (system.remove (Path.ofText text)).WellFormed where
  root := wellFormed.root.remove
    fun _ mem => Path.isEntryName_of_mem_resolve wellFormed.working mem
  working := wellFormed.working

end WellFormed

end FileSystem

end SliceGuard.Packages
