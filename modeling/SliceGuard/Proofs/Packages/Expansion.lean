import Mathlib.Data.List.Sort
import SliceGuard.Proofs.Packages.FileSystem
import SliceGuard.Proofs.Packages.Lists

/-!
# The directories that patterns stand for

A recursive pattern starts at the directory in front of its slashes and dots, and stands for the
directories with named sources to which names lead from there, none of them passed over.  They come
in the lexicographic order of these names, which compare by their code points: a directory before
those below it, and those below one directory in the order of their names.  Patterns cannot be
expanded exactly if one of them starts at what is no directory.
-/

namespace SliceGuard.Packages

section Bases

/-- Slashes and nothing else. -/
def slashes (count : Nat) : String :=
  String.ofList (List.replicate count '/')

/-- The directory that a recursive pattern starts at, as it is written in front of the slashes and
the three dots. -/
inductive StartsAt : String → String → Prop
  /-- Three dots alone start at the working directory. -/
  | working : StartsAt "..." "."
  /-- Three dots after nothing but slashes start at the root. -/
  | root (more : Nat) : StartsAt (slashes (more + 1) ++ "...") "/"
  | below {base : String} (nonempty : base ≠ "") (trimmed : base.toList.getLast? ≠ some '/')
      (more : Nat) : StartsAt (base ++ slashes (more + 1) ++ "...") base

/-- Every text ends with some slashes, or none. -/
theorem exists_trimmed (text : String) :
    ∃ base count, text = base ++ slashes count ∧ base.toList.getLast? ≠ some '/' := by
  have split (chars : List Char) :
      ∃ base count, chars = base ++ List.replicate count '/' ∧ base.getLast? ≠ some '/' := by
    induction chars using List.reverseRecOn with
    | nil => exact ⟨[], 0, rfl, by simp⟩
    | append_singleton front last ih =>
      by_cases slash : last = '/'
      · obtain ⟨base, count, rfl, trimmed⟩ := ih
        exact ⟨base, count + 1, by simp [slash, List.replicate_succ'], trimmed⟩
      · exact ⟨front ++ [last], 0, by simp, by simpa using slash⟩
  obtain ⟨base, count, same, trimmed⟩ := split text.toList
  refine ⟨String.ofList base, count, ?_, by simpa using trimmed⟩
  rw [← String.toList_inj, String.toList_append, same]
  simp [slashes]

/-- What is left in front of the dots is taken without its slashes. -/
theorem patternBase_of_trimmed {base : String} (trimmed : base.toList.getLast? ≠ some '/')
    {count : Nat} (recursive : base = "" ∨ count ≠ 0) :
    patternBase (base ++ slashes count ++ "...") =
      some (if base ≠ "" then base else if count ≠ 0 then "/" else ".") := by
  have chars : (base ++ slashes count ++ "...").toList =
      base.toList ++ List.replicate count '/' ++ ['.', '.', '.'] := by
    simp [slashes]
  have stops : base.toList.reverse.dropWhile (· == '/') = base.toList.reverse := by
    rw [List.getLast?_eq_head?_reverse] at trimmed
    cases reversed : base.toList.reverse with
    | nil => rfl
    | cons last front =>
      rw [reversed] at trimmed
      exact List.dropWhile_cons_of_neg (by simpa using trimmed)
  have front : ((base ++ slashes count ++ "...").toList.take
      ((base ++ slashes count ++ "...").toList.length - 3)).reverse.dropWhile (· == '/') =
        base.toList.reverse := by
    rw [chars, List.take_left' (by simp; omega), List.reverse_append, List.reverse_replicate,
      List.dropWhile_append_of_pos (by simp), stops]
  have isRecursive : (base ++ slashes count ++ "..." == "..." ||
      ['/', '.', '.', '.'].isSuffixOf (base ++ slashes count ++ "...").toList) = true := by
    rw [Bool.or_eq_true, beq_iff_eq, List.isSuffixOf_iff_suffix, chars]
    rcases count with _ | more
    · obtain rfl : base = "" := by simpa using recursive
      exact .inl rfl
    · exact .inr ⟨base.toList ++ List.replicate more '/', by simp [List.replicate_succ']⟩
  unfold patternBase
  dsimp only
  rw [if_pos isRecursive, front, List.reverse_reverse, String.ofList_toList, chars]
  by_cases empty : base = ""
  · subst empty
    cases count <;> simp [List.replicate_succ]
  · simp [empty]

/-- A pattern starts where the function says. -/
theorem patternBase_eq_some_iff {pattern base : String} :
    patternBase pattern = some base ↔ StartsAt pattern base := by
  constructor
  · intro recursive
    have shape : pattern = "..." ∨ ['/', '.', '.', '.'] <:+ pattern.toList := by
      by_contra other
      rw [← List.isSuffixOf_iff_suffix, ← beq_iff_eq, ← Bool.or_eq_true] at other
      rw [patternBase, if_neg other] at recursive
      cases recursive
    rcases shape with rfl | ⟨front, ends⟩
    · rw [← Option.some.inj recursive]
      exact .working
    · obtain ⟨outer, count, same, trimmed⟩ := exists_trimmed (String.ofList (front ++ ['/']))
      have some : count ≠ 0 := by
        rintro rfl
        have whole := congrArg String.toList same
        simp [slashes] at whole
        simp [← whole] at trimmed
      obtain rfl : pattern = outer ++ slashes count ++ "..." := by
        rw [← same, ← String.toList_inj, ← ends]
        simp
      rw [patternBase_of_trimmed trimmed (.inr some), Option.some.injEq] at recursive
      obtain ⟨more, rfl⟩ := Nat.exists_eq_succ_of_ne_zero some
      split at recursive
      · rename_i nonempty
        exact recursive ▸ .below nonempty trimmed more
      · rename_i empty
        obtain rfl : outer = "" := by simpa using empty
        exact recursive ▸ .root more
  · intro starts
    cases starts with
    | working => exact @patternBase_of_trimmed "" (by simp) 0 (.inl rfl)
    | root more => exact @patternBase_of_trimmed "" (by simp) (more + 1) (.inl rfl)
    | below nonempty trimmed more =>
      rw [patternBase_of_trimmed trimmed (.inr (Nat.succ_ne_zero more)), if_pos nonempty]

end Bases

section Routes

/-- The names of directories that are not entered. -/
def PassedOver (name : String) : Prop :=
  name ∈ ["testdata", "vendor", "node_modules"] ∨ name.toList.head? = some '.' ∨
    name.toList.head? = some '_'

theorem isPassedOver_iff {name : String} : isPassedOver name = true ↔ PassedOver name := by
  have hidden (git : name = ".git") : name.toList.head? = some '.' := by
    rw [git]
    rfl
  simp only [isPassedOver, PassedOver, Bool.or_eq_true, List.contains_iff_mem, List.mem_cons,
    List.not_mem_nil, or_false, beq_iff_eq]
  tauto

theorem mem_inNameOrder {α : Type} {named : List (String × List α)} {x : α} :
    x ∈ inNameOrder named ↔ ∃ list ∈ named, x ∈ list.2 := by
  simp only [inNameOrder, List.mem_flatMap, List.mem_mergeSort]

/-- Two lists under the same names are put in the same order. -/
theorem inNameOrder_map {α β : Type} (f : α → β) (named : List (String × List α)) :
    inNameOrder (named.map fun under => (under.1, under.2.map f)) = (inNameOrder named).map f := by
  have sorted : (named.map fun under => (under.1, under.2.map f)).mergeSort
        (fun first second => decide (first.1 ≤ second.1)) =
      (named.mergeSort fun first second => decide (first.1 ≤ second.1)).map
        fun under => (under.1, under.2.map f) := by
    rw [List.map_mergeSort]
    exact fun _ _ _ _ => rfl
  rw [inNameOrder, sorted, List.flatMap_map, inNameOrder, List.map_flatMap]

/-- A file whose name ends like that of a source. -/
def isNamedSource (entry : Entry) : Bool :=
  !entry.isDirectory && ['.', 'g', 'o'].isSuffixOf entry.name.toList

/-- The text of a path after some more names, as it is written. -/
def joinedAll (text : String) (names : List String) : String :=
  names.foldl joined text

namespace Entry

/-- Names of directories, none of them passed over, lead from an entry to another one. -/
inductive Leads : Entry → List String → Entry → Prop
  | here (entry : Entry) : Leads entry [] entry
  | further {outer inner last : Entry} {names : List String} (mem : inner ∈ outer.entries)
      (isDirectory : inner.isDirectory = true) (kept : ¬ PassedOver inner.name)
      (rest : Leads inner names last) : Leads outer (inner.name :: names) last

/-- Whether a directory is entered from the one above. -/
def isEntered (entry : Entry) : Bool :=
  entry.isDirectory && !isPassedOver entry.name

theorem isEntered_iff {entry : Entry} :
    entry.isEntered = true ↔ entry.isDirectory = true ∧ ¬ PassedOver entry.name := by
  rw [isEntered, Bool.and_eq_true, Bool.not_eq_true', ← Bool.not_eq_true, isPassedOver_iff]

mutual

/-- The names that lead from an entry to the directories with named sources. -/
def routes : Entry → List (List String)
  | file _ _ => []
  | directory _ entries =>
    (if holdsSources entries then [[]] else []) ++ inNameOrder (routesBelow entries)

/-- The names that lead to directories with named sources, under the first of them. -/
def routesBelow : List Entry → List (String × List (List String))
  | [] => []
  | entry :: rest =>
    if entry.isEntered then
      (entry.name, entry.routes.map (entry.name :: ·)) :: routesBelow rest
    else routesBelow rest

end

mutual

/-- The walk yields the texts of the routes. -/
theorem sourceDirectories_eq (text : String) :
    (entry : Entry) → entry.sourceDirectories text = entry.routes.map (joinedAll text)
  | .file _ _ => by rw [sourceDirectories, routes, List.map_nil]
  | .directory name entries => by
    rw [sourceDirectories, routes, directoriesBelow_eq, inNameOrder_map, List.map_append]
    split <;> rfl

theorem directoriesBelow_eq (text : String) :
    (entries : List Entry) → directoriesBelow text entries =
      (routesBelow entries).map fun below => (below.1, below.2.map (joinedAll text))
  | [] => by rw [directoriesBelow, routesBelow, List.map_nil]
  | entry :: rest => by
    have here : (entry.name, entry.sourceDirectories (joined text entry.name)) =
        (entry.name, (entry.routes.map (entry.name :: ·)).map (joinedAll text)) := by
      rw [sourceDirectories_eq, List.map_map]
      rfl
    rw [directoriesBelow, routesBelow, directoriesBelow_eq text rest, here]
    change (if entry.isEntered = true then _ else _) = _
    split <;> rfl

end

theorem routesBelow_eq (entries : List Entry) :
    routesBelow entries = (entries.filter isEntered).map fun inner =>
      (inner.name, inner.routes.map (inner.name :: ·)) := by
  induction entries with
  | nil => rw [routesBelow, List.filter_nil, List.map_nil]
  | cons entry rest ih =>
    rw [routesBelow, ih]
    by_cases entered : entry.isEntered = true <;> simp [entered]

/-- A route stays where it is, or goes on in a directory that is entered. -/
theorem mem_routes_cases {entry : Entry} {names : List String} :
    names ∈ entry.routes ↔
      names = [] ∧ (∃ file ∈ entry.entries, isNamedSource file = true) ∨
        ∃ inner ∈ entry.entries, inner.isEntered = true ∧
          ∃ rest ∈ inner.routes, names = inner.name :: rest := by
  cases entry with
  | file name bytes => simp [routes, entries]
  | directory name inside =>
    have holds : holdsSources inside = true ↔ ∃ file ∈ inside, isNamedSource file = true :=
      List.any_eq_true
    have stays : names ∈ (if holdsSources inside = true then [[]] else []) ↔
        names = [] ∧ ∃ file ∈ inside, isNamedSource file = true := by
      rw [← holds]
      split <;> simp_all
    have goesOn : names ∈ inNameOrder (routesBelow inside) ↔ ∃ inner ∈ inside,
        inner.isEntered = true ∧ ∃ rest ∈ inner.routes, names = inner.name :: rest := by
      rw [mem_inNameOrder, routesBelow_eq]
      simp only [List.mem_map, List.mem_filter]
      constructor
      · rintro ⟨_, ⟨inner, ⟨mem, entered⟩, rfl⟩, listed⟩
        obtain ⟨rest, inRoutes, rfl⟩ := List.mem_map.1 listed
        exact ⟨inner, mem, entered, rest, inRoutes, rfl⟩
      · rintro ⟨inner, mem, entered, rest, inRoutes, rfl⟩
        exact ⟨_, ⟨inner, ⟨mem, entered⟩, rfl⟩, List.mem_map.2 ⟨rest, inRoutes, rfl⟩⟩
    rw [routes, List.mem_append, stays, goesOn]
    rfl

/-- Routes lead exactly to the directories with named sources. -/
theorem mem_routes_iff {entry : Entry} {names : List String} :
    names ∈ entry.routes ↔ ∃ last, entry.Leads names last ∧
      ∃ file ∈ last.entries, isNamedSource file = true := by
  induction names generalizing entry with
  | nil =>
    rw [mem_routes_cases]
    constructor
    · rintro (⟨_, holds⟩ | ⟨_, _, _, _, _, none⟩)
      · exact ⟨entry, .here entry, holds⟩
      · cases none
    · rintro ⟨last, leads, holds⟩
      cases leads
      exact .inl ⟨rfl, holds⟩
  | cons name names ih =>
    rw [mem_routes_cases]
    constructor
    · rintro (⟨none, _⟩ | ⟨inner, mem, entered, rest, inRoutes, same⟩)
      · cases none
      · obtain ⟨rfl, rfl⟩ := List.cons.inj same
        obtain ⟨last, leads, holds⟩ := ih.1 inRoutes
        obtain ⟨isDirectory, kept⟩ := isEntered_iff.1 entered
        exact ⟨last, .further mem isDirectory kept leads, holds⟩
    · rintro ⟨last, leads, holds⟩
      cases leads with
      | further mem isDirectory kept rest =>
        exact .inr ⟨_, mem, isEntered_iff.2 ⟨isDirectory, kept⟩, names, ih.2 ⟨last, rest, holds⟩,
          rfl⟩

/-- Routes are ordered, where entries are told apart by their names. -/
theorem WellFormed.routes_increase {entry : Entry} (wellFormed : entry.WellFormed) :
    entry.routes.Pairwise (· < ·) := by
  induction wellFormed with
  | file name bytes => simp [routes]
  | @directory name entries apart named inner ih =>
    have heads : ((routesBelow entries).map Prod.fst).Nodup := by
      have same : (routesBelow entries).map Prod.fst =
          (entries.filter isEntered).map Entry.name := by
        rw [routesBelow_eq, List.map_map]
        rfl
      rw [same]
      exact apart.sublist (List.filter_sublist.map Entry.name)
    have starts : ∀ below ∈ routesBelow entries, ∃ part ∈ entries,
        below = (part.name, part.routes.map (part.name :: ·)) := by
      rw [routesBelow_eq]
      intro below mem
      obtain ⟨part, inside, rfl⟩ := List.mem_map.1 mem
      exact ⟨part, (List.mem_filter.1 inside).1, rfl⟩
    rw [routes, List.pairwise_append]
    refine ⟨by split <;> simp, ?_, ?_⟩
    · rw [inNameOrder, List.pairwise_flatMap]
      constructor
      · intro below mem
        obtain ⟨part, inside, rfl⟩ := starts below (List.mem_mergeSort.1 mem)
        rw [List.pairwise_map]
        exact (ih part inside).imp fun before => List.cons_lt_cons_iff.2 (.inr ⟨rfl, before⟩)
      · refine (pairwise_lt_mergeSort heads).imp_of_mem fun {first second} memFirst memSecond
          before => ?_
        obtain ⟨earlier, _, rfl⟩ := starts first (List.mem_mergeSort.1 memFirst)
        obtain ⟨later, _, rfl⟩ := starts second (List.mem_mergeSort.1 memSecond)
        intro names mem others mem'
        obtain ⟨rest, _, rfl⟩ := List.mem_map.1 mem
        obtain ⟨rest', _, rfl⟩ := List.mem_map.1 mem'
        exact List.cons_lt_cons_iff.2 (.inl before)
    · intro here mem names below
      obtain rfl : here = [] := by
        split at mem <;> simp_all
      obtain ⟨under, listed, inside⟩ := mem_inNameOrder.1 below
      obtain ⟨part, _, rfl⟩ := starts under listed
      obtain ⟨rest, _, rfl⟩ := List.mem_map.1 inside
      exact List.nil_lt_cons _ _

variable {system : FileSystem} {start last : Entry} {names : List String}

/-- The names on the way are names of entries. -/
theorem WellFormed.isEntryName_of_leads (wellFormed : start.WellFormed)
    (leads : start.Leads names last) : ∀ name ∈ names, Path.IsEntryName name := by
  induction leads with
  | here => simp
  | further mem _ _ _ ih =>
    exact List.forall_mem_cons.2 ⟨wellFormed.named _ mem, ih (wellFormed.inner _ mem)⟩

end Entry

theorem joined_ne_empty (text : String) {name : String} (valid : Path.IsEntryName name) :
    joined text name ≠ "" := by
  unfold joined
  split <;> simp [valid.nonempty]

/-- A text leads on by the names that are joined to it. -/
theorem names_ofText_joinedAll {text : String} (nonempty : text ≠ "") {names : List String}
    (valid : ∀ name ∈ names, Path.IsEntryName name) :
    (Path.ofText (joinedAll text names)).names = (Path.ofText text).names ++ names := by
  induction names generalizing text with
  | nil => simp [joinedAll]
  | cons name names ih =>
    obtain ⟨here, rest⟩ := List.forall_mem_cons.1 valid
    have further := ih (joined_ne_empty text here) rest
    rw [Path.ofText_joined nonempty here] at further
    simpa [joinedAll, Path.child] using further

/-- The text of a route leads where its names lead. -/
theorem FileSystem.WellFormed.get?_of_leads {system : FileSystem} (wellFormed : system.WellFormed)
    {start last : Entry} {names : List String} (leads : start.Leads names last) {text : String}
    (nonempty : text ≠ "") (found : system.get? (Path.ofText text) = some start) :
    system.get? (Path.ofText (joinedAll text names)) = some last := by
  induction leads generalizing text with
  | here => exact found
  | @further outer inner last names mem isDirectory kept rest ih =>
    have valid := (wellFormed.get? found).named inner mem
    apply ih (joined_ne_empty text valid)
    rw [Path.ofText_joined nonempty valid]
    cases outer with
    | file => cases mem
    | directory name entries => exact wellFormed.get?_of_mem found mem

end Routes

section Patterns

variable {system : FileSystem} {pattern base : String}

/-- What a pattern stands for: itself, or the directories with named sources to which names lead
from where it starts, in the lexicographic order of these names. -/
inductive Expands (system : FileSystem) : String → List String → Prop
  | plain {pattern : String} (single : ∀ base, ¬ StartsAt pattern base) :
      Expands system pattern [pattern]
  | recursive {pattern base : String} {start : Entry} {routes : List (List String)}
      (starts : StartsAt pattern base) (found : system.get? (Path.ofText base) = some start)
      (isDirectory : start.isDirectory = true)
      (complete : ∀ names, names ∈ routes ↔ ∃ last, start.Leads names last ∧
        ∃ file ∈ last.entries, isNamedSource file = true)
      (ordered : routes.Pairwise (· < ·)) : Expands system pattern (routes.map (joinedAll base))

/-- A recursive pattern that starts at what is no directory. -/
def MissesBase (system : FileSystem) (pattern base : String) : Prop :=
  StartsAt pattern base ∧ system.isDirectory (Path.ofText base) = false

/-- The first of some patterns that starts at what is no directory. -/
def MissesFirst (system : FileSystem) (patterns : List String) (base : String) : Prop :=
  ∃ before pattern after, patterns = before ++ pattern :: after ∧
    (∀ other ∈ before, ∀ base, ¬ MissesBase system other base) ∧ MissesBase system pattern base

theorem StartsAt.unique {other : String} (starts : StartsAt pattern base)
    (starts' : StartsAt pattern other) : base = other := by
  rw [← patternBase_eq_some_iff] at starts starts'
  exact Option.some.inj (starts.symm.trans starts')

theorem StartsAt.nonempty (starts : StartsAt pattern base) : base ≠ "" := by
  cases starts with
  | working | root => decide
  | below nonempty => exact nonempty

theorem isDirectory_of_get? {path : Path} {start : Entry} (found : system.get? path = some start) :
    system.isDirectory path = start.isDirectory := by
  rw [FileSystem.isDirectory, found]
  rfl

/-- A pattern cannot be expanded only if it starts at what is no directory. -/
theorem expandPattern_eq_error_iff {error : SourceError} :
    expandPattern system pattern = .error error ↔
      ∃ base, MissesBase system pattern base ∧ error = .noSuchDirectory base := by
  constructor
  · intro fails
    unfold expandPattern at fails
    split at fails
    · cases fails
    · rename_i base starts
      split at fails
      · cases fails
      · rename_i other
        refine ⟨base, ⟨patternBase_eq_some_iff.1 starts, ?_⟩, (Except.error.inj fails).symm⟩
        cases found : system.get? (Path.ofText base) with
        | none =>
          rw [FileSystem.isDirectory, found]
          rfl
        | some start =>
          rw [isDirectory_of_get? found]
          cases start with
          | file => rfl
          | directory name entries => exact absurd found (other name entries)
  · rintro ⟨base, ⟨starts, missing⟩, rfl⟩
    rw [expandPattern, patternBase_eq_some_iff.2 starts]
    dsimp only
    split
    · rename_i found
      rw [isDirectory_of_get? found] at missing
      cases missing
    · rfl

/-- What a pattern is expanded to is what it stands for. -/
theorem expands_of_expandPattern (wellFormed : system.WellFormed) {yielded : List String}
    (expanded : expandPattern system pattern = .ok yielded) :
    Expands system pattern yielded := by
  unfold expandPattern at expanded
  split at expanded
  · rename_i single
    rw [← Except.ok.inj expanded]
    refine .plain fun base starts => ?_
    rw [patternBase_eq_some_iff.2 starts] at single
    cases single
  · rename_i base starts
    split at expanded
    · rename_i name entries found
      rw [← Except.ok.inj expanded, Entry.sourceDirectories_eq]
      exact .recursive (patternBase_eq_some_iff.1 starts) found rfl (fun _ => Entry.mem_routes_iff)
        (wellFormed.get? found).routes_increase
    · cases expanded

namespace Expands

variable {yielded yielded' : List String}

theorem not_missesBase (expands : Expands system pattern yielded) (base : String) :
    ¬ MissesBase system pattern base := by
  rintro ⟨starts, missing⟩
  cases expands with
  | plain single => exact single base starts
  | recursive starts' found isDirectory complete ordered =>
    rw [starts.unique starts', isDirectory_of_get? found, isDirectory] at missing
    cases missing

theorem unique (expands : Expands system pattern yielded)
    (expands' : Expands system pattern yielded') : yielded = yielded' := by
  cases expands with
  | plain single =>
    cases expands' with
    | plain => rfl
    | recursive starts => exact absurd starts (single _)
  | recursive starts found isDirectory complete ordered =>
    cases expands' with
    | plain single => exact absurd starts (single _)
    | recursive starts' found' _ complete' ordered' =>
      obtain rfl := starts.unique starts'
      obtain rfl := Option.some.inj (found.symm.trans found')
      rw [ordered.eq_of_mem_iff ordered' fun names => (complete names).trans (complete' names).symm]

/-- No path is yielded twice. -/
theorem nodup (wellFormed : system.WellFormed) (expands : Expands system pattern yielded) :
    yielded.Nodup := by
  cases expands with
  | plain => exact List.nodup_singleton pattern
  | @recursive base start routes starts found isDirectory complete ordered =>
    have valid : ∀ names ∈ routes, ∀ name ∈ names, Path.IsEntryName name := by
      intro names mem
      obtain ⟨last, leads, _⟩ := (complete names).1 mem
      exact (wellFormed.get? found).isEntryName_of_leads leads
    have apart : routes.Nodup := ordered.imp fun before => before.ne
    refine apart.map_on fun names mem others mem' same => ?_
    have further := congrArg (fun text => (Path.ofText text).names) same
    rwa [names_ofText_joinedAll starts.nonempty (valid names mem),
      names_ofText_joinedAll starts.nonempty (valid others mem'), List.append_right_inj] at further

end Expands

/-- A pattern is expanded to what it stands for. -/
theorem expandPattern_eq_ok_iff (wellFormed : system.WellFormed) {yielded : List String} :
    expandPattern system pattern = .ok yielded ↔ Expands system pattern yielded := by
  constructor
  · exact expands_of_expandPattern wellFormed
  · intro expands
    cases expanded : expandPattern system pattern with
    | error error =>
      obtain ⟨base, misses, _⟩ := expandPattern_eq_error_iff.1 expanded
      exact absurd misses (expands.not_missesBase base)
    | ok yielded' =>
      rw [expands.unique (expands_of_expandPattern wellFormed expanded)]

/-- The first pattern that cannot be expanded is the first one that starts at what is no
directory. -/
theorem firstFails_expandPattern_iff {patterns : List String} {error : SourceError} :
    FirstFails (expandPattern system) patterns error ↔
      ∃ base, MissesFirst system patterns base ∧ error = .noSuchDirectory base := by
  have expanded {other : String} : (∃ yielded, expandPattern system other = .ok yielded) ↔
      ∀ base, ¬ MissesBase system other base := by
    constructor
    · rintro ⟨yielded, done⟩ base misses
      rw [expandPattern_eq_error_iff.2 ⟨base, misses, rfl⟩] at done
      cases done
    · intro finds
      cases done : expandPattern system other with
      | error error =>
        obtain ⟨base, misses, _⟩ := expandPattern_eq_error_iff.1 done
        exact absurd misses (finds base)
      | ok yielded => exact ⟨yielded, rfl⟩
  simp only [FirstFails, MissesFirst, expanded, expandPattern_eq_error_iff]
  constructor
  · rintro ⟨before, pattern, after, split, earlier, base, misses, rfl⟩
    exact ⟨base, ⟨before, pattern, after, split, earlier, misses⟩, rfl⟩
  · rintro ⟨base, ⟨before, pattern, after, split, earlier, misses⟩, rfl⟩
    exact ⟨before, pattern, after, split, earlier, base, misses, rfl⟩

theorem expandPatterns_eq_error_iff {patterns : List String} {error : SourceError} :
    expandPatterns system patterns = .error error ↔
      ∃ base, MissesFirst system patterns base ∧ error = .noSuchDirectory base := by
  rw [← firstFails_expandPattern_iff, ← mapM_eq_error_iff, expandPatterns]
  cases patterns.mapM (expandPattern system) <;> simp [bind, Except.bind, pure, Except.pure]

theorem MissesFirst.exists_missesBase {patterns : List String}
    (misses : MissesFirst system patterns base) :
    ∃ pattern ∈ patterns, MissesBase system pattern base := by
  obtain ⟨before, pattern, after, rfl, _, here⟩ := misses
  exact ⟨pattern, by simp, here⟩

theorem exists_missesFirst {patterns : List String}
    (misses : ∃ pattern ∈ patterns, ∃ base, MissesBase system pattern base) :
    ∃ base, MissesFirst system patterns base := by
  obtain ⟨pattern, mem, base, here⟩ := misses
  obtain ⟨error, fails⟩ := exists_firstFails (f := expandPattern system)
    ⟨pattern, mem, _, expandPattern_eq_error_iff.2 ⟨base, here, rfl⟩⟩
  obtain ⟨first, misses, _⟩ := firstFails_expandPattern_iff.1 fails
  exact ⟨first, misses⟩

/-- The paths of patterns are those of each pattern in turn. -/
theorem expandPatterns_eq_ok {patterns paths : List String}
    (expanded : expandPatterns system patterns = .ok paths) :
    ∃ lists, List.Forall₂ (fun pattern yielded => expandPattern system pattern = .ok yielded)
      patterns lists ∧ paths = lists.flatten := by
  unfold expandPatterns at expanded
  cases all : patterns.mapM (expandPattern system) with
  | error error => simp [all, bind, Except.bind] at expanded
  | ok lists =>
    simp only [all, bind, Except.bind, pure, Except.pure, Except.ok.injEq] at expanded
    exact ⟨lists, mapM_eq_ok_iff.1 all, expanded.symm⟩

/-- Patterns are expanded one after the other to what they stand for, each path once, unless one of
them starts at what is no directory; the first such pattern is then told.  The texts that a pattern
stands for lead to the directories to which its names lead. -/
theorem expandPatterns_by_walk (wellFormed : system.WellFormed) (patterns : List String) :
    ((∃ error, expandPatterns system patterns = .error error) ↔
        ∃ pattern ∈ patterns, ∃ base, MissesBase system pattern base) ∧
      (∀ error, expandPatterns system patterns = .error error ↔
        ∃ base, MissesFirst system patterns base ∧ error = .noSuchDirectory base) ∧
      (∀ paths, expandPatterns system patterns = .ok paths ↔
        ∃ lists, List.Forall₂ (Expands system) patterns lists ∧ paths = lists.flatten) ∧
      (∀ pattern yielded, Expands system pattern yielded → yielded.Nodup) ∧
      ∀ pattern base start names last, StartsAt pattern base →
        system.get? (Path.ofText base) = some start → start.Leads names last →
          system.get? (Path.ofText (joinedAll base names)) = some last := by
  refine ⟨?_, fun _ => expandPatterns_eq_error_iff, ?_,
    fun _ _ expands => expands.nodup wellFormed,
    fun _ _ _ _ _ starts found leads => wellFormed.get?_of_leads leads starts.nonempty found⟩
  · simp only [expandPatterns_eq_error_iff]
    constructor
    · rintro ⟨_, base, misses, _⟩
      obtain ⟨pattern, mem, here⟩ := misses.exists_missesBase
      exact ⟨pattern, mem, base, here⟩
    · intro misses
      obtain ⟨base, first⟩ := exists_missesFirst misses
      exact ⟨_, base, first, rfl⟩
  · intro paths
    have each (lists : List (List String)) : List.Forall₂ (Expands system) patterns lists ↔
        patterns.mapM (expandPattern system) = .ok lists := by
      simp only [mapM_eq_ok_iff, expandPattern_eq_ok_iff wellFormed]
    simp only [each]
    constructor
    · intro expanded
      obtain ⟨lists, all, rfl⟩ := expandPatterns_eq_ok expanded
      exact ⟨lists, mapM_eq_ok_iff.2 all, rfl⟩
    · rintro ⟨lists, all, rfl⟩
      rw [expandPatterns, all]
      rfl

/-- Sources in nested directories, one of which is passed over, and a directory that is named like a
source. -/
def walkedTree : FileSystem :=
  ["a.b/x.go", "a/c/x.go", "a/y.go", "vendor/x.go", "z.go/text"].foldl
    (fun system text => system.write (Path.ofText text) (.ok .empty)) (FileSystem.empty [])

theorem wellFormed_walkedTree : walkedTree.WellFormed :=
  List.foldlRecOn _ _ (FileSystem.wellFormed_empty (by simp))
    fun _ before text _ => before.write text _

theorem expandPattern_walkedTree :
    expandPattern walkedTree "..." = .ok ["./a", "./a/c", "./a.b"] := by
  have starts : patternBase "..." = some "." := by decide +kernel
  have found : walkedTree.get? (Path.ofText ".") =
      some (.directory "" walkedTree.root.entries) := rfl
  have below : Entry.directoriesBelow "." walkedTree.root.entries =
      [("a.b", ["./a.b"]), ("a", ["./a", "./a/c"]), ("z.go", [])] := by decide +kernel
  have ordered : inNameOrder [("a.b", ["./a.b"]), ("a", ["./a", "./a/c"]), ("z.go", [])] =
      ["./a", "./a/c", "./a.b"] := by
    rw [inNameOrder, mergeSort_eq_of_perm (.swap _ _ _) (by decide +kernel)]
    rfl
  rw [expandPattern, starts]
  dsimp only
  rw [found]
  dsimp only
  rw [Entry.sourceDirectories, below, ordered, if_neg (by decide +kernel)]
  rfl

/-- A pattern may start at a directory that is passed over elsewhere.  What is below `a` comes
before `a.b`, although its text comes after. -/
theorem walkedTree_expands :
    expandPatterns walkedTree ["a/y.go", "./vendor//...", "..."] =
        .ok ["a/y.go", "./vendor", "./a", "./a/c", "./a.b"] ∧
      (∃ lists, List.Forall₂ (Expands walkedTree) ["a/y.go", "./vendor//...", "..."] lists ∧
        ["a/y.go", "./vendor", "./a", "./a/c", "./a.b"] = lists.flatten) ∧
      MissesFirst walkedTree ["a/y.go", "c/...", "d/..."] "c" := by
  have plain : expandPattern walkedTree "a/y.go" = .ok ["a/y.go"] := by decide +kernel
  have passed : expandPattern walkedTree "./vendor//..." = .ok ["./vendor"] := by decide +kernel
  have expanded : expandPatterns walkedTree ["a/y.go", "./vendor//...", "..."] =
      .ok ["a/y.go", "./vendor", "./a", "./a/c", "./a.b"] := by
    rw [expandPatterns, mapM_eq_ok_iff.2
      (.cons plain (.cons passed (.cons expandPattern_walkedTree .nil)))]
    rfl
  have fails : expandPatterns walkedTree ["a/y.go", "c/...", "d/..."] =
      .error (.noSuchDirectory "c") := by decide +kernel
  obtain ⟨_, _, stands, _⟩ :=
    expandPatterns_by_walk wellFormed_walkedTree ["a/y.go", "./vendor//...", "..."]
  obtain ⟨_, misses, _⟩ :=
    expandPatterns_by_walk wellFormed_walkedTree ["a/y.go", "c/...", "d/..."]
  obtain ⟨_, first, same⟩ := (misses _).1 fails
  obtain rfl := SourceError.noSuchDirectory.inj same
  exact ⟨expanded, (stands _).1 expanded, first⟩

end Patterns

end SliceGuard.Packages
