import Mathlib.Data.List.Forall2
import Mathlib.Data.List.Nodup
import Mathlib.Data.String.Basic

/-!
# Lists that are sorted or read one by one

Where elements are told apart by their names, sorting puts them into one strict order, whichever
elements are left out.  Reading a list one by one gives the results of all elements, or stops at the
first one that fails.
-/

namespace SliceGuard.Packages

section Sorting

variable {α : Type}

/-- A list is split in one way into elements that satisfy `q` and elements that do not. -/
theorem split_unique {q : α → Bool} {first second first' second' : List α}
    (same : first ++ second = first' ++ second') (holds : ∀ x ∈ first, q x = true)
    (fails : ∀ x ∈ second, q x = false) (holds' : ∀ x ∈ first', q x = true)
    (fails' : ∀ x ∈ second', q x = false) : first = first' ∧ second = second' := by
  have kept {front back : List α} (holds : ∀ x ∈ front, q x = true)
      (fails : ∀ x ∈ back, q x = false) : (front ++ back).filter q = front := by
    have none : back.filter q = [] :=
      List.filter_eq_nil_iff.2 fun x mem => by simp [fails x mem]
    rw [List.filter_append, List.filter_eq_self.2 holds, none, List.append_nil]
  have fronts : first = first' := by
    rw [← kept holds fails, same, kept holds' fails']
  subst fronts
  exact ⟨rfl, List.append_cancel_left same⟩

/-- Stable sorting goes together with leaving elements out. -/
theorem mergeSort_filter {le : α → α → Bool} (p : α → Bool)
    (trans : ∀ x y z, le x y = true → le y z = true → le x z = true)
    (total : ∀ x y, (le x y || le y x) = true) (l : List α) :
    (l.filter p).mergeSort le = (l.mergeSort le).filter p := by
  -- The first entry of the list is put into the sorted others before all that are not smaller,
  -- which says where it stands.
  have later (x : α) (l : List α) {before after : List α}
      (sorted : (x :: l).mergeSort le = before ++ x :: after) : ∀ y ∈ after, (!le x y) = false := by
    have ordered := List.pairwise_mergeSort trans total (x :: l)
    rw [sorted, List.pairwise_append] at ordered
    intro y mem
    rw [(List.pairwise_cons.1 ordered.2.1).1 y mem, Bool.not_true]
  induction l with
  | nil => simp
  | cons x l ih =>
    obtain ⟨before, after, sorted, rest, earlier⟩ := List.mergeSort_cons trans total x l
    by_cases keeps : p x = true
    · obtain ⟨front, back, sorted', rest', earlier'⟩ :=
        List.mergeSort_cons trans total x (l.filter p)
      rw [rest', rest, List.filter_append] at ih
      obtain ⟨rfl, rfl⟩ := split_unique ih earlier' (later x _ sorted')
        (fun y mem => earlier y (List.mem_of_mem_filter mem))
        (fun y mem => later x l sorted y (List.mem_of_mem_filter mem))
      rw [List.filter_cons_of_pos keeps, sorted', sorted, List.filter_append,
        List.filter_cons_of_pos keeps]
    · rw [List.filter_cons_of_neg keeps, ih, sorted, rest, List.filter_append, List.filter_append,
        List.filter_cons_of_neg keeps]

/-- Elements with different names are sorted strictly. -/
theorem pairwise_lt_mergeSort {name : α → String} {l : List α} (apart : (l.map name).Nodup) :
    (l.mergeSort fun first second => decide (name first ≤ name second)).Pairwise
      fun earlier later => name earlier < name later := by
  have weakly := @List.pairwise_mergeSort _ (fun first second => decide (name first ≤ name second))
    (by simpa using fun x y z => le_trans) (by simpa using fun x y => le_total (name x) (name y)) l
  have differ : ((l.mergeSort fun first second => decide (name first ≤ name second)).map
      name).Nodup := ((List.mergeSort_perm _ _).map name).nodup_iff.2 apart
  refine (weakly.and (List.pairwise_map.1 differ)).imp fun both => ?_
  exact lt_of_le_of_ne (by simpa using both.1) both.2

/-- Sorting gives the elements in the strict order of their names. -/
theorem mergeSort_eq_of_perm {name : α → String} {l sorted : List α} (perm : l.Perm sorted)
    (ordered : sorted.Pairwise fun earlier later => name earlier < name later) :
    (l.mergeSort fun first second => decide (name first ≤ name second)) = sorted := by
  have apart : (l.map name).Nodup := by
    rw [(perm.map name).nodup_iff, List.nodup_iff_pairwise_ne, List.pairwise_map]
    exact ordered.imp fun before => before.ne
  exact List.Perm.eq_of_pairwise (fun _ _ _ _ before after => absurd after before.asymm)
    (pairwise_lt_mergeSort apart) ordered ((List.mergeSort_perm _ _).trans perm)

end Sorting

section Results

variable {α β ε : Type} {f : α → Except ε β}

theorem exists_of_mem_forall₂ {related : α → β → Prop} {xs : List α} {ys : List β}
    (all : List.Forall₂ related xs ys) {x : α} (mem : x ∈ xs) : ∃ y ∈ ys, related x y := by
  induction all with
  | nil => cases mem
  | cons here _ ih =>
    rcases List.mem_cons.1 mem with rfl | later
    · exact ⟨_, List.mem_cons_self, here⟩
    · obtain ⟨y, inside, related⟩ := ih later
      exact ⟨y, List.mem_cons_of_mem _ inside, related⟩

theorem mapM_eq_ok_iff {xs : List α} {ys : List β} :
    xs.mapM f = .ok ys ↔ List.Forall₂ (fun x y => f x = .ok y) xs ys := by
  induction xs generalizing ys with
  | nil =>
    rw [List.mapM_nil, List.forall₂_nil_left_iff]
    exact ⟨fun same => (Except.ok.inj same).symm, fun none => congrArg Except.ok none.symm⟩
  | cons x xs ih =>
    rw [List.mapM_cons, List.forall₂_cons_left_iff]
    constructor
    · intro all
      cases here : f x with
      | error cause => simp [here, bind, Except.bind] at all
      | ok y =>
        cases rest : xs.mapM f with
        | error cause => simp [here, rest, bind, Except.bind] at all
        | ok others =>
          simp only [here, rest, bind, Except.bind, pure, Except.pure, Except.ok.injEq] at all
          exact ⟨y, others, rfl, ih.1 rest, all.symm⟩
    · rintro ⟨y, others, here, rest, rfl⟩
      simp [here, ih.2 rest, bind, Except.bind, pure, Except.pure]

/-- An element fails, and all elements before it succeed. -/
def FirstFails (f : α → Except ε β) (xs : List α) (error : ε) : Prop :=
  ∃ before x after, xs = before ++ x :: after ∧ (∀ y ∈ before, ∃ result, f y = .ok result) ∧
    f x = .error error

theorem not_firstFails_nil {error : ε} : ¬ FirstFails f [] error := by
  rintro ⟨before, x, after, split, _⟩
  simp at split

theorem firstFails_cons_iff {x : α} {xs : List α} {error : ε} :
    FirstFails f (x :: xs) error ↔
      f x = .error error ∨ (∃ result, f x = .ok result) ∧ FirstFails f xs error := by
  constructor
  · rintro ⟨before, y, after, split, earlier, fails⟩
    cases before with
    | nil =>
      obtain ⟨rfl, rfl⟩ := List.cons.inj split
      exact .inl fails
    | cons first before =>
      obtain ⟨rfl, rfl⟩ := List.cons.inj split
      exact .inr ⟨earlier x List.mem_cons_self, before, y, after, rfl,
        fun other mem => earlier other (List.mem_cons_of_mem _ mem), fails⟩
  · rintro (fails | ⟨first, before, y, after, rfl, earlier, fails⟩)
    · exact ⟨[], x, xs, rfl, by simp, fails⟩
    · exact ⟨x :: before, y, after, rfl, List.forall_mem_cons.2 ⟨first, earlier⟩, fails⟩

/-- Where some element fails, there is a first one that does. -/
theorem exists_firstFails {xs : List α} (failing : ∃ x ∈ xs, ∃ error, f x = .error error) :
    ∃ error, FirstFails f xs error := by
  induction xs with
  | nil => simp at failing
  | cons x xs ih =>
    cases here : f x with
    | error error => exact ⟨error, firstFails_cons_iff.2 (.inl here)⟩
    | ok result =>
      obtain ⟨y, mem, error, fails⟩ := failing
      rcases List.mem_cons.1 mem with rfl | later
      · rw [here] at fails
        cases fails
      · obtain ⟨error, first⟩ := ih ⟨y, later, error, fails⟩
        exact ⟨error, firstFails_cons_iff.2 (.inr ⟨⟨result, here⟩, first⟩)⟩

/-- Reading one by one stops at the first element that fails. -/
theorem mapM_eq_error_iff {xs : List α} {error : ε} :
    xs.mapM f = .error error ↔ FirstFails f xs error := by
  induction xs with
  | nil => simp [not_firstFails_nil, pure, Except.pure]
  | cons x xs ih =>
    rw [List.mapM_cons, firstFails_cons_iff, ← ih]
    cases here : f x with
    | error cause => simp [bind, Except.bind]
    | ok result => cases rest : xs.mapM f <;> simp [bind, Except.bind, pure, Except.pure]

theorem exists_mapM_iff {xs : List α} :
    (∃ ys, xs.mapM f = .ok ys) ↔ ∀ x ∈ xs, ∃ y, f x = .ok y := by
  constructor
  · rintro ⟨ys, all⟩ x mem
    obtain ⟨y, _, here⟩ := exists_of_mem_forall₂ (mapM_eq_ok_iff.1 all) mem
    exact ⟨y, here⟩
  · intro each
    cases all : xs.mapM f with
    | ok ys => exact ⟨ys, rfl⟩
    | error error =>
      obtain ⟨before, x, after, rfl, _, fails⟩ := mapM_eq_error_iff.1 all
      obtain ⟨y, here⟩ := each x (by simp)
      rw [fails] at here
      cases here

end Results

end SliceGuard.Packages
