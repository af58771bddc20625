import Mathlib.Data.List.Forall2
import Mathlib.Data.Option.Basic

/-!
# Lists whose entries correspond

Where the entries of two lists correspond one by one, and what is asked of them does not tell an
entry from its counterpart, a search in both lists ends at counterparts.
-/

namespace SliceGuard

variable {α β γ δ : Type} {related : α → β → Prop} {xs : List α} {ys : List β}

theorem exists_of_rel_some {x : α} {other : Option β} (both : Option.Rel related (some x) other) :
    ∃ y, other = some y ∧ related x y := by
  cases both with
  | some here => exact ⟨_, rfl, here⟩

theorem eq_none_of_rel_none {other : Option β} (both : Option.Rel related none other) :
    other = none := by
  cases both
  rfl

theorem rel_same {same : α → α → Prop} {value : Option α} (refl : ∀ x ∈ value, same x x) :
    Option.Rel same value value := by
  cases value with
  | none => exact .none
  | some x => exact .some (refl x rfl)

theorem rel_map_self {value : Option α} {f : α → β} (here : ∀ x ∈ value, related x (f x)) :
    Option.Rel related value (value.map f) := by
  cases value with
  | none => exact .none
  | some x => exact .some (here x rfl)

theorem forall₂_map_self {f : α → β} (all : ∀ x ∈ xs, related x (f x)) :
    List.Forall₂ related xs (xs.map f) := by
  rw [List.forall₂_map_right_iff, List.forall₂_same]
  exact all

/-- The entries that have a property, each with its image. -/
theorem forall₂_map_and {holds : α → Prop} {f : α → β} (all : ∀ x ∈ xs, holds x) :
    List.Forall₂ (fun x y => holds x ∧ y = f x) xs (xs.map f) :=
  forall₂_map_self fun x mem => ⟨all x mem, rfl⟩

theorem rel_imp {finer : α → β → Prop} {x : Option α} {y : Option β}
    (same : ∀ x y, related x y → finer x y) (both : Option.Rel related x y) :
    Option.Rel finer x y := by
  cases both with
  | none => exact .none
  | some here => exact .some (same _ _ here)

theorem rel_or {x x' : Option α} {y y' : Option β} (both : Option.Rel related x y)
    (otherwise : Option.Rel related x' y') : Option.Rel related (x.or x') (y.or y') := by
  cases both with
  | none => exact otherwise
  | some here => exact .some here

theorem rel_find? {p : α → Bool} {q : β → Bool} (same : ∀ x y, related x y → q y = p x)
    (all : List.Forall₂ related xs ys) : Option.Rel related (xs.find? p) (ys.find? q) := by
  induction all with
  | nil => exact .none
  | @cons x y xs ys here _ ih =>
    rw [List.find?_cons, List.find?_cons, same x y here]
    split
    · exact .some here
    · exact ih

/-- The entries that are found satisfy what is asked for. -/
theorem rel_find?_and {p : α → Bool} {q : β → Bool} (same : ∀ x y, related x y → q y = p x)
    (all : List.Forall₂ related xs ys) :
    Option.Rel (fun x y => p x = true ∧ related x y) (xs.find? p) (ys.find? q) := by
  have found := rel_find? same all
  generalize first : xs.find? p = answer, ys.find? q = other at found
  cases found with
  | none => exact .none
  | some here => exact .some ⟨List.find?_some first, here⟩

theorem rel_findSome? {result : γ → δ → Prop} {f : α → Option γ} {g : β → Option δ}
    (same : ∀ x y, related x y → Option.Rel result (f x) (g y))
    (all : List.Forall₂ related xs ys) :
    Option.Rel result (xs.findSome? f) (ys.findSome? g) := by
  induction all with
  | nil => exact .none
  | @cons x y xs ys here _ ih =>
    rw [List.findSome?_cons, List.findSome?_cons]
    generalize first : f x = answer, second : g y = other
    have answers := same x y here
    rw [first, second] at answers
    cases answers with
    | none => exact ih
    | some both => exact .some both

theorem rel_getElem? (all : List.Forall₂ related xs ys) (position : Nat) :
    Option.Rel related xs[position]? ys[position]? := by
  induction all generalizing position with
  | nil => exact .none
  | cons here _ ih =>
    cases position with
    | zero => exact .some here
    | succ position => exact ih position

theorem findIdx?_eq {p : α → Bool} {q : β → Bool} (same : ∀ x y, related x y → q y = p x)
    (all : List.Forall₂ related xs ys) : ys.findIdx? q = xs.findIdx? p := by
  induction all with
  | nil => rfl
  | @cons x y xs ys here _ ih => rw [List.findIdx?_cons, List.findIdx?_cons, same x y here, ih]

theorem map_eq {f : α → γ} {g : β → γ} (same : ∀ x y, related x y → g y = f x)
    (all : List.Forall₂ related xs ys) : ys.map g = xs.map f := by
  induction all with
  | nil => rfl
  | @cons x y xs ys here _ ih => rw [List.map_cons, List.map_cons, same x y here, ih]

theorem forall₂_of_map_eq {f : α → γ} {first second : List α}
    (same : second.map f = first.map f) :
    List.Forall₂ (fun x y => f y = f x) first second := by
  have all : List.Forall₂ Eq (first.map f) (second.map f) := by
    rw [same]
    exact List.forall₂_same.2 fun _ _ => rfl
  rw [List.forall₂_map_left_iff, List.forall₂_map_right_iff] at all
  exact all.imp fun _ _ equal => equal.symm

theorem forall₂_imp_of_mem {finer : α → β → Prop} (all : List.Forall₂ related xs ys)
    (same : ∀ x ∈ xs, ∀ y, related x y → finer x y) : List.Forall₂ finer xs ys := by
  induction all with
  | nil => exact .nil
  | @cons x y xs ys here _ ih =>
    exact .cons (same x (by simp) y here) (ih fun other mem => same other (by simp [mem]))

theorem forall₂_and_of_mem {finer : α → β → Prop} (all : List.Forall₂ related xs ys)
    (more : List.Forall₂ finer xs ys) :
    List.Forall₂ (fun x y => x ∈ xs ∧ related x y ∧ finer x y) xs ys := by
  induction all with
  | nil => exact .nil
  | @cons x y xs ys here _ ih =>
    cases more with
    | cons here' more =>
      refine .cons ⟨by simp, here, here'⟩ ((ih more).imp ?_)
      rintro x y ⟨mem, both⟩
      exact ⟨by simp [mem], both⟩

theorem forall₂_append_iff {xs' : List α} {ys' : List β} (lengths : xs.length = ys.length) :
    List.Forall₂ related (xs ++ xs') (ys ++ ys') ↔
      List.Forall₂ related xs ys ∧ List.Forall₂ related xs' ys' := by
  induction xs generalizing ys with
  | nil =>
    cases ys with
    | nil => simp
    | cons y ys => simp at lengths
  | cons x xs ih =>
    cases ys with
    | nil => simp at lengths
    | cons y ys =>
      simp only [List.cons_append, List.forall₂_cons, ih (Nat.succ.inj lengths), and_assoc]

/-- A list between two others, cut at one of its entries. -/
theorem append_of_getElem? {position : Nat} {x : α} (here : xs[position]? = some x)
    (before after : List α) :
    before ++ xs ++ after =
      before ++ xs.take position ++ x :: (xs.drop (position + 1) ++ after) := by
  obtain ⟨inside, rfl⟩ := List.getElem?_eq_some_iff.1 here
  rw [← List.cons_append, ← List.drop_eq_getElem_cons inside, ← List.append_assoc,
    List.append_assoc before (xs.take position), List.take_append_drop]

theorem any_eq {p : α → Bool} {q : β → Bool} (same : ∀ x y, related x y → q y = p x)
    (all : List.Forall₂ related xs ys) : ys.any q = xs.any p := by
  induction all with
  | nil => rfl
  | @cons x y xs ys here _ ih => rw [List.any_cons, List.any_cons, same x y here, ih]

theorem forall₂_zipIdx (all : List.Forall₂ related xs ys) (first : Nat) :
    List.Forall₂ (fun x y => related x.1 y.1 ∧ y.2 = x.2) (xs.zipIdx first) (ys.zipIdx first) := by
  induction all generalizing first with
  | nil => exact .nil
  | cons here _ ih => exact .cons ⟨here, rfl⟩ (ih (first + 1))

theorem forall₂_filter {p : α → Bool} {q : β → Bool} (same : ∀ x y, related x y → q y = p x)
    (all : List.Forall₂ related xs ys) : List.Forall₂ related (xs.filter p) (ys.filter q) :=
  List.rel_filter (fun x y here => iff_of_eq (congrArg (· = true) (same x y here).symm)) all

end SliceGuard
