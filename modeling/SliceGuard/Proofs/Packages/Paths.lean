import Mathlib.Data.List.Induction
import SliceGuard.Packages.Pattern

/-!
# Paths and their texts

The text of a path is cut at its slashes, so joining a name to a text leads one step further, and
the text of a normal path reads back as that path.  Different names below one path have different
texts.
-/

namespace SliceGuard.Packages

namespace Path

/-- The names that entries of a directory may have. -/
structure IsEntryName (name : String) : Prop where
  nonempty : name ≠ ""
  noSlash : '/' ∉ name.toList
  noDot : name ≠ "."
  noDots : name ≠ ".."

instance (name : String) : Decidable (IsEntryName name) :=
  decidable_of_iff (name ≠ "" ∧ '/' ∉ name.toList ∧ name ≠ "." ∧ name ≠ "..")
    ⟨fun ⟨nonempty, noSlash, noDot, noDots⟩ => ⟨nonempty, noSlash, noDot, noDots⟩,
      fun ⟨nonempty, noSlash, noDot, noDots⟩ => ⟨nonempty, noSlash, noDot, noDots⟩⟩

/-- An absolute path on which nothing can be made simpler. -/
structure IsNormal (path : Path) : Prop where
  root : path.root = "/"
  names : ∀ name ∈ path.names, IsEntryName name

theorem pieces_ne_nil (chars : List Char) : pieces chars ≠ [] := by
  fun_cases pieces chars <;> simp

theorem pieces_cons_of_ne {c : Char} (other : c ≠ '/') {chars first : List Char}
    {others : List (List Char)} (cut : pieces chars = first :: others) :
    pieces (c :: chars) = (c :: first) :: others := by
  simp [pieces, cut]

/-- A slash cuts a text in two. -/
theorem pieces_append (first second : List Char) :
    pieces (first ++ '/' :: second) = pieces first ++ pieces second := by
  induction first with
  | nil => rfl
  | cons c first ih =>
    by_cases slash : c = '/'
    · subst slash
      rw [List.cons_append, pieces, ih, pieces, List.cons_append]
    · obtain ⟨piece, others, cut⟩ := List.exists_cons_of_ne_nil (pieces_ne_nil first)
      rw [cut, List.cons_append] at ih
      rw [List.cons_append, pieces_cons_of_ne slash ih, pieces_cons_of_ne slash cut,
        List.cons_append]

theorem pieces_of_noSlash {chars : List Char} (noSlash : '/' ∉ chars) : pieces chars = [chars] := by
  induction chars with
  | nil => rfl
  | cons c chars ih =>
    rw [List.mem_cons, not_or] at noSlash
    exact pieces_cons_of_ne (Ne.symm noSlash.1) (ih noSlash.2)

namespace IsEntryName

variable {name : String}

theorem chars_ne_nil (valid : IsEntryName name) : name.toList ≠ [] := by
  rw [Ne, String.toList_eq_nil_iff]
  exact valid.nonempty

theorem isName (valid : IsEntryName name) : isName name.toList = true := by
  have noDot : name.toList ≠ ['.'] := by
    intro dot
    exact valid.noDot (String.toList_inj.1 dot)
  simp [Path.isName, valid.chars_ne_nil, noDot]

theorem head?_ne (valid : IsEntryName name) : name.toList.head? ≠ some '/' := by
  intro starts
  exact valid.noSlash (List.mem_of_head? starts)

end IsEntryName

/-- More text does not change the root, if no slash is added to one at the end. -/
theorem rootOf_append {chars more : List Char} (nonempty : chars ≠ [])
    (apart : chars.getLast? ≠ some '/' ∨ more.head? ≠ some '/') :
    rootOf (chars ++ more) = rootOf chars := by
  match chars, more with
  | [], _ => exact absurd rfl nonempty
  | chars, [] => rw [List.append_nil]
  | first :: chars, c :: more =>
    by_cases starts : first = '/'
    · subst starts
      rcases chars with _ | ⟨second, _ | ⟨third, chars⟩⟩
      · simp_all [rootOf]
      · by_cases twice : second = '/'
        · simp_all [rootOf]
        · simp [rootOf, twice]
      · by_cases twice : second = '/'
        · subst twice
          by_cases thrice : third = '/'
          · subst thrice
            rfl
          · simp [rootOf, thrice]
        · simp [rootOf, twice]
    · simp [rootOf, starts]

/-- A name joined to a text leads one step further. -/
theorem ofText_joined {text name : String} (nonempty : text ≠ "") (valid : IsEntryName name) :
    ofText (joined text name) = (ofText text).child name := by
  have chars : text.toList ≠ [] := by
    rw [Ne, String.toList_eq_nil_iff]
    exact nonempty
  have named : ((pieces name.toList).filter isName).map String.ofList = [name] := by
    rw [pieces_of_noSlash valid.noSlash, List.filter_cons_of_pos valid.isName, List.filter_nil,
      List.map_singleton, String.ofList_toList]
  unfold joined ofText child
  split
  case isTrue ends =>
    -- The slash at the end of the text is the one that cuts.
    have ends : text.toList.getLast? = some '/' := by simpa using ends
    obtain ⟨front, split⟩ := List.getLast?_eq_some_iff.1 ends
    rw [String.toList_append, rootOf_append chars (.inr valid.head?_ne), split, List.append_assoc,
      List.singleton_append, pieces_append, pieces_append, List.filter_append, List.filter_append,
      List.map_append, List.map_append, named]
    simp [pieces, isName]
  case isFalse ends =>
    have ends : text.toList.getLast? ≠ some '/' := by simpa using ends
    have slash : (text ++ "/" ++ name).toList = text.toList ++ '/' :: name.toList := by simp
    rw [slash, rootOf_append chars (.inl ends), pieces_append, List.filter_append, List.map_append,
      named]

/-- The text in front of the names below a path. -/
def lead (path : Path) : String :=
  path.root ++ if path.names = [] then "" else "/".intercalate path.names ++ "/"

theorem text_child (path : Path) (name : String) : (path.child name).text = path.lead ++ name := by
  by_cases alone : path.names = []
  · simp [text, child, lead, alone]
  · simp [text, child, lead, alone, String.intercalate_append_of_ne_nil alone, String.append_assoc]

/-- Below one path, texts tell names apart. -/
theorem text_child_inj {path : Path} {name other : String} :
    (path.child name).text = (path.child other).text ↔ name = other := by
  rw [text_child, text_child, String.append_right_inj]

namespace IsNormal

variable {path : Path}

/-- The text of a normal path is joined from its names. -/
theorem lead_append (normal : path.IsNormal) (name : String) :
    path.lead ++ name = joined path.text name := by
  obtain ⟨root, names⟩ := path
  obtain rfl : root = "/" := normal.root
  rcases List.eq_nil_or_concat names with rfl | ⟨front, last, rfl⟩
  · simp [lead, text, joined]
  · rw [List.concat_eq_append] at normal ⊢
    have valid := normal.names last (by simp)
    have ends : (text ⟨"/", front ++ [last]⟩).toList.getLast? ≠ some '/' := by
      change (child ⟨"/", front⟩ last).text.toList.getLast? ≠ some '/'
      obtain ⟨c, final⟩ := Option.ne_none_iff_exists'.1
        (mt List.getLast?_eq_none_iff.1 valid.chars_ne_nil)
      rw [text_child, String.toList_append, List.getLast?_append, final, Option.some_or]
      rintro ⟨⟩
      exact valid.noSlash (List.mem_of_getLast? final)
    rw [joined, if_neg (by simpa using ends)]
    simp [lead, text, String.append_assoc]

/-- The text of a normal path reads back. -/
theorem ofText_text (normal : path.IsNormal) : ofText path.text = path := by
  obtain ⟨root, names⟩ := path
  obtain rfl : root = "/" := normal.root
  induction names using List.reverseRecOn with
  | nil => rfl
  | append_singleton names last ih =>
    have outer : IsNormal ⟨"/", names⟩ := ⟨rfl, fun name mem => normal.names name (by simp [mem])⟩
    have nonempty : text ⟨"/", names⟩ ≠ "" := by simp [text]
    change ofText (child ⟨"/", names⟩ last).text = _
    rw [text_child, outer.lead_append, ofText_joined nonempty (normal.names last (by simp)),
      ih outer]
    rfl

/-- A normal path is its own resolution, wherever relative paths start. -/
theorem resolve_eq (normal : path.IsNormal) (working : List String) :
    path.resolve working = path := by
  have kept (names taken : List String) (valid : ∀ name ∈ names, IsEntryName name) :
      names.foldl (fun taken name => if name == ".." then taken.drop 1 else name :: taken) taken =
        names.reverse ++ taken := by
    induction names generalizing taken with
    | nil => rfl
    | cons name names ih =>
      have noDots := (valid name List.mem_cons_self).noDots
      rw [List.foldl_cons, ih _ fun other mem => valid other (List.mem_cons_of_mem _ mem)]
      simp [noDots]
  obtain ⟨root, names⟩ := path
  obtain rfl : root = "/" := normal.root
  have same : normalize names = names := by
    rw [normalize, kept names [] normal.names, List.append_nil, List.reverse_reverse]
  simp [resolve, isAbsolute, same]

end IsNormal

end Path

end SliceGuard.Packages
