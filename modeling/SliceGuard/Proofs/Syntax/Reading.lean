import SliceGuard.Syntax.Grammar.Statements

/-!
# What readers read

A reader of phrases takes tokens from the front and may fail.  What holds of everything that a
reader reads is shown along its steps: what is read first may be used for what is read after it, and
a failed attempt says nothing.  The readers of signs, names and lists are treated here once, and so
are the nodes that are grouped from what they read.
-/

namespace SliceGuard.Syntax.Grammar

/-- Whatever the reader reads satisfies `p`. -/
def Reads {α : Type} (reader : Reader α) (p : α → Prop) : Prop :=
  ∀ tokens found rest, reader tokens = some (found, rest) → p found

section Rules

variable {α β : Type} {p q : α → Prop} {r : β → Prop}

theorem reads_any (reader : Reader α) : Reads reader fun _ => True :=
  fun _ _ _ _ => trivial

theorem Reads.mono {reader : Reader α} (reads : Reads reader p) (imp : ∀ found, p found → q found) :
    Reads reader q :=
  fun tokens found rest read => imp found (reads tokens found rest read)

theorem reads_pure {found : α} (holds : p found) : Reads (pure found) p := by
  intro tokens other rest read
  change some (found, tokens) = some (other, rest) at read
  obtain ⟨rfl, rfl⟩ := Prod.mk.inj (Option.some.inj read)
  exact holds

theorem reads_failure : Reads (failure : Reader α) p := by
  intro tokens found rest read
  cases read

theorem Reads.bind {reader : Reader α} {next : α → Reader β} (first : Reads reader p)
    (second : ∀ found, p found → Reads (next found) r) : Reads (reader >>= next) r := by
  intro tokens found rest read
  obtain ⟨⟨middle, after⟩, reads, further⟩ := Option.bind_eq_some_iff.1 read
  exact second middle (first tokens middle after reads) after found rest further

/-- What is read before does not matter. -/
theorem reads_after {reader : Reader α} {next : α → Reader β}
    (second : ∀ found, Reads (next found) r) : Reads (reader >>= next) r :=
  (reads_any reader).bind fun found _ => second found

theorem reads_ite {c : Prop} [Decidable c] {yes no : Reader α} (first : c → Reads yes p)
    (second : ¬ c → Reads no p) : Reads (if c then yes else no) p := by
  split
  · exact first ‹_›
  · exact second ‹_›

theorem reads_attempt {reader : Reader α} (reads : Reads reader p) :
    Reads (attempt reader) fun found => ∀ part, found = some part → p part := by
  intro tokens found rest read part same
  subst same
  unfold attempt at read
  split at read
  case h_1 other after here =>
    obtain ⟨rfl, _⟩ : other = part ∧ after = rest := by simpa using read
    exact reads tokens other after here
  case h_2 => simp at read

end Rules

/-- A part of a kind that has no role yet. -/
def IsPlain (kind : Kind) (part : Part) : Prop :=
  part.node.kind = kind ∧ part.node.role = none

theorem reads_take (kind : Kind) : Reads (take kind) (IsPlain kind) := by
  intro tokens part rest read
  cases tokens with
  | nil => cases read
  | cons token tokens =>
    obtain ⟨rfl, _⟩ : Part.ofToken kind token = part ∧ tokens = rest := by
      simpa [take] using read
    exact ⟨rfl, rfl⟩

theorem reads_sign (text : String) : Reads (sign text) (IsPlain .token) :=
  reads_after fun _ => reads_ite (fun _ => reads_take .token) fun _ => reads_failure

theorem reads_name (kind : Kind) : Reads (name kind) (IsPlain kind) :=
  reads_after fun _ => reads_ite (fun _ => reads_take kind) fun _ => reads_failure

theorem reads_terminator : Reads terminator (IsPlain .token) :=
  reads_after fun _ => reads_ite (fun _ => reads_take .token) fun _ => reads_failure

/-- Items with marks between them. -/
inductive Alternates (p : Part → Prop) : Part → List Part → Prop
  | last {item : Part} (holds : p item) : Alternates p item []
  | more {item mark next : Part} {rest : List Part} (holds : p item) (isMark : IsPlain .token mark)
      (further : Alternates p next rest) : Alternates p item (mark :: next :: rest)

theorem Alternates.mem {p : Part → Prop} {item part : Part} {rest : List Part}
    (all : Alternates p item rest) (mem : part ∈ item :: rest) : p part ∨ IsPlain .token part := by
  induction all with
  | last holds =>
    rw [List.mem_singleton.1 mem]
    exact .inl holds
  | more holds isMark _ ih =>
    rcases List.mem_cons.1 mem with rfl | mem
    · exact .inl holds
    · rcases List.mem_cons.1 mem with rfl | mem
      · exact .inr isMark
      · exact ih mem

theorem reads_separated {p : Part → Prop} {item : Reader Part} (reads : Reads item p)
    (separator : String) (limit : Nat) :
    Reads (separated separator item limit) fun found => Alternates p found.1 found.2 := by
  induction limit with
  | zero => exact reads_failure
  | succ limit ih =>
    refine reads.bind fun first holds => reads_after fun _ =>
      reads_ite (fun _ => ?_) fun _ => ?_
    · refine (reads_sign separator).bind fun mark isMark => ih.bind fun rest further => ?_
      exact reads_pure (.more holds isMark further)
    · exact reads_pure (.last holds)

theorem reads_linesUntil {p : Part → Prop} {item : Reader Part} (reads : Reads item p)
    (close : String) (limit : Nat) :
    Reads (linesUntil close item limit) fun parts =>
      ∀ part ∈ parts, p part ∨ IsPlain .token part := by
  induction limit with
  | zero => exact reads_failure
  | succ limit ih =>
    refine reads_after fun _ => reads_ite (fun _ => reads_pure (by simp)) fun _ => ?_
    refine reads.bind fun first holds => reads_after fun _ => reads_ite (fun _ => ?_) fun _ => ?_
    · exact reads_pure (by simp [holds])
    · refine reads_terminator.bind fun ended isMark => ih.bind fun rest further => reads_pure ?_
      simp only [List.mem_cons, forall_eq_or_imp]
      exact ⟨.inl holds, .inr isMark, further⟩

section Groups

theorem mem_children_group {kind : Kind} {first : Part} {rest : List Part} {child : Node}
    (mem : child ∈ (Part.group kind first rest).node.children) :
    (∃ part ∈ first :: rest, part.node = child) ∨ child.kind = .comment := by
  rw [Part.children_group, List.mem_cons, List.mem_flatMap] at mem
  rcases mem with rfl | ⟨part, listed, mem⟩
  · exact .inl ⟨first, by simp, rfl⟩
  · rcases List.mem_append.1 mem with isComment | isNode
    · obtain ⟨comment, _, rfl⟩ := List.mem_map.1 isComment
      exact .inr rfl
    · exact .inl ⟨part, by simp [listed], (List.mem_singleton.1 isNode).symm⟩

/-- The children of a group in a role are those of its parts that have been given the role. -/
theorem childrenIn_group (role : Role) (kind : Kind) (first : Part) (rest : List Part) :
    (Part.group kind first rest).node.childrenIn role =
      ((first :: rest).map Part.node).filter (Node.plays role) := by
  have nodes (part : Part) : part.nodes.filter (Node.plays role) =
      [part.node].filter (Node.plays role) := by
    rw [Part.nodes, List.filter_append, List.filter_eq_nil_iff.2, List.nil_append]
    intro child mem
    obtain ⟨comment, _, rfl⟩ := List.mem_map.1 mem
    simp [Comment.node, Node.plays]
  have all : (rest.flatMap Part.nodes).filter (Node.plays role) =
      (rest.map Part.node).filter (Node.plays role) := by
    rw [List.filter_flatMap, ← List.flatMap_singleton' (rest.map Part.node), List.filter_flatMap,
      List.flatMap_map]
    simp only [nodes]
  rw [Node.childrenIn, Part.children_group, List.map_cons, List.filter_cons, List.filter_cons, all]

end Groups

end SliceGuard.Syntax.Grammar
