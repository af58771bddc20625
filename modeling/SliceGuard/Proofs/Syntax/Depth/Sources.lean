import SliceGuard.Proofs.Syntax.Depth.Statements
import SliceGuard.Proofs.Syntax.Lexing
import SliceGuard.Syntax.Source

/-!
# The depth of sources

A phrase that begins with another phrase is of higher rank, and every other phrase spends a token
before it looks for a phrase inside.  So five depths for a token are enough to read any phrase, one
for each rank.  A source is read with more than that: its tree is the one it has at every limit that
is large enough, and it is rejected only if it is rejected at all of these limits.
-/

namespace SliceGuard.Syntax

namespace Grammar

variable {n : Nat} {g g' : Nested}

section Goals

/-- The phrases that a phrase may begin with, before it spends a token, are of lower rank. -/
def Goal.rank : Goal → Nat
  | .type | .literalValue | .block | .ifStatement => 0
  | .unary _ => 1
  | .binary _ _ => 2
  | .expression _ => 3
  | .statement => 4

theorem Goal.rank_lt (goal : Goal) : goal.rank < 5 := by
  cases goal <;> simp [Goal.rank]

theorem spends_read (alike : g.Alike n g') (enough : n + 1 ≤ g.limit) (enough' : n + 1 ≤ g'.limit)
    (goal : Goal)
    (below : ∀ lower : Goal, lower.rank < goal.rank →
      Spends (n + 1) (g.read lower) (g'.read lower)) :
    Spends (n + 1) (read g goal) (read g' goal) := by
  cases goal with
  | expression header => exact below (.binary header 1) (Nat.lt_succ_self 2)
  | binary header floor =>
    exact spends_binary alike (below (.unary header) (Nat.lt_succ_self 1)) floor
  | unary header => exact spends_unary alike (below .type (Nat.lt_succ_self 0)) header
  | type => exact spends_type alike
  | literalValue => exact spends_literalValue alike
  | block => exact spends_block alike
  | statement =>
    exact spends_statement alike enough enough' (below (.expression false) (by decide))
      (below .block (by decide)) (below .ifStatement (by decide))
  | ifStatement => exact spends_ifStatement alike

/-- Five depths for a token are enough.  By induction on the depth: inside a phrase there is a token
less, and at its beginning the rank is lower. -/
theorem spends_readWithin {depth depth' rank : Nat} (enough : 5 * n + rank ≤ depth)
    (enough' : 5 * n + rank ≤ depth') {goal : Goal} (lower : goal.rank < rank) :
    Spends n (readWithin depth goal) (readWithin depth' goal) := by
  induction depth generalizing depth' n rank goal with
  | zero => omega
  | succ depth ih =>
    obtain ⟨depth', rfl⟩ : ∃ other, depth' = other + 1 := ⟨depth' - 1, by omega⟩
    cases n with
    | zero => exact agree_zero
    | succ n =>
      have few : n + 1 ≤ depth := by omega
      have few' : n + 1 ≤ depth' := by omega
      have inside : Nested.Alike ⟨depth, readWithin depth⟩ n ⟨depth', readWithin depth'⟩ :=
        ⟨Nat.le_of_succ_le few, Nat.le_of_succ_le few',
          fun goal => ih (by omega) (by omega) goal.rank_lt⟩
      exact spends_read inside few few' goal fun first less => ih (by omega) (by omega) less

theorem alike_readWithin {depth depth' : Nat} (enough : 5 * (n + 1) ≤ depth)
    (enough' : 5 * (n + 1) ≤ depth') :
    Nested.Alike ⟨depth, readWithin depth⟩ n ⟨depth', readWithin depth'⟩ where
  enough := show n ≤ depth by omega
  enough' := show n ≤ depth' by omega
  read goal := spends_readWithin (by omega) (by omega) goal.rank_lt

end Goals

section Files

theorem spends_packageClause : Spends n packageClause packageClause :=
  (spends_sign "package").andThen fun _ => (spends_name _).keeps.bind fun _ => keeps_pure _

theorem spends_importSpec : Spends n importSpec importSpec := by
  refine keeps_peek.bind fun _ => agree_ite
    ((spends_take .dot).andThen fun _ => agree_found [_] ?_) (agree_ite
      ((spends_take .blankIdentifier).andThen fun _ => agree_found [_] ?_) (agree_ite
        ((spends_name .packageIdentifier).andThen fun _ => agree_found [_] ?_)
        (agree_found [] ?_)))
  all_goals exact spends_stringLiteral.andThen fun _ => keeps_pure _

variable (alike : g.Alike n g')
include alike

theorem spends_importDeclaration : Spends (n + 1) (importDeclaration g) (importDeclaration g') := by
  refine (spends_sign "import").bind fun _ => (keeps_isNext "(").bind fun _ => agree_ite ?_ ?_
  · exact (spends_specsInParentheses alike spends_importSpec).lower.keeps.bind fun _ => keeps_pure _
  · exact spends_importSpec.keeps.bind fun _ => keeps_pure _

theorem keeps_body? : Keeps n (body? g) (body? g') :=
  (keeps_isNext "\x7b").bind fun _ =>
    agree_ite ((alike.read .block).keeps.bind fun _ => keeps_pure _) (keeps_pure _)

theorem spends_functionDeclaration :
    Spends (n + 1) (functionDeclaration g) (functionDeclaration g') := by
  refine (spends_sign "func").bind fun _ => (spends_name .identifier).keeps.bind fun _ =>
    (keeps_isNext "[").bind fun _ => agree_ite
      ((spends_typeParameterList alike).lower.keeps.bind fun _ => agree_found [_] ?_)
      (agree_found [] ?_)
  all_goals
    exact (spends_signature alike).lower.keeps.bind fun _ =>
      (keeps_body? alike).bind fun _ => keeps_pure _

theorem spends_methodDeclaration :
    Spends (n + 1) (methodDeclaration g) (methodDeclaration g') := by
  refine (spends_sign "func").bind fun _ => (spends_parameterList alike).lower.keeps.bind fun _ =>
    (spends_name .fieldIdentifier).keeps.bind fun _ => (keeps_isNext "(").bind fun _ =>
      agree_ite ?_ agree_failure
  exact (spends_signature alike).lower.keeps.bind fun _ =>
    (keeps_body? alike).bind fun _ => keeps_pure _

omit alike in
theorem spends_topLevel (alike : g.Alike (n + 1) g') :
    Spends (n + 1) (topLevel g) (topLevel g') := by
  have inside := alike.lower n.le_succ
  have statement : Spends (n + 1) (statement g) (statement g') :=
    spends_statement inside alike.enough alike.enough' (alike.read _) (alike.read _) (alike.read _)
  refine keeps_peek.bind fun token => ?_
  split
  · exact spends_packageClause
  · exact spends_importDeclaration inside
  · refine (keeps_ahead 1 _).bind fun _ => agree_ite (spends_functionDeclaration inside) ?_
    exact (moves_attempt (spends_methodDeclaration inside)).bind (fun _ => keeps_pure _) statement
  · exact statement

theorem keeps_topLevels {limit limit' : Nat} (enough : n ≤ limit) (enough' : n ≤ limit') :
    Keeps n (topLevels g limit) (topLevels g' limit') := by
  revert alike
  refine limitsInduction (fun _ _ _ => agree_zero) (fun n _ _ ih alike => ?_) enough enough'
  have further := ih (alike.lower n.le_succ)
  refine keeps_peek.bind fun _ => agree_ite (keeps_pure _) (agree_ite ?_ ?_)
  · exact (spends_take .token).bind fun _ => further.bind fun _ => keeps_pure _
  · exact (spends_topLevel alike).bind fun _ => spends_terminator.keeps.bind fun _ =>
      further.bind fun _ => keeps_pure _

theorem keeps_sourceTree (text : String) : Keeps n (sourceTree g text) (sourceTree g' text) :=
  (keeps_topLevels alike alike.enough alike.enough').bind fun _ =>
    (spends_take .token).keeps.bind fun _ => keeps_pure _

end Files

end Grammar

section Sources

open Grammar

/-- The tree of a source, if it is cut in at most `limit` steps and has no phrases deeper than
that. -/
def treeWithin? (limit : Nat) (bytes : ByteArray) : Option Node := do
  let glyphs := Text.Utf8.decode bytes.toList
  let tokens ← tokensWithin? limit glyphs
  let (node, _) ← sourceTree ⟨limit, readWithin limit⟩ (Text.Glyph.text glyphs) tokens
  return node

theorem treeWithin?_eq {bytes : ByteArray} {limit : Nat}
    (steps : (Text.Utf8.decode bytes.toList).length < limit)
    (depth : ∀ tokens, tokens? (Text.Utf8.decode bytes.toList) = some tokens →
      depthBound tokens.length ≤ limit) : treeWithin? limit bytes = tree? bytes := by
  unfold treeWithin? tree?
  dsimp only
  rw [tokensWithin?_eq steps]
  cases found : tokens? (Text.Utf8.decode bytes.toList) with
  | none => rfl
  | some tokens =>
    have deep := depth tokens found
    have enough : 5 * (tokens.length + 1 + 1) ≤ depthBound tokens.length := by
      unfold depthBound
      omega
    have same := (keeps_sourceTree (alike_readWithin (Nat.le_trans enough deep) enough)
      (Text.Glyph.text (Text.Utf8.decode bytes.toList)) tokens (Nat.lt_succ_self _)).1
    simp only [bind, Option.bind, same]

/-- A source has the tree, or is rejected, that it has at every limit that is large enough. -/
theorem tree?_eq_iff {bytes : ByteArray} {result : Option Node} :
    tree? bytes = result ↔ ∃ least, ∀ limit, least ≤ limit → treeWithin? limit bytes = result := by
  obtain ⟨least, enough⟩ :
      ∃ least, ∀ limit, least ≤ limit → treeWithin? limit bytes = tree? bytes := by
    refine ⟨(Text.Utf8.decode bytes.toList).length + 1 +
      ((tokens? (Text.Utf8.decode bytes.toList)).elim 0 fun tokens => depthBound tokens.length),
      fun limit le => treeWithin?_eq (by omega) fun tokens found => ?_⟩
    rw [found, Option.elim_some] at le
    omega
  constructor
  · rintro rfl
    exact ⟨least, enough⟩
  · rintro ⟨other, here⟩
    rw [← enough (max least other) (Nat.le_max_left _ _)]
    exact here _ (Nat.le_max_right _ _)

end Sources

end SliceGuard.Syntax
