import SliceGuard.Syntax.Grammar.Statements

/-!
# Readers that agree

Two readers agree on few tokens if they find the same and leave the same, or fail alike.  Readers
that differ only in the depth they allow agree where the depth is enough for the tokens.  It stays
enough because readers spend tokens before they look for a phrase inside another.  So agreement
comes with the tokens that are spent, and both are followed along the steps of a reader.
-/

namespace SliceGuard.Syntax.Grammar

variable {α β : Type}

/-- The readers find and leave the same at some tokens, and what they do satisfies `post`. -/
def AgreeAt (tokens : List Token) (post : α → List Token → Prop) (r r' : Reader α) : Prop :=
  r tokens = r' tokens ∧ ∀ found rest, r tokens = some (found, rest) → post found rest

/-- The readers agree wherever fewer than `n` tokens are left.  They leave no more tokens than there
were, and fewer if what they find satisfies `spent`. -/
def Agree (n : Nat) (spent : α → Prop) (r r' : Reader α) : Prop :=
  ∀ tokens, tokens.length < n →
    AgreeAt tokens
      (fun found rest => rest.length ≤ tokens.length ∧
        (spent found → rest.length < tokens.length)) r r'

/-- The readers agree, and they may leave all tokens. -/
abbrev Keeps (n : Nat) (r r' : Reader α) : Prop :=
  Agree n (fun _ => False) r r'

/-- The readers agree, and they spend a token. -/
abbrev Spends (n : Nat) (r r' : Reader α) : Prop :=
  Agree n (fun _ => True) r r'

/-- The readers agree, and they spend a token if they find something. -/
abbrev Moves (n : Nat) (r r' : Reader (Option α)) : Prop :=
  Agree n (fun found => found.isSome = true) r r'

section Rules

variable {n : Nat} {spent : α → Prop} {spent' : β → Prop} {r r' : Reader α} {f f' : α → Reader β}
  {tokens : List Token} {post : α → List Token → Prop} {post' : β → List Token → Prop}

theorem AgreeAt.bind (first : AgreeAt tokens post r r')
    (next : ∀ found rest, post found rest → AgreeAt rest post' (f found) (f' found)) :
    AgreeAt tokens post' (r >>= f) (r' >>= f') := by
  obtain ⟨same, holds⟩ := first
  have unfolded (g : α → Reader β) (s : Reader α) :
      (s >>= g) tokens = (s tokens).bind fun read => g read.1 read.2 := rfl
  rw [AgreeAt, unfolded, unfolded, ← same]
  cases read : r tokens with
  | none => exact ⟨rfl, nofun⟩
  | some result => exact next result.1 result.2 (holds _ _ read)

theorem AgreeAt.mono {weaker : α → List Token → Prop} (agree : AgreeAt tokens post r r')
    (imp : ∀ found rest, post found rest → weaker found rest) : AgreeAt tokens weaker r r' :=
  ⟨agree.1, fun found rest read => imp found rest (agree.2 found rest read)⟩

theorem agreeAt_pure {found : α} (holds : post found tokens) :
    AgreeAt tokens post (pure found) (pure found) :=
  ⟨rfl, by rintro _ _ ⟨⟩; exact holds⟩

theorem agreeAt_ite {c : Prop} [Decidable c] {yes yes' no no' : Reader α}
    (first : AgreeAt tokens post yes yes') (second : AgreeAt tokens post no no') :
    AgreeAt tokens post (if c then yes else no) (if c then yes' else no') := by
  split
  · exact first
  · exact second

theorem Agree.lower {m : Nat} (agree : Agree n spent r r') (le : m ≤ n) : Agree m spent r r' :=
  fun tokens few => agree tokens (Nat.lt_of_lt_of_le few le)

theorem Spends.lower (agree : Spends (n + 1) r r') : Spends n r r' :=
  Agree.lower agree n.le_succ

theorem Agree.keeps (agree : Agree n spent r r') : Keeps n r r' :=
  fun tokens few => (agree tokens few).mono fun _ _ left => ⟨left.1, nofun⟩

theorem Spends.agree (agree : Spends n r r') : Agree n spent r r' :=
  fun tokens few => (agree tokens few).mono fun _ _ left => ⟨left.1, fun _ => left.2 trivial⟩

/-- Nothing is left to be agreed on. -/
theorem agree_zero : Agree 0 spent r r' :=
  nofun

/-- What follows a reader needs to agree only on what is left, and to spend a token only where none
has been spent. -/
theorem Agree.bind (first : Agree (n + 1) spent r r')
    (moved : ∀ found, spent found → Keeps n (f found) (f' found))
    (stayed : ∀ found, ¬ spent found → Agree (n + 1) spent' (f found) (f' found)) :
    Agree (n + 1) spent' (r >>= f) (r' >>= f') := by
  intro tokens few
  refine (first tokens few).bind fun found rest left => ?_
  by_cases moves : spent found
  · have less := left.2 moves
    have fewer : rest.length < n := by omega
    refine (moved found moves rest fewer).mono fun _ _ further => ⟨?_, fun _ => ?_⟩
    · exact Nat.le_trans further.1 left.1
    · exact Nat.lt_of_le_of_lt further.1 less
  · have fewer : rest.length < n + 1 := Nat.lt_of_le_of_lt left.1 few
    refine (stayed found moves rest fewer).mono fun _ _ further => ⟨?_, fun here => ?_⟩
    · exact Nat.le_trans further.1 left.1
    · exact Nat.lt_of_lt_of_le (further.2 here) left.1

theorem Spends.bind (first : Spends (n + 1) r r') (next : ∀ found, Keeps n (f found) (f' found)) :
    Agree (n + 1) spent' (r >>= f) (r' >>= f') :=
  Agree.bind first (fun found _ => next found) fun _ stays => absurd trivial stays

theorem Keeps.bind (first : Keeps n r r') (next : ∀ found, Agree n spent' (f found) (f' found)) :
    Agree n spent' (r >>= f) (r' >>= f') := by
  cases n with
  | zero => exact agree_zero
  | succ n => exact Agree.bind first (fun _ => nofun) fun found _ => next found

/-- Like `Spends.bind`, where what follows agrees on no fewer tokens. -/
theorem Spends.andThen (first : Spends n r r') (next : ∀ found, Keeps n (f found) (f' found)) :
    Agree n spent' (r >>= f) (r' >>= f') := by
  cases n with
  | zero => exact agree_zero
  | succ n => exact first.bind fun found => (next found).lower n.le_succ

theorem Moves.bind {r r' : Reader (Option α)} {f f' : Option α → Reader β}
    (first : Moves (n + 1) r r') (further : ∀ found, Keeps n (f (some found)) (f' (some found)))
    (without : Agree (n + 1) spent' (f none) (f' none)) :
    Agree (n + 1) spent' (r >>= f) (r' >>= f') := by
  refine Agree.bind first (fun found moves => ?_) fun found stays => ?_
  · obtain ⟨part, rfl⟩ := Option.isSome_iff_exists.1 moves
    exact further part
  · obtain rfl := Option.not_isSome_iff_eq_none.1 stays
    exact without

/-- Like `Moves.bind`, where what follows agrees on no fewer tokens. -/
theorem Moves.andThen {r r' : Reader (Option α)} {f f' : Option α → Reader β} (first : Moves n r r')
    (further : ∀ found, Keeps n (f (some found)) (f' (some found)))
    (without : Agree n spent' (f none) (f' none)) : Agree n spent' (r >>= f) (r' >>= f') := by
  cases n with
  | zero => exact agree_zero
  | succ n => exact first.bind (fun found => (further found).lower n.le_succ) without

theorem agree_pure {found : α} (stays : ¬ spent found) : Agree n spent (pure found) (pure found) :=
  fun _ _ => agreeAt_pure ⟨Nat.le_refl _, fun spends => absurd spends stays⟩

theorem keeps_pure (found : α) : Keeps n (pure found) (pure found) :=
  agree_pure id

theorem agree_failure : Agree n spent (failure : Reader α) failure :=
  fun _ _ => ⟨rfl, nofun⟩

theorem agree_ite {c : Prop} [Decidable c] {yes yes' no no' : Reader α}
    (first : Agree n spent yes yes') (second : Agree n spent no no') :
    Agree n spent (if c then yes else no) (if c then yes' else no') :=
  fun tokens few => agreeAt_ite (first tokens few) (second tokens few)

theorem agree_found (found : α) (next : Agree n spent' (f found) (f' found)) :
    Agree n spent' (pure found >>= f) (pure found >>= f') :=
  next

theorem moves_attempt (agree : Spends n r r') : Moves n (attempt r) (attempt r') := by
  intro tokens few
  obtain ⟨same, left⟩ := agree tokens few
  rw [AgreeAt, attempt, attempt, ← same]
  cases read : r tokens with
  | none => exact ⟨rfl, by rintro _ _ ⟨⟩; exact ⟨Nat.le_refl _, nofun⟩⟩
  | some result =>
    refine ⟨rfl, ?_⟩
    rintro _ _ ⟨⟩
    obtain ⟨shorter, less⟩ := left _ _ read
    exact ⟨shorter, fun _ => less trivial⟩

end Rules

/-- Wherever fewer than `n` tokens are left the readers agree, and they leave fewer than `m`, which
may be more than there were. -/
def Leaves (n m : Nat) (r r' : Reader α) : Prop :=
  ∀ tokens, tokens.length < n → AgreeAt tokens (fun _ rest => rest.length < m) r r'

section Again

variable {n m k : Nat} {spent : α → Prop} {r r' : Reader α} {f f' : α → Reader β}

theorem Keeps.leaves (agree : Keeps n r r') (le : k ≤ n) : Leaves k k r r' :=
  fun tokens few => (agree tokens (Nat.lt_of_lt_of_le few le)).mono fun _ _ left =>
    Nat.lt_of_le_of_lt left.1 few

theorem Spends.leaves (agree : Spends n r r') (lt : k < n) : Leaves (k + 1) k r r' :=
  fun tokens few => (agree tokens (Nat.lt_of_lt_of_le few lt)).mono fun _ _ left =>
    Nat.lt_of_lt_of_le (left.2 trivial) (Nat.le_of_lt_succ few)

theorem spends_of_leaves (leaves : ∀ k, k < n → Leaves (k + 1) k r r') : Spends n r r' :=
  fun tokens few => (leaves tokens.length few tokens (Nat.lt_succ_self _)).mono fun _ _ less =>
    ⟨Nat.le_of_lt less, fun _ => less⟩

theorem Leaves.bind (first : Leaves n k r r') (next : ∀ found, Leaves k m (f found) (f' found)) :
    Leaves n m (r >>= f) (r' >>= f') :=
  fun tokens few => (first tokens few).bind fun found rest left => next found rest left

theorem Moves.leaves_bind {r r' : Reader (Option α)} {f f' : Option α → Reader β}
    (first : Moves n r r') (lt : k < n)
    (further : ∀ found, Leaves k m (f (some found)) (f' (some found)))
    (without : Leaves (k + 1) m (f none) (f' none)) : Leaves (k + 1) m (r >>= f) (r' >>= f') := by
  intro tokens few
  refine (first tokens (Nat.lt_of_lt_of_le few lt)).bind fun found rest left => ?_
  cases found with
  | none => exact without rest (Nat.lt_of_le_of_lt left.1 few)
  | some found =>
    exact further found rest (Nat.lt_of_lt_of_le (left.2 rfl) (Nat.le_of_lt_succ few))

theorem leaves_pure (found : α) : Leaves n n (pure found) (pure found) :=
  (keeps_pure found).leaves (Nat.le_refl n)

theorem leaves_ite {c : Prop} [Decidable c] {yes yes' no no' : Reader α}
    (first : Leaves n m yes yes') (second : Leaves n m no no') :
    Leaves n m (if c then yes else no) (if c then yes' else no') :=
  fun tokens few => agreeAt_ite (first tokens few) (second tokens few)

theorem leaves_get {f f' : List Token → Reader β}
    (next : ∀ tokens, tokens.length < n → Leaves n m (f tokens) (f' tokens)) :
    Leaves n m (get >>= f) (get >>= f') :=
  fun tokens few => next tokens few tokens few

theorem leaves_set {tokens : List Token} {f f' : PUnit → Reader β} (few : tokens.length < k)
    (next : Leaves k m (f ⟨⟩) (f' ⟨⟩)) : Leaves n m (set tokens >>= f) (set tokens >>= f') :=
  fun _ _ => next tokens few

end Again

section Tokens

variable {n : Nat}

theorem keeps_peek : Keeps n peek peek := by
  intro tokens _
  refine ⟨rfl, ?_⟩
  cases tokens with
  | nil => nofun
  | cons token tokens => rintro _ _ ⟨⟩; exact ⟨Nat.le_refl _, nofun⟩

theorem keeps_ahead (distance : Nat) (p : Token → Bool) :
    Keeps n (ahead distance p) (ahead distance p) :=
  fun _ _ => ⟨rfl, by rintro _ _ ⟨⟩; exact ⟨Nat.le_refl _, nofun⟩⟩

theorem keeps_isNext (text : String) : Keeps n (isNext text) (isNext text) :=
  keeps_ahead 0 _

theorem spends_take (kind : Kind) : Spends n (take kind) (take kind) := by
  intro tokens _
  refine ⟨rfl, ?_⟩
  cases tokens with
  | nil => nofun
  | cons token tokens => rintro _ _ ⟨⟩; exact ⟨Nat.le_succ _, fun _ => Nat.lt_succ_self _⟩

theorem spends_sign (text : String) : Spends n (sign text) (sign text) :=
  keeps_peek.bind fun _ => agree_ite (spends_take .token) agree_failure

theorem keeps_sign? (text : String) : Keeps n (sign? text) (sign? text) :=
  (keeps_isNext text).bind fun _ =>
    agree_ite ((spends_take .token).andThen fun mark => keeps_pure [mark]) (keeps_pure [])

theorem spends_name (kind : Kind) : Spends n (name kind) (name kind) :=
  keeps_peek.bind fun _ => agree_ite (spends_take kind) agree_failure

theorem spends_terminator : Spends n terminator terminator :=
  keeps_peek.bind fun _ => agree_ite (spends_take .token) agree_failure

end Tokens

section Lists

/-- What holds of no tokens, and of one more token with limits that are one higher, holds wherever
both limits are enough for the tokens. -/
@[elab_as_elim]
theorem limitsInduction {motive : Nat → Nat → Nat → Prop}
    (zero : ∀ limit limit', motive 0 limit limit')
    (succ : ∀ n limit limit', motive n limit limit' → motive (n + 1) (limit + 1) (limit' + 1))
    {n limit limit' : Nat} (enough : n ≤ limit) (enough' : n ≤ limit') : motive n limit limit' := by
  induction n generalizing limit limit' with
  | zero => exact zero limit limit'
  | succ n ih =>
    obtain ⟨limit, rfl⟩ := Nat.exists_eq_add_one_of_ne_zero (Nat.ne_zero_of_lt enough)
    obtain ⟨limit', rfl⟩ := Nat.exists_eq_add_one_of_ne_zero (Nat.ne_zero_of_lt enough')
    exact succ n limit limit' (ih (Nat.le_of_lt_succ enough) (Nat.le_of_lt_succ enough'))

variable {n limit limit' : Nat} {item item' : Reader Part}

theorem spends_separated (separator : String) (enough : n ≤ limit) (enough' : n ≤ limit') :
    Spends n item item' →
      Spends n (separated separator item limit) (separated separator item' limit') := by
  refine limitsInduction (fun _ _ _ => agree_zero) (fun n _ _ ih alike => ?_) enough enough'
  refine alike.bind fun first => (keeps_isNext separator).bind fun _ => agree_ite ?_ (keeps_pure _)
  exact (spends_sign separator).andThen fun mark =>
    (ih alike.lower).andThen fun _ => keeps_pure _

theorem keeps_listUntil (close : String) (enough : n ≤ limit) (enough' : n ≤ limit') :
    Spends n item item' → Keeps n (listUntil close item limit) (listUntil close item' limit') := by
  refine limitsInduction (fun _ _ _ => agree_zero) (fun n _ _ ih alike => ?_) enough enough'
  refine (keeps_isNext close).bind fun _ => agree_ite (keeps_pure _) ?_
  refine alike.bind fun first => (keeps_isNext ",").bind fun _ => agree_ite ?_ (keeps_pure _)
  exact (spends_sign ",").andThen fun comma =>
    (ih alike.lower).bind fun _ => keeps_pure _

theorem keeps_linesUntil (close : String) (enough : n ≤ limit) (enough' : n ≤ limit') :
    Spends n item item' →
      Keeps n (linesUntil close item limit) (linesUntil close item' limit') := by
  refine limitsInduction (fun _ _ _ => agree_zero) (fun n _ _ ih alike => ?_) enough enough'
  refine (keeps_isNext close).bind fun _ => agree_ite (keeps_pure _) ?_
  refine alike.bind fun first => (keeps_isNext close).bind fun _ => agree_ite (keeps_pure _) ?_
  exact spends_terminator.andThen fun ended =>
    (ih alike.lower).bind fun _ => keeps_pure _

theorem keeps_iterate {step step' : Part → Reader (Option Part)} (enough : n ≤ limit)
    (enough' : n ≤ limit') :
    (∀ part, Moves n (step part) (step' part)) →
      ∀ part, Keeps n (iterate step limit part) (iterate step' limit' part) := by
  refine limitsInduction (fun _ _ _ _ => agree_zero) (fun n _ _ ih alike part => ?_) enough enough'
  exact (alike part).bind (ih fun part => Agree.lower (alike part) n.le_succ) (keeps_pure part)

end Lists

/-- The phrases inside a phrase are read alike wherever fewer than `n` tokens are left, and as many
of them may be read. -/
structure Nested.Alike (g : Nested) (n : Nat) (g' : Nested) : Prop where
  enough : n ≤ g.limit
  enough' : n ≤ g'.limit
  read : ∀ goal, Spends n (g.read goal) (g'.read goal)

theorem Nested.Alike.lower {n m : Nat} {g g' : Nested} (alike : g.Alike n g') (le : m ≤ n) :
    g.Alike m g' where
  enough := Nat.le_trans le alike.enough
  enough' := Nat.le_trans le alike.enough'
  read goal := Agree.lower (alike.read goal) le

end SliceGuard.Syntax.Grammar
