import SliceGuard.Syntax.Lexer

/-!
# Steps of cutting

Every blank, every comment and every token has a character of its own.  So a source of so many
characters is cut in no more steps than that, and it is cut into the same tokens however many more
steps are allowed.
-/

namespace SliceGuard.Syntax

open Text (Glyph)

namespace Lexeme

theorem comment?_length_pos {glyphs : List Glyph} {length : Nat}
    (found : comment? glyphs = some (some length)) : 0 < length := by
  match glyphs with
  | [] => cases found
  | [_] => cases found
  | first :: second :: rest =>
    rw [comment?] at found
    split at found
    · cases found
    · split at found
      · cases found
        exact Nat.succ_pos _
      · split at found
        · obtain ⟨inner, _, rfl⟩ := Option.map_eq_some_iff.1 (Option.some.inj found)
          exact Nat.succ_pos _
        · cases found

/-- A number has a digit. -/
theorem number?_length_pos {glyphs : List Glyph} {kind : TokenKind} {length : Nat}
    (found : number? glyphs = some (kind, length)) : 0 < length := by
  have nonempty {digits : List Char} (has : NumberParts.hasDigit digits = true) :
      0 < digits.length := by
    obtain ⟨digit, mem, _⟩ := List.any_eq_true.1 has
    exact List.length_pos_of_mem mem
  unfold number? at found
  dsimp only at found
  split at found
  case isFalse => cases found
  case isTrue valid =>
    cases found
    simp only [NumberParts.isValid, Bool.and_eq_true, Bool.or_eq_true] at valid
    unfold NumberParts.length
    rcases valid.1.1.1.2 with whole | fraction
    · have := nonempty whole
      omega
    · cases parts : (numberParts glyphs).fraction with
      | none => simp [parts, NumberParts.hasDigit] at fraction
      | some digits =>
        simp only [Option.elim_some]
        omega

theorem operator?_length_pos {glyphs : List Glyph} {kind : TokenKind} {length : Nat}
    (found : operator? glyphs = some (kind, length)) : 0 < length := by
  have positive : ∀ entry ∈ operators, 0 < entry.1 := by decide
  obtain ⟨entry, fits, same⟩ := Option.map_eq_some_iff.1 found
  cases same
  exact positive entry (List.mem_of_find?_eq_some fits)

end Lexeme

open Lexeme in
theorem lexeme?_length_pos {glyphs : List Glyph} {kind : TokenKind} {length : Nat}
    (found : lexeme? glyphs = some (kind, length)) : 0 < length := by
  have quoted {kind' : TokenKind} {inner : Option Nat}
      (found : inner.map (fun length => (kind', length + 1)) = some (kind, length)) :
      0 < length := by
    obtain ⟨_, _, same⟩ := Option.map_eq_some_iff.1 found
    cases same
    exact Nat.succ_pos _
  unfold lexeme? at found
  split at found
  · cases found
  · rename_i glyph rest
    split at found
    · rename_i letter
      have isNameChar : Text.isNameChar glyph.char = true := by simp [Text.isNameChar, letter]
      cases found
      simp [run, isNameChar]
    · split at found
      · exact number?_length_pos found
      · split at found
        · exact quoted found
        · exact quoted found
        · exact quoted found
        · exact operator?_length_pos found

namespace Lexing

/-- A step that does not end the cutting spends a character. -/
theorem step_shortens {lexing next : Lexing} (found : lexing.step = some (.inl next)) :
    next.ahead.length < lexing.ahead.length := by
  unfold step at found
  split at found
  · cases found
  · rename_i glyph rest ahead
    have shorter {length : Nat} (positive : 0 < length) :
        (lexing.ahead.drop length).length < lexing.ahead.length := by
      rw [List.length_drop, ahead, List.length_cons]
      omega
    split at found
    · cases found
      exact shorter Nat.one_pos
    · split at found
      · cases found
        exact shorter Nat.one_pos
      · split at found
        · rename_i comment
          obtain ⟨length, rfl, same⟩ := Option.map_eq_some_iff.1 found
          cases same
          exact shorter (Lexeme.comment?_length_pos comment)
        · obtain ⟨lexeme, measured, same⟩ := Option.map_eq_some_iff.1 found
          cases same
          exact shorter (lexeme?_length_pos measured)

theorem runWithin_eq {lexing : Lexing} {steps more : Nat} (enough : lexing.ahead.length < steps)
    (enough' : lexing.ahead.length < more) : lexing.runWithin steps = lexing.runWithin more := by
  induction steps generalizing lexing more with
  | zero => omega
  | succ steps ih =>
    obtain ⟨more, rfl⟩ : ∃ less, more = less + 1 := ⟨more - 1, by omega⟩
    rw [runWithin, runWithin]
    cases found : lexing.step with
    | none => rfl
    | some result =>
      cases result with
      | inr tokens => rfl
      | inl next =>
        have shorter := step_shortens found
        exact ih (by omega) (by omega)

end Lexing

/-- The tokens of a source, if it is cut in so many steps. -/
def tokensWithin? (steps : Nat) (glyphs : List Glyph) : Option (List Token) :=
  if glyphs.any fun glyph => glyph.char == '\x00' then none
  else ({ ahead := glyphs } : Lexing).runWithin steps

theorem tokensWithin?_eq {glyphs : List Glyph} {steps : Nat} (enough : glyphs.length < steps) :
    tokensWithin? steps glyphs = tokens? glyphs := by
  rw [tokensWithin?, tokens?, Lexing.runWithin_eq enough (Nat.lt_succ_self _)]

end SliceGuard.Syntax
