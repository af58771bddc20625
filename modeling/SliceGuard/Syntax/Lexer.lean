import SliceGuard.Syntax.Token

/-!
# Cutting a source into tokens

Blanks and comments are kept with the token that follows them.  A line end counts as a token where
it ends a statement, that is after a token that may end one.
-/

namespace SliceGuard.Syntax

open Text (Glyph)

/-- A place in a source: bytes before it, rows before it, bytes before it in its row. -/
structure Mark where
  offset : Nat
  row : Nat
  column : Nat
deriving DecidableEq, Repr, Inhabited

namespace Mark

def past (mark : Mark) (glyph : Glyph) : Mark :=
  if glyph.char == '\n' then ⟨mark.offset + glyph.width, mark.row + 1, 0⟩
  else ⟨mark.offset + glyph.width, mark.row, mark.column + glyph.width⟩

def pastAll (mark : Mark) (glyphs : List Glyph) : Mark :=
  glyphs.foldl past mark

def spanTo (first last : Mark) : Span :=
  ⟨first.offset, last.offset, first.row, first.column⟩

end Mark

/-- A source of which the front is cut into tokens. -/
structure Lexing where
  mark : Mark := ⟨0, 0, 0⟩
  ahead : List Glyph
  /-- The text since the last token. -/
  before : String := ""
  /-- The comments since the last token, the last one first. -/
  comments : List Comment := []
  /-- Whether a line end would end a statement. -/
  endsLine : Bool := false
  /-- The tokens so far, the last one first. -/
  tokens : List Token := []

namespace Lexing

/-- The first `length` characters ahead as a token. -/
def cut (lexing : Lexing) (kind : TokenKind) (length : Nat) : Lexing :=
  let taken := lexing.ahead.take length
  let stop := lexing.mark.pastAll taken
  let text := Glyph.text taken
  let token : Token :=
    { kind, text, span := lexing.mark.spanTo stop, before := lexing.before,
      comments := lexing.comments.reverse }
  { mark := stop, ahead := lexing.ahead.drop length, endsLine := kind.endsLine text,
    tokens := token :: lexing.tokens }

/-- The first `length` characters ahead passed over; as a comment they are kept. -/
def pass (lexing : Lexing) (length : Nat) (isComment : Bool) : Lexing :=
  let taken := lexing.ahead.take length
  let stop := lexing.mark.pastAll taken
  let text := Glyph.text taken
  let comments :=
    if isComment then ⟨lexing.mark.spanTo stop, text⟩ :: lexing.comments
    else lexing.comments
  { lexing with mark := stop, ahead := lexing.ahead.drop length,
                before := lexing.before ++ text, comments }

/-- A blank; at the very start of a source also a byte order mark. -/
def isBlank (lexing : Lexing) (c : Char) : Bool :=
  [' ', '\t', '\r', '\n'].contains c || (lexing.mark.offset == 0 && c == '\uFEFF')

/-- One blank, comment or token of the source, or the tokens if there is nothing ahead. -/
def step (lexing : Lexing) : Option (Lexing ⊕ List Token) :=
  match lexing.ahead with
  | [] =>
    let ended := if lexing.endsLine then lexing.cut .newline 0 else lexing
    some (.inr (ended.cut .endOfFile 0).tokens.reverse)
  | glyph :: _ =>
    if glyph.char == '\n' && lexing.endsLine then some (.inl (lexing.cut .newline 1))
    else if lexing.isBlank glyph.char then some (.inl (lexing.pass 1 false))
    else match Lexeme.comment? lexing.ahead with
      | some length => length.map fun n => .inl (lexing.pass n true)
      | none => (lexeme? lexing.ahead).map fun found => .inl (lexing.cut found.1 found.2)

/-- The tokens of the source, with a bound on the number of steps. -/
def runWithin : Nat → Lexing → Option (List Token)
  | 0, _ => none
  | steps + 1, lexing =>
    match lexing.step with
    | none => none
    | some (.inl next) => runWithin steps next
    | some (.inr tokens) => some tokens

end Lexing

/-- The tokens of a source, the last of which is the end of the file; none if some characters are
no token.  A NUL character makes no source. -/
def tokens? (glyphs : List Glyph) : Option (List Token) :=
  if glyphs.any fun glyph => glyph.char == '\x00' then none
  else ({ ahead := glyphs } : Lexing).runWithin (glyphs.length + 1)

end SliceGuard.Syntax
