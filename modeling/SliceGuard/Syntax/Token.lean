import SliceGuard.Syntax.Node
import SliceGuard.Text.Letter
import SliceGuard.Text.Utf8

/-!
# Tokens of Go

A source is a sequence of tokens separated by blanks and comments.  A lexeme is measured before it
is cut out: `lexeme?` says what the next token is and how many characters long, for the names,
numbers, quoted texts and operators of Go.
-/

namespace SliceGuard.Syntax

open Text (Glyph)

inductive TokenKind where
  | name | keyword | operator
  | int | float | imaginary | rune | string | rawString
  /-- A line end that ends a statement. -/
  | newline
  | endOfFile
deriving DecidableEq, Repr, Inhabited

/-- A comment of a source. -/
structure Comment where
  span : Span
  text : String
deriving Repr, Inhabited

/-- A comment in a tree is a leaf without a role. -/
def Comment.node (comment : Comment) : Node :=
  .mk .comment none comment.span comment.text []

/-- A token with all that stands between the token before it and itself. -/
structure Token where
  kind : TokenKind
  text : String
  span : Span
  /-- The source text since the token before. -/
  before : String
  /-- The comments since the token before. -/
  comments : List Comment
deriving Repr, Inhabited

namespace Token

/-- The keyword or operator the token is; the other tokens have no sign. -/
def sign (token : Token) : String :=
  if token.kind == .operator || token.kind == .keyword then token.text else ""

/-- Whether the token is the given keyword or operator. -/
def is (token : Token) (text : String) : Bool :=
  token.sign == text

def isName (token : Token) : Bool :=
  token.kind == .name

/-- Statements, specifications and fields end with a semicolon or a line end. -/
def isTerminator (token : Token) : Bool :=
  token.kind == .newline || token.is ";"

end Token

/-- The words that are no names. -/
def keywords : List String :=
  ["break", "case", "chan", "const", "continue", "default", "defer", "else", "fallthrough", "for",
   "func", "go", "goto", "if", "import", "interface", "map", "package", "range", "return",
   "select", "struct", "switch", "type", "var"]

/-- The operators and punctuation by length, the longest first. -/
def operators : List (Nat × List String) :=
  [(3, ["<<=", ">>=", "&^=", "..."]),
   (2, ["<<", ">>", "&^", "+=", "-=", "*=", "/=", "%=", "&=", "|=", "^=", "&&", "||", "<-", "++",
        "--", "==", "!=", "<=", ">=", ":="]),
   (1, ["+", "-", "*", "/", "%", "&", "|", "^", "<", ">", "=", "!", "~", "(", ")", "[", "]",
        "\x7b", "\x7d", ",", ";", ".", ":"])]

/-- Whether a line end after the token ends a statement. -/
def TokenKind.endsLine (kind : TokenKind) (text : String) : Bool :=
  match kind with
  | .keyword => ["break", "continue", "fallthrough", "return"].contains text
  | .operator => ["++", "--", ")", "]", "\x7d"].contains text
  | .newline | .endOfFile => false
  | _ => true

namespace Lexeme

/-- The characters up to the first that does not satisfy `p`. -/
def run (p : Char → Bool) (glyphs : List Glyph) : List Char :=
  (glyphs.takeWhile fun glyph => p glyph.char).map Glyph.char

/-- The next character, if it satisfies `p`. -/
def nextIs (p : Char → Bool) : List Glyph → Bool
  | [] => false
  | glyph :: _ => p glyph.char

def isHex (c : Char) : Bool :=
  c.isDigit || ('a' ≤ c && c ≤ 'f') || ('A' ≤ c && c ≤ 'F')

def digitValue (c : Char) : Nat :=
  c.toNat - '0'.toNat

/-- Underscores stand singly between digits; `led` says that a base stands before the digits. -/
def wellSeparated (led : Bool) : List Char → Bool
  | [] => true
  | '_' :: rest => led && !rest.isEmpty && wellSeparated false rest
  | _ :: rest => wellSeparated true rest

/-- The digits of a number before the point, after it and in the exponent. -/
structure NumberParts where
  /-- The base a leading `0x`, `0o` or `0b` gives. -/
  base : Option Nat
  whole : List Char
  fraction : Option (List Char)
  /-- The exponent with the number of characters of its mark and sign. -/
  exponent : Option (Nat × List Char)
  imaginary : Bool
deriving Repr

namespace NumberParts

def length (parts : NumberParts) : Nat :=
  (if parts.base.isSome then 2 else 0) + parts.whole.length +
    (parts.fraction.elim 0 fun digits => digits.length + 1) +
    (parts.exponent.elim 0 fun e => e.1 + e.2.length) +
    (if parts.imaginary then 1 else 0)

def hasDigit (digits : List Char) : Bool :=
  digits.any isHex

def below (base : Nat) (digits : List Char) : Bool :=
  digits.all fun c => c == '_' || digitValue c < base

def kind (parts : NumberParts) : TokenKind :=
  if parts.imaginary then .imaginary
  else if parts.fraction.isSome || parts.exponent.isSome then .float
  else .int

/-- Whether the digits fit the base and each other.  A leading zero makes an integer octal. -/
def isValid (parts : NumberParts) : Bool :=
  let fraction := parts.fraction.getD []
  let digitsFit :=
    match parts.base with
    | some 16 => parts.fraction.isNone || parts.exponent.isSome
    | some base => parts.fraction.isNone && parts.exponent.isNone && below base parts.whole
    | none => parts.kind != .int || parts.whole.head? != some '0' || below 8 parts.whole
  digitsFit && (hasDigit parts.whole || hasDigit fraction) &&
    parts.exponent.all (fun e => hasDigit e.2 && wellSeparated false e.2) &&
    wellSeparated parts.base.isSome parts.whole && wellSeparated false fraction

end NumberParts

/-- The base given by the first two characters of a number. -/
def numberBase : List Glyph → Option Nat
  | zero :: mark :: _ =>
    if zero.char != '0' then none
    else match mark.char with
      | 'x' | 'X' => some 16
      | 'o' | 'O' => some 8
      | 'b' | 'B' => some 2
      | _ => none
  | _ => none

/-- The parts of the number at the front. -/
def numberParts (glyphs : List Glyph) : NumberParts :=
  let base := numberBase glyphs
  let isBaseDigit := fun c => (if base == some 16 then isHex c else c.isDigit) || c == '_'
  let afterBase := if base.isSome then glyphs.drop 2 else glyphs
  let whole := run isBaseDigit afterBase
  let afterWhole := afterBase.drop whole.length
  let fraction :=
    if nextIs (· == '.') afterWhole then some (run isBaseDigit (afterWhole.drop 1)) else none
  let afterFraction := afterWhole.drop (fraction.elim 0 fun digits => digits.length + 1)
  let isMark := fun c =>
    match base with
    | none => c == 'e' || c == 'E'
    | some 16 => c == 'p' || c == 'P'
    | some _ => false
  let exponent :=
    if nextIs isMark afterFraction then
      let signed := nextIs (fun c => c == '+' || c == '-') (afterFraction.drop 1)
      let lead := if signed then 2 else 1
      some (lead, run (fun c => c.isDigit || c == '_') (afterFraction.drop lead))
    else none
  let afterExponent := afterFraction.drop (exponent.elim 0 fun e => e.1 + e.2.length)
  { base, whole, fraction, exponent, imaginary := nextIs (· == 'i') afterExponent }

def number? (glyphs : List Glyph) : Option (TokenKind × Nat) :=
  let parts := numberParts glyphs
  if parts.isValid then some (parts.kind, parts.length) else none

/-- The number of characters of an escape, without its backslash. -/
def escape? (quote : Char) (glyphs : List Glyph) : Option Nat :=
  let digits := fun (skip count : Nat) (p : Char → Bool) =>
    let found := (glyphs.drop skip).take count
    if found.length == count && found.all (fun glyph => p glyph.char) then some (skip + count)
    else none
  match glyphs with
  | [] => none
  | glyph :: _ =>
    match glyph.char with
    | 'x' => digits 1 2 isHex
    | 'u' => digits 1 4 isHex
    | 'U' => digits 1 8 isHex
    | c =>
      if '0' ≤ c && c ≤ '7' then digits 0 3 fun d => '0' ≤ d && d ≤ '7'
      else if c == quote || ['a', 'b', 'f', 'n', 'r', 't', 'v', '\\'].contains c then some 1
      else none

/-- The length of a quoted text after its opening quote, the closing one included; `skip`
characters belong to an escape. -/
def quoted? (skip : Nat) : List Glyph → Option Nat
  | [] => none
  | glyph :: rest =>
    if skip > 0 then (quoted? (skip - 1) rest).map (· + 1)
    else match glyph.char with
      | '"' => some 1
      | '\n' => none
      | '\\' => (escape? '"' rest).bind fun length => (quoted? length rest).map (· + 1)
      | _ => (quoted? 0 rest).map (· + 1)

/-- The length of a rune after its opening quote, the closing one included. -/
def rune? : List Glyph → Option Nat
  | [] => none
  | glyph :: rest =>
    let inner :=
      match glyph.char with
      | '\\' => (escape? '\'' rest).map (· + 1)
      | '\'' | '\n' => none
      | _ => if glyph.sound then some 1 else none
    inner.bind fun length =>
      if nextIs (· == '\'') ((glyph :: rest).drop length) then some (length + 1) else none

/-- The length of a raw text after its opening quote, the closing one included. -/
def raw? : List Glyph → Option Nat
  | [] => none
  | glyph :: rest => if glyph.char == '\x60' then some 1 else (raw? rest).map (· + 1)

/-- The length of a block comment after its opening, its closing included. -/
def blockComment? : List Glyph → Option Nat
  | [] => none
  | glyph :: rest =>
    if glyph.char == '*' && nextIs (· == '/') rest then some 2
    else (blockComment? rest).map (· + 1)

/-- The comment at the front, if there is one, and its length if it is closed. -/
def comment? (glyphs : List Glyph) : Option (Option Nat) :=
  match glyphs with
  | first :: second :: rest =>
    if first.char != '/' then none
    else if second.char == '/' then some (some ((run (· != '\n') rest).length + 2))
    else if second.char == '*' then some ((blockComment? rest).map (· + 2))
    else none
  | _ => none

/-- The operator at the front, the longest one that fits. -/
def operator? (glyphs : List Glyph) : Option (TokenKind × Nat) :=
  (operators.find? fun entry => entry.2.contains (Glyph.text (glyphs.take entry.1))).map
    fun entry => (.operator, entry.1)

end Lexeme

open Lexeme in
/-- The kind and the length of the token at the front. -/
def lexeme? (glyphs : List Glyph) : Option (TokenKind × Nat) :=
  match glyphs with
  | [] => none
  | glyph :: rest =>
    if Text.isLetter glyph.char then
      let word := run Text.isNameChar glyphs
      some (if keywords.contains (String.ofList word) then .keyword else .name, word.length)
    else if glyph.char.isDigit || (glyph.char == '.' && nextIs Char.isDigit rest) then
      number? glyphs
    else match glyph.char with
      | '"' => (quoted? 0 rest).map fun length => (.string, length + 1)
      | '\'' => (rune? rest).map fun length => (.rune, length + 1)
      | '\x60' => (raw? rest).map fun length => (.rawString, length + 1)
      | _ => operator? glyphs

end SliceGuard.Syntax
