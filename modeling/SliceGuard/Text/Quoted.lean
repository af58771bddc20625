import SliceGuard.Text.Printable

/-!
# Quoted text

A text is quoted in single quotes, or in double quotes if it has single quotes and no double ones.
Backslashes, the enclosing quote and characters that are not printable are escaped.
-/

namespace SliceGuard.Text

/-- The digits of a number in base sixteen, padded with zeros to a width. -/
def hexDigits (width number : Nat) : List Char :=
  let digits := Nat.toDigits 16 number
  List.replicate (width - digits.length) '0' ++ digits

/-- The quote that encloses a text. -/
def enclosingQuote (text : List Char) : Char :=
  if text.contains '\'' && !text.contains '"' then '"' else '\''

def quotedChar (quote c : Char) : List Char :=
  if c == quote || c == '\\' then ['\\', c]
  else if c == '\n' then ['\\', 'n']
  else if c == '\r' then ['\\', 'r']
  else if c == '\t' then ['\\', 't']
  else if isPrintable c then [c]
  else if c.toNat ≤ 0xFF then '\\' :: 'x' :: hexDigits 2 c.toNat
  else if c.toNat ≤ 0xFFFF then '\\' :: 'u' :: hexDigits 4 c.toNat
  else '\\' :: 'U' :: hexDigits 8 c.toNat

def quoted (text : String) : String :=
  let chars := text.toList
  let quote := enclosingQuote chars
  String.ofList (quote :: chars.flatMap (quotedChar quote) ++ [quote])

/-- Whether a character is blank in any script. -/
def isBlank (c : Char) : Bool :=
  let n := c.toNat
  (0x09 ≤ n && n ≤ 0x0D) || (0x1C ≤ n && n ≤ 0x20) || n == 0x85 || n == 0xA0 || n == 0x1680 ||
    (0x2000 ≤ n && n ≤ 0x200A) || n == 0x2028 || n == 0x2029 || n == 0x202F || n == 0x205F ||
    n == 0x3000

/-- A text without the blanks at its ends. -/
def trimmed (text : List Char) : List Char :=
  ((text.dropWhile isBlank).reverse.dropWhile isBlank).reverse

/-- A text with the capital letters of ASCII made small. -/
def lowered (text : List Char) : List Char :=
  text.map Char.toLower

end SliceGuard.Text
