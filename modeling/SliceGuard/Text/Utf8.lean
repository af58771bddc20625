/-!
# Reading bytes as text

Bytes are read as UTF-8 one at a time.  Every maximal ill-formed stretch stands for one
replacement character, so every sequence of bytes has a text, and each character knows how many
bytes it was read from.
-/

namespace SliceGuard.Text

/-- A character of a text together with the number of bytes it was read from. -/
structure Glyph where
  char : Char
  width : Nat
  /-- Whether the bytes were well formed; an ill-formed stretch reads as U+FFFD. -/
  sound : Bool
deriving DecidableEq, Repr, Inhabited

namespace Utf8

/-- A character of which some bytes are read: the value so far, the bytes read, the bytes owed
and the range the next byte has to lie in. -/
structure Pending where
  value : Nat
  width : Nat
  owed : Nat
  low : Nat
  high : Nat
deriving DecidableEq, Repr

/-- What the bytes of a character cut short read as. -/
def Pending.cut (pending : Pending) : Glyph :=
  ⟨Char.ofNat 0xFFFD, pending.width, false⟩

/-- The first byte of a character: either a whole character, a pending one, or an ill-formed
byte on its own. -/
def lead (byte : Nat) : List Glyph × Option Pending :=
  if byte < 0x80 then ([⟨Char.ofNat byte, 1, true⟩], none)
  else if 0xC2 ≤ byte ∧ byte ≤ 0xDF then ([], some ⟨byte - 0xC0, 1, 1, 0x80, 0xBF⟩)
  else if byte = 0xE0 then ([], some ⟨0, 1, 2, 0xA0, 0xBF⟩)
  else if byte = 0xED then ([], some ⟨0xD, 1, 2, 0x80, 0x9F⟩)
  else if 0xE1 ≤ byte ∧ byte ≤ 0xEF then ([], some ⟨byte - 0xE0, 1, 2, 0x80, 0xBF⟩)
  else if byte = 0xF0 then ([], some ⟨0, 1, 3, 0x90, 0xBF⟩)
  else if 0xF1 ≤ byte ∧ byte ≤ 0xF3 then ([], some ⟨byte - 0xF0, 1, 3, 0x80, 0xBF⟩)
  else if byte = 0xF4 then ([], some ⟨4, 1, 3, 0x80, 0x8F⟩)
  else ([⟨Char.ofNat 0xFFFD, 1, false⟩], none)

/-- One byte: the characters it completes and the character it leaves pending.  A byte outside
the range of the pending character cuts that character short and starts anew. -/
def step (pending : Option Pending) (byte : Nat) : List Glyph × Option Pending :=
  match pending with
  | none => lead byte
  | some p =>
    if p.low ≤ byte ∧ byte ≤ p.high then
      let value := p.value * 64 + (byte - 0x80)
      if p.owed ≤ 1 then ([⟨Char.ofNat value, p.width + 1, true⟩], none)
      else ([], some ⟨value, p.width + 1, p.owed - 1, 0x80, 0xBF⟩)
    else (p.cut :: (lead byte).1, (lead byte).2)

/-- The characters of the bytes that follow a pending character. -/
def decodeFrom (pending : Option Pending) : List UInt8 → List Glyph
  | [] => (pending.map Pending.cut).toList
  | byte :: rest =>
    (step pending byte.toNat).1 ++ decodeFrom (step pending byte.toNat).2 rest

def decode (bytes : List UInt8) : List Glyph :=
  decodeFrom none bytes

@[simp] theorem decode_nil : decode [] = [] := rfl

end Utf8

def Glyph.text (glyphs : List Glyph) : String :=
  String.ofList (glyphs.map Glyph.char)

end SliceGuard.Text
