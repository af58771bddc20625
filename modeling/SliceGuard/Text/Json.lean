import SliceGuard.Text.Quoted

/-!
# JSON

JSON values and their text: one item to a line, indented by tabs, and with every character beyond
ASCII escaped.
-/

namespace SliceGuard.Text

/-- A JSON value.  A number is a whole number divided by a power of ten, and the fields of an object
keep their order. -/
inductive Json where
  | null
  | bool (value : Bool)
  | number (mantissa : Int) (places : Nat)
  | string (value : String)
  | array (items : List Json)
  | object (fields : List (String × Json))
deriving Inhabited

namespace Json

/-- The escape of a code unit of sixteen bits. -/
def unitEscape (unit : Nat) : List Char :=
  '\\' :: 'u' :: hexDigits 4 unit

/-- A character of a string: printable ASCII stands for itself, and what is beyond the first plane
is written as two code units. -/
def stringChar (c : Char) : List Char :=
  match c with
  | '"' => ['\\', '"']
  | '\\' => ['\\', '\\']
  | '\n' => ['\\', 'n']
  | '\r' => ['\\', 'r']
  | '\t' => ['\\', 't']
  | '\x08' => ['\\', 'b']
  | '\x0c' => ['\\', 'f']
  | _ =>
    let point := c.toNat
    if 0x20 ≤ point && point ≤ 0x7E then [c]
    else if point ≤ 0xFFFF then unitEscape point
    else
      let above := point - 0x10000
      unitEscape (0xD800 + above / 0x400) ++ unitEscape (0xDC00 + above % 0x400)

def stringText (text : String) : String :=
  String.ofList ('"' :: text.toList.flatMap stringChar ++ ['"'])

def newLine (depth : Nat) : String :=
  String.ofList ('\n' :: List.replicate depth '\t')

/-- Items between brackets, one to a line; nothing stands between the brackets of no items. -/
def enclosed (opening closing : String) (depth : Nat) (items : List String) : String :=
  if items.isEmpty then opening ++ closing
  else
    let inside := ("," ++ newLine (depth + 1)).intercalate items
    opening ++ newLine (depth + 1) ++ inside ++ newLine depth ++ closing

/-- A number with its decimal places. -/
def numberText (mantissa : Int) (places : Nat) : String :=
  if places = 0 then toString mantissa
  else
    let sign := if mantissa < 0 then "-" else ""
    let digits := Nat.toDigits 10 mantissa.natAbs
    let padded := List.replicate (places + 1 - digits.length) '0' ++ digits
    let whole := padded.take (padded.length - places)
    sign ++ String.ofList (whole ++ '.' :: padded.drop (padded.length - places))

/-- The whole number a number is, if it is one. -/
def whole? (mantissa : Int) (places : Nat) : Option Int :=
  let unit : Int := Nat.pow 10 places
  if mantissa % unit = 0 then some (mantissa / unit) else none

def nat (value : Nat) : Json :=
  number value 0

mutual

/-- The text of a value at a depth. -/
def render (depth : Nat) : Json → String
  | null => "null"
  | bool true => "true"
  | bool false => "false"
  | number mantissa places => numberText mantissa places
  | string value => stringText value
  | array items => enclosed "[" "]" depth (renderItems (depth + 1) items)
  | object fields => enclosed "\x7b" "\x7d" depth (renderFields (depth + 1) fields)

/-- The texts of the items of an array. -/
def renderItems (depth : Nat) : List Json → List String
  | [] => []
  | item :: rest => render depth item :: renderItems depth rest

/-- The texts of the fields of an object. -/
def renderFields (depth : Nat) : List (String × Json) → List String
  | [] => []
  | (key, value) :: rest =>
    (stringText key ++ ": " ++ render depth value) :: renderFields depth rest

end

def text (value : Json) : String :=
  value.render 0

def field? (key : String) : Json → Option Json
  | object fields => (fields.find? (·.1 == key)).map Prod.snd
  | _ => none

end Json

end SliceGuard.Text
