import Mathlib.Data.List.Basic
import SliceGuard.Text.Json

/-!
# Reading JSON

A reader of JSON.  What stands for a character in a string is read as its code units, and these as
the character again.  A number is read back digit by digit, whatever its sign and its decimal
places.
-/

namespace SliceGuard.Text.Json

section Reader

/-- A character that may stand between the symbols of a text. -/
def isSpace (c : Char) : Bool :=
  c == ' ' || c == '\t' || c == '\n' || c == '\r'

def skip (text : List Char) : List Char :=
  text.dropWhile isSpace

/-- What follows a symbol, which may have spaces in front. -/
def symbol? (symbol : Char) (text : List Char) : Option (List Char) :=
  match skip text with
  | [] => none
  | first :: rest => if first = symbol then some rest else none

/-- A number without a sign: its digits as one number, how many of them are decimal places, and what
follows.  There is a digit on both sides of the point and no needless zero in front, and an exponent
is not read. -/
def unsigned? (text : List Char) : Option (Nat × Nat × List Char) :=
  let whole := text.takeWhile Char.isDigit
  if whole = [] ∨ whole.head? = some '0' ∧ whole ≠ ['0'] then none
  else
    match text.dropWhile Char.isDigit with
    | '.' :: rest =>
      let decimals := rest.takeWhile Char.isDigit
      if decimals = [] then none
      else
        some (Nat.ofDigitChars 10 (whole ++ decimals) 0, decimals.length,
          rest.dropWhile Char.isDigit)
    | rest => some (Nat.ofDigitChars 10 whole 0, 0, rest)

def number? : List Char → Option (Json × List Char)
  | '-' :: text => do
    let (digits, places, rest) ← unsigned? text
    some (number (-digits) places, rest)
  | text => do
    let (digits, places, rest) ← unsigned? text
    some (number digits places, rest)

def hexValue? (c : Char) : Option Nat :=
  if c.isDigit then some (c.toNat - '0'.toNat)
  else if 'a' ≤ c ∧ c ≤ 'f' then some (c.toNat - 'a'.toNat + 10)
  else if 'A' ≤ c ∧ c ≤ 'F' then some (c.toNat - 'A'.toNat + 10)
  else none

def hexNumber? (digits : List Char) : Option Nat :=
  digits.foldlM (fun number digit => (hexValue? digit).map (16 * number + ·)) 0

/-- The code units of sixteen bits of a character. -/
def codeUnits (c : Char) : List Nat :=
  let point := c.toNat
  if point ≤ 0xFFFF then [point]
  else [0xD800 + (point - 0x10000) / 0x400, 0xDC00 + (point - 0x10000) % 0x400]

/-- The characters of code units.  A unit that is half a character has to stand beside its other
half. -/
def ofCodeUnits? : List Nat → Option (List Char)
  | [] => some []
  | unit :: units =>
    if unit < 0xD800 ∨ 0xDFFF < unit then
      (ofCodeUnits? units).map (Char.ofNat unit :: ·)
    else
      match units with
      | [] => none
      | low :: units =>
        if unit < 0xDC00 ∧ 0xDC00 ≤ low ∧ low ≤ 0xDFFF then
          (ofCodeUnits? units).map
            (Char.ofNat (0x10000 + (unit - 0xD800) * 0x400 + (low - 0xDC00)) :: ·)
        else none

/-- The character that a letter after a backslash stands for. -/
def escaped? : Char → Option Char
  | '"' => some '"'
  | '\\' => some '\\'
  | '/' => some '/'
  | 'n' => some '\n'
  | 'r' => some '\r'
  | 't' => some '\t'
  | 'b' => some '\x08'
  | 'f' => some '\x0c'
  | _ => none

/-- The code units of a string up to its closing quote, and what follows. -/
def units? : List Char → Option (List Nat × List Char)
  | [] => none
  | '"' :: rest => some ([], rest)
  | '\\' :: 'u' :: a :: b :: c :: d :: rest => do
    let unit ← hexNumber? [a, b, c, d]
    let (units, rest) ← units? rest
    some (unit :: units, rest)
  | '\\' :: letter :: rest => do
    let c ← escaped? letter
    let (units, rest) ← units? rest
    some (codeUnits c ++ units, rest)
  | c :: rest =>
    if c.toNat < 0x20 then none
    else do
      let (units, rest) ← units? rest
      some (codeUnits c ++ units, rest)

/-- The rest of a string whose opening quote is read. -/
def string? (text : List Char) : Option (String × List Char) := do
  let (units, rest) ← units? text
  let characters ← ofCodeUnits? units
  some (String.ofList characters, rest)

mutual

/-- The value at the beginning of a text, and what follows.  Every reader spends a unit of fuel. -/
def value? : Nat → List Char → Option (Json × List Char)
  | 0, _ => none
  | fuel + 1, text =>
    match skip text with
    | '"' :: rest => do
      let (value, rest) ← string? rest
      some (string value, rest)
    | '[' :: rest =>
      match symbol? ']' rest with
      | some rest => some (array [], rest)
      | none => do
        let (items, rest) ← items? fuel rest
        some (array items, rest)
    | '\x7b' :: rest =>
      match symbol? '\x7d' rest with
      | some rest => some (object [], rest)
      | none => do
        let (fields, rest) ← fields? fuel rest
        some (object fields, rest)
    | 'n' :: 'u' :: 'l' :: 'l' :: rest => some (null, rest)
    | 't' :: 'r' :: 'u' :: 'e' :: rest => some (bool true, rest)
    | 'f' :: 'a' :: 'l' :: 's' :: 'e' :: rest => some (bool false, rest)
    | text => number? text

/-- The items of an array up to its closing bracket. -/
def items? : Nat → List Char → Option (List Json × List Char)
  | 0, _ => none
  | fuel + 1, text => do
    let (item, rest) ← value? fuel text
    match symbol? ']' rest with
    | some rest => some ([item], rest)
    | none =>
      let (items, rest) ← items? fuel (← symbol? ',' rest)
      some (item :: items, rest)

/-- The fields of an object up to its closing bracket. -/
def fields? : Nat → List Char → Option (List (String × Json) × List Char)
  | 0, _ => none
  | fuel + 1, text => do
    let (key, rest) ← string? (← symbol? '"' text)
    let (value, rest) ← value? fuel (← symbol? ':' rest)
    match symbol? '\x7d' rest with
    | some rest => some ([(key, value)], rest)
    | none =>
      let (fields, rest) ← fields? fuel (← symbol? ',' rest)
      some ((key, value) :: fields, rest)

end

/-- The value that a whole text is.  Nested values leave at least a character less each, so the
length of the text is fuel enough. -/
def ofText? (text : String) : Option Json := do
  let (value, rest) ← value? (text.toList.length + 1) text.toList
  if skip rest = [] then some value else none

end Reader

section Strings

theorem hexValue?_digitChar : ∀ digit < 16, hexValue? digit.digitChar = some digit := by
  decide

/-- The digits of a number are read back as that number. -/
theorem hexNumber?_toDigits (number : Nat) :
    hexNumber? (Nat.toDigits 16 number) = some number := by
  induction number using Nat.strongRecOn with
  | ind number ih =>
    rw [Nat.toDigits_eq_if (by decide)]
    split
    · rename_i small
      simp [hexNumber?, hexValue?_digitChar number small]
    · have last := hexValue?_digitChar (number % 16) (Nat.mod_lt _ (by decide))
      have front := ih (number / 16) (by omega)
      unfold hexNumber? at front ⊢
      rw [List.foldlM_append, front]
      simp [last, Nat.div_add_mod]

theorem hexNumber?_hexDigits (width number : Nat) :
    hexNumber? (hexDigits width number) = some number := by
  have zeros (count : Nat) : hexNumber? (List.replicate count '0') = some 0 := by
    induction count with
    | zero => rfl
    | succ count ih => exact ih
  have digits := hexNumber?_toDigits number
  unfold hexNumber? at zeros digits ⊢
  rw [hexDigits, List.foldlM_append, zeros]
  exact digits

theorem length_hexDigits {unit : Nat} (small : unit < 0x10000) : (hexDigits 4 unit).length = 4 := by
  have short : (Nat.toDigits 16 unit).length ≤ 4 :=
    (Nat.length_toDigits_le_iff (by decide) (by decide)).2 small
  rw [hexDigits, List.length_append, List.length_replicate]
  omega

/-- An escape is read as its code unit. -/
theorem units?_unitEscape {unit : Nat} (small : unit < 0x10000) (rest : List Char) :
    units? (unitEscape unit ++ rest) =
      (units? rest).map fun read => (unit :: read.1, read.2) := by
  obtain ⟨a, b, c, d, digits⟩ :=
    List.length_eq_four.1 (length_hexDigits small)
  have number := hexNumber?_hexDigits 4 unit
  rw [digits] at number
  rw [unitEscape, digits]
  simp only [List.cons_append, List.nil_append, units?, number]
  cases units? rest <;> rfl

theorem units?_escaped {letter c : Char} (named : escaped? letter = some c) (rest : List Char) :
    units? ('\\' :: letter :: rest) =
      (units? rest).map fun read => (codeUnits c ++ read.1, read.2) := by
  rw [units?]
  · rw [named]
    cases units? rest <;> rfl
  · rintro _ _ _ _ _ rfl
    cases named

theorem units?_plain {c : Char} (visible : 0x20 ≤ c.toNat) (quote : c ≠ '"')
    (backslash : c ≠ '\\') (rest : List Char) :
    units? (c :: rest) = (units? rest).map fun read => (codeUnits c ++ read.1, read.2) := by
  rw [units?, if_neg (by omega)]
  · cases units? rest <;> rfl
  · exact quote
  · intro _ _ _ _ _ same _
    exact backslash same
  · intro _ _ same _
    exact backslash same

/-- What stands for a character in a string is read as its code units. -/
theorem units?_stringChar (c : Char) (rest : List Char) :
    units? (stringChar c ++ rest) =
      (units? rest).map fun read => (codeUnits c ++ read.1, read.2) := by
  have valid : c.toNat < 0x110000 := by
    have := c.valid
    change Nat.isValidChar c.toNat at this
    rcases this with low | high <;> omega
  unfold stringChar
  split
  iterate 7 exact units?_escaped rfl rest
  rename_i quote backslash _ _ _ _ _
  dsimp only
  split
  · rename_i printable
    simp only [Bool.and_eq_true, decide_eq_true_eq] at printable
    exact units?_plain printable.1 quote backslash rest
  · split
    · rename_i small
      rw [codeUnits, if_pos small]
      exact units?_unitEscape (Nat.lt_succ_of_le small) rest
    · rename_i large
      have high : 0xD800 + (c.toNat - 0x10000) / 0x400 < 0x10000 := by omega
      have low : 0xDC00 + (c.toNat - 0x10000) % 0x400 < 0x10000 := by omega
      rw [List.append_assoc, units?_unitEscape high, units?_unitEscape low, codeUnits, if_neg large]
      cases units? rest <;> rfl

theorem units?_flatMap_stringChar (text rest : List Char) :
    units? (text.flatMap stringChar ++ '"' :: rest) = some (text.flatMap codeUnits, rest) := by
  induction text with
  | nil => rw [List.flatMap_nil, List.nil_append, units?]; rfl
  | cons c text ih =>
    rw [List.flatMap_cons, List.append_assoc, units?_stringChar, ih]
    rfl

theorem ofCodeUnits?_codeUnits (c : Char) (units : List Nat) :
    ofCodeUnits? (codeUnits c ++ units) = (ofCodeUnits? units).map (c :: ·) := by
  have valid : c.toNat < 0xD800 ∨ 0xDFFF < c.toNat ∧ c.toNat < 0x110000 := c.valid
  by_cases small : c.toNat ≤ 0xFFFF
  · rw [codeUnits, if_pos small, List.singleton_append, ofCodeUnits?.eq_def]
    dsimp only
    rw [if_pos (by omega), Char.ofNat_toNat]
  · have point : 0x10000 + (0xD800 + (c.toNat - 0x10000) / 0x400 - 0xD800) * 0x400 +
        (0xDC00 + (c.toNat - 0x10000) % 0x400 - 0xDC00) = c.toNat := by omega
    rw [codeUnits, if_neg small, List.cons_append, List.singleton_append, ofCodeUnits?.eq_def]
    dsimp only
    rw [if_neg (by omega), if_pos (by omega), point, Char.ofNat_toNat]

/-- A string is read back up to its closing quote. -/
theorem string?_flatMap_stringChar (value : String) (rest : List Char) :
    string? (value.toList.flatMap stringChar ++ '"' :: rest) = some (value, rest) := by
  have characters (text : List Char) : ofCodeUnits? (text.flatMap codeUnits) = some text := by
    induction text with
    | nil => rfl
    | cons c text ih => rw [List.flatMap_cons, ofCodeUnits?_codeUnits, ih]; rfl
  simp [string?, units?_flatMap_stringChar, characters]

end Strings

section Numbers

/-- What may follow a number, which would go on with a digit or a point. -/
def EndsNumber (rest : List Char) : Prop :=
  ∀ c ∈ rest.head?, c.isDigit = false ∧ c ≠ '.'

theorem endsNumber_cons {c : Char} {rest : List Char} (symbol : c.isDigit = false)
    (point : c ≠ '.') : EndsNumber (c :: rest) := by
  rintro _ ⟨⟩
  exact ⟨symbol, point⟩

theorem takeWhile_digits {digits rest : List Char} (all : ∀ c ∈ digits, c.isDigit = true)
    (ends : ∀ c ∈ rest.head?, c.isDigit = false) :
    (digits ++ rest).takeWhile Char.isDigit = digits ∧
      (digits ++ rest).dropWhile Char.isDigit = rest := by
  rw [List.takeWhile_append_of_pos all, List.dropWhile_append_of_pos all]
  cases rest with
  | nil => simp
  | cons c rest =>
    have symbol := ends c rfl
    simp [symbol]

/-- Digits that may stand in front of a point. -/
def IsWhole (digits : List Char) : Prop :=
  digits ≠ [] ∧ (digits.head? = some '0' → digits = ['0'])

theorem IsWhole.not_refused {digits : List Char} (whole : IsWhole digits) :
    ¬(digits = [] ∨ digits.head? = some '0' ∧ digits ≠ ['0']) := by
  rintro (none | ⟨zero, more⟩)
  · exact whole.1 none
  · exact more (whole.2 zero)

theorem head?_toDigits_ne {number : Nat} (positive : 0 < number) :
    (Nat.toDigits 10 number).head? ≠ some '0' := by
  induction number using Nat.strongRecOn with
  | ind number ih =>
    have digit : ∀ n < 10, 0 < n → n.digitChar ≠ '0' := by decide
    rw [Nat.toDigits_eq_if (by decide)]
    split
    · rename_i small
      simpa using digit number small positive
    · have front := ih (number / 10) (by omega) (by omega)
      rw [List.head?_append_of_ne_nil _ Nat.toDigits_ne_nil]
      exact front

theorem unsigned?_whole {whole rest : List Char} (proper : IsWhole whole)
    (all : ∀ c ∈ whole, c.isDigit = true) (ends : EndsNumber rest) :
    unsigned? (whole ++ rest) = some (Nat.ofDigitChars 10 whole 0, 0, rest) := by
  obtain ⟨taken, left⟩ := takeWhile_digits all fun c mem => (ends c mem).1
  rw [unsigned?, taken, left]
  dsimp only
  rw [if_neg proper.not_refused]
  split
  · exact absurd rfl (ends '.' rfl).2
  · rfl

theorem unsigned?_decimals {whole decimals rest : List Char} (proper : IsWhole whole)
    (all : ∀ c ∈ whole ++ decimals, c.isDigit = true) (present : decimals ≠ [])
    (ends : EndsNumber rest) :
    unsigned? (whole ++ '.' :: (decimals ++ rest)) =
      some (Nat.ofDigitChars 10 (whole ++ decimals) 0, decimals.length, rest) := by
  obtain ⟨taken, left⟩ := @takeWhile_digits whole ('.' :: (decimals ++ rest))
    (fun c mem => all c (List.mem_append_left _ mem)) (by rintro _ ⟨⟩; rfl)
  obtain ⟨taken', left'⟩ := takeWhile_digits
    (fun c mem => all c (List.mem_append_right _ mem)) fun c mem => (ends c mem).1
  rw [unsigned?, taken, left]
  dsimp only
  rw [if_neg proper.not_refused]
  simp only [taken', left']
  rw [if_neg present]

/-- The digits of a number, with zeros in front if there are not more than decimal places. -/
def paddedDigits (number places : Nat) : List Char :=
  let digits := Nat.toDigits 10 number
  List.replicate (places + 1 - digits.length) '0' ++ digits

def wholeDigits (number places : Nat) : List Char :=
  (paddedDigits number places).take ((paddedDigits number places).length - places)

def decimalDigits (number places : Nat) : List Char :=
  (paddedDigits number places).drop ((paddedDigits number places).length - places)

theorem length_paddedDigits (number places : Nat) :
    places + 1 ≤ (paddedDigits number places).length := by
  rw [paddedDigits, List.length_append, List.length_replicate]
  omega

theorem length_decimalDigits (number places : Nat) :
    (decimalDigits number places).length = places := by
  have long := length_paddedDigits number places
  rw [decimalDigits, List.length_drop]
  omega

theorem wholeDigits_append (number places : Nat) :
    wholeDigits number places ++ decimalDigits number places = paddedDigits number places :=
  List.take_append_drop _ _

theorem isDigit_paddedDigits {number places : Nat} :
    ∀ c ∈ paddedDigits number places, c.isDigit = true := by
  intro c mem
  rcases List.mem_append.1 mem with zero | digit
  · rw [List.eq_of_mem_replicate zero]
    rfl
  · exact Nat.isDigit_of_mem_toDigits (by decide) (by decide) digit

theorem ofDigitChars_paddedDigits (number places : Nat) :
    Nat.ofDigitChars 10 (paddedDigits number places) 0 = number := by
  rw [paddedDigits, Nat.ofDigitChars_append, Nat.ofDigitChars_replicate_zero, Nat.mul_zero,
    Nat.ofDigitChars_toDigits (by decide) (by decide)]

theorem isWhole_take_toDigits (number : Nat) {kept : Nat} (positive : 0 < kept) :
    IsWhole ((Nat.toDigits 10 number).take kept) := by
  refine ⟨by simp [Nat.toDigits_ne_nil]; omega, fun zero => ?_⟩
  rw [List.head?_take, if_neg (by omega)] at zero
  obtain rfl : number = 0 := by
    by_contra nonzero
    exact head?_toDigits_ne (Nat.pos_of_ne_zero nonzero) zero
  exact List.take_of_length_le positive

/-- There are no more digits in front of the point than are needed. -/
theorem isWhole_wholeDigits (number places : Nat) : IsWhole (wholeDigits number places) := by
  have long := length_paddedDigits number places
  unfold wholeDigits
  by_cases short : (Nat.toDigits 10 number).length ≤ places
  · -- Padding leaves a single zero in front of the point.
    have kept : (paddedDigits number places).length - places = 1 := by
      rw [paddedDigits, List.length_append, List.length_replicate]
      omega
    rw [kept, paddedDigits, Nat.sub_add_comm short]
    exact ⟨List.cons_ne_nil _ _, fun _ => rfl⟩
  · have unpadded : paddedDigits number places = Nat.toDigits 10 number := by
      rw [paddedDigits, Nat.sub_eq_zero_of_le (by omega)]
      rfl
    rw [unpadded] at long ⊢
    exact isWhole_take_toDigits number (by omega)

/-- A number without its sign. -/
def unsignedText (number places : Nat) : List Char :=
  if places = 0 then Nat.toDigits 10 number
  else wholeDigits number places ++ '.' :: decimalDigits number places

theorem toList_numberText (mantissa : Int) (places : Nat) :
    (numberText mantissa places).toList =
      (if mantissa < 0 then ['-'] else []) ++ unsignedText mantissa.natAbs places := by
  unfold numberText unsignedText
  by_cases whole : places = 0
  · rw [if_pos whole, if_pos whole, Int.toString_eq_repr, Int.repr_eq_if]
    by_cases negative : mantissa < 0
    · rw [if_neg (by omega), if_pos negative, show (-mantissa).toNat = mantissa.natAbs by omega]
      simp [Nat.repr_eq_ofList_toDigits]
    · rw [if_pos (by omega), if_neg negative, show mantissa.toNat = mantissa.natAbs by omega]
      simp [Nat.repr_eq_ofList_toDigits]
  · rw [if_neg whole, if_neg whole]
    by_cases negative : mantissa < 0 <;>
      simp [negative, wholeDigits, decimalDigits, paddedDigits]

theorem unsigned?_unsignedText (number places : Nat) {rest : List Char} (ends : EndsNumber rest) :
    unsigned? (unsignedText number places ++ rest) = some (number, places, rest) := by
  unfold unsignedText
  split
  · rename_i whole
    have proper := isWhole_take_toDigits number (@Nat.length_toDigits_pos 10 number)
    rw [List.take_length] at proper
    rw [unsigned?_whole proper (fun c => Nat.isDigit_of_mem_toDigits (by decide) (by decide)) ends,
      Nat.ofDigitChars_toDigits (by decide) (by decide), whole]
  · rename_i decimals
    have digits := wholeDigits_append number places
    have count := length_decimalDigits number places
    have present : decimalDigits number places ≠ [] := List.ne_nil_of_length_pos (by omega)
    rw [List.append_assoc, List.cons_append,
      unsigned?_decimals (isWhole_wholeDigits number places) (digits ▸ isDigit_paddedDigits) present
        ends,
      digits, count, ofDigitChars_paddedDigits]

theorem starts_of_unsigned? {text : List Char} {read : Nat × Nat × List Char}
    (found : unsigned? text = some read) : ∃ c ∈ text.head?, c.isDigit = true := by
  cases text with
  | nil => cases found
  | cons c rest =>
    refine ⟨c, rfl, ?_⟩
    by_contra symbol
    rw [unsigned?, List.takeWhile_cons_of_neg symbol] at found
    cases found

/-- A number starts with a sign or a digit. -/
theorem starts_of_number? {text : List Char} {read : Json × List Char}
    (found : number? text = some read) : ∃ c ∈ text.head?, c = '-' ∨ c.isDigit = true := by
  unfold number? at found
  split at found
  · exact ⟨'-', rfl, .inl rfl⟩
  · obtain ⟨unsigned, digits, -⟩ := Option.bind_eq_some_iff.1 found
    obtain ⟨c, first, digit⟩ := starts_of_unsigned? digits
    exact ⟨c, first, .inr digit⟩

/-- A number is read back, and what follows is left. -/
theorem number?_numberText (mantissa : Int) (places : Nat) {rest : List Char}
    (ends : EndsNumber rest) :
    number? ((numberText mantissa places).toList ++ rest) =
      some (number mantissa places, rest) := by
  have read := unsigned?_unsignedText mantissa.natAbs places ends
  rw [toList_numberText, List.append_assoc]
  by_cases negative : mantissa < 0
  · have signed : -(mantissa.natAbs : Int) = mantissa := by omega
    rw [if_pos negative, List.singleton_append, number?, read]
    simp only [bind, Option.bind, signed]
  · have unsigned : ∀ text, unsignedText mantissa.natAbs places ++ rest ≠ '-' :: text := by
      rintro text same
      rw [same] at read
      obtain ⟨c, ⟨⟩, digit⟩ := starts_of_unsigned? read
      cases digit
    rw [if_neg negative, List.nil_append, number?.eq_2 _ unsigned, read]
    simp [show (mantissa.natAbs : Int) = mantissa by omega]

end Numbers

end SliceGuard.Text.Json
