import SliceGuard.Proofs.Text.JsonReading

/-!
# JSON is read back

The text of every value is read as that value.  Inside of a text this holds whatever follows that
does not go on with a number, and by induction over the value the items of an array and the fields
of an object are read one by one.
-/

namespace SliceGuard.Text.Json

/-- What holds of a value if it holds of its parts holds of every value. -/
@[elab_as_elim]
theorem partsInduction {p : Json → Prop} (null : p null) (bool : ∀ value, p (bool value))
    (number : ∀ mantissa places, p (number mantissa places)) (string : ∀ text, p (string text))
    (array : ∀ items, (∀ item ∈ items, p item) → p (array items))
    (object : ∀ fields, (∀ field ∈ fields, p field.2) → p (object fields)) (value : Json) :
    p value := by
  match value with
  | .null => exact null
  | .bool value => exact bool value
  | .number mantissa places => exact number mantissa places
  | .string text => exact string text
  | .array items =>
    exact array items fun item _ => partsInduction null bool number string array object item
  | .object fields =>
    exact object fields fun field _ =>
      partsInduction null bool number string array object field.2
termination_by sizeOf value
decreasing_by
  · simp_wf
    have := List.sizeOf_lt_of_mem ‹item ∈ items›
    omega
  · obtain ⟨key, value⟩ := field
    have := List.sizeOf_lt_of_mem ‹(key, value) ∈ fields›
    simp_wf
    simp only [Prod.mk.sizeOf_spec] at this
    omega

section Values

mutual

/-- The fuel that reading the text of a value takes. -/
def weight : Json → Nat
  | array items => weightItems items + 1
  | object fields => weightFields fields + 1
  | _ => 1

def weightItems : List Json → Nat
  | [] => 0
  | item :: items => weight item + weightItems items + 1

def weightFields : List (String × Json) → Nat
  | [] => 0
  | (_, value) :: fields => weight value + weightFields fields + 1

end

theorem skip_cons {c : Char} (dark : isSpace c = false) (rest : List Char) :
    skip (c :: rest) = c :: rest :=
  List.dropWhile_cons_of_neg (by simp [dark])

theorem symbol?_cons {symbol : Char} (dark : isSpace symbol = false) (rest : List Char) :
    symbol? symbol (symbol :: rest) = some rest := by
  rw [symbol?, skip_cons dark]
  exact if_pos rfl

theorem symbol?_of_ne {symbol c : Char} (dark : isSpace c = false) (other : c ≠ symbol)
    (rest : List Char) : symbol? symbol (c :: rest) = none := by
  rw [symbol?, skip_cons dark]
  exact if_neg other

/-- Whoever skips spaces does not see the beginning of a line. -/
theorem skip_newLine (depth : Nat) (rest : List Char) :
    skip ((newLine depth).toList ++ rest) = skip rest := by
  refine List.dropWhile_append_of_pos fun c mem => ?_
  rw [newLine, String.toList_ofList, List.mem_cons] at mem
  rcases mem with rfl | tab
  · rfl
  · rw [List.eq_of_mem_replicate tab]
    rfl

theorem symbol?_newLine (symbol : Char) (depth : Nat) (rest : List Char) :
    symbol? symbol ((newLine depth).toList ++ rest) = symbol? symbol rest := by
  rw [symbol?, skip_newLine, symbol?]

theorem value?_space (fuel : Nat) (rest : List Char) :
    value? fuel (' ' :: rest) = value? fuel rest := by
  cases fuel with
  | zero => rfl
  | succ fuel => rw [value?, show skip (' ' :: rest) = skip rest from rfl, value?]

theorem value?_newLine (fuel depth : Nat) (rest : List Char) :
    value? fuel ((newLine depth).toList ++ rest) = value? fuel rest := by
  cases fuel with
  | zero => rfl
  | succ fuel => rw [value?, skip_newLine, value?]

theorem items?_newLine (fuel depth : Nat) (rest : List Char) :
    items? fuel ((newLine depth).toList ++ rest) = items? fuel rest := by
  cases fuel with
  | zero => rfl
  | succ fuel => rw [items?, value?_newLine, items?]

theorem fields?_newLine (fuel depth : Nat) (rest : List Char) :
    fields? fuel ((newLine depth).toList ++ rest) = fields? fuel rest := by
  cases fuel with
  | zero => rfl
  | succ fuel => rw [fields?, symbol?_newLine, fields?]

/-- No value starts with a closing bracket. -/
theorem symbol?_of_value? {fuel : Nat} {text : List Char} {read : Json × List Char}
    (found : value? fuel text = some read) : symbol? ']' text = none := by
  cases fuel with
  | zero => cases found
  | succ fuel =>
    unfold symbol?
    unfold value? at found
    split
    · rfl
    · rename_i first rest starts
      rw [starts] at found
      refine if_neg ?_
      rintro rfl
      cases found

/-- A number is a value. -/
theorem value?_of_number? {fuel : Nat} {text : List Char} {read : Json × List Char}
    (found : number? text = some read) : value? (fuel + 1) text = some read := by
  obtain ⟨c, first, start⟩ := starts_of_number? found
  obtain ⟨rest, rfl⟩ : ∃ rest, text = c :: rest := ⟨text.tail, (List.cons_head?_tail first).symm⟩
  have dark : isSpace c = false := by
    rcases start with rfl | digit
    · rfl
    · by_contra space
      simp only [isSpace, Bool.not_eq_false, Bool.or_eq_true, beq_iff_eq] at space
      rcases space with ((rfl | rfl) | rfl) | rfl <;> cases digit
  rw [value?, skip_cons dark]
  split <;> simp_all

/-- What stands between the first item and the closing bracket. -/
def continued (depth : Nat) (items : List String) : List Char :=
  items.flatMap fun item => ',' :: ((newLine depth).toList ++ item.toList)

theorem continued_cons (depth : Nat) (item : String) (items : List String) :
    continued depth (item :: items) =
      ',' :: ((newLine depth).toList ++ (item.toList ++ continued depth items)) := by
  simp [continued]

theorem toList_enclosed (opening closing : String) (depth : Nat) (item : String)
    (items : List String) :
    (enclosed opening closing depth (item :: items)).toList =
      opening.toList ++ ((newLine (depth + 1)).toList ++ (item.toList ++
        (continued (depth + 1) items ++ ((newLine depth).toList ++ closing.toList)))) := by
  have inside : ((("," ++ newLine (depth + 1)).intercalate (item :: items))).toList =
      item.toList ++ continued (depth + 1) items := by
    induction items generalizing item with
    | nil => simp [continued]
    | cons next items ih =>
      rw [String.intercalate_cons_cons, String.toList_append, String.toList_append, ih]
      simp [continued]
  rw [enclosed, if_neg (by simp)]
  simp only [String.toList_append, inside, List.append_assoc]

theorem endsNumber_newLine (depth : Nat) (rest : List Char) :
    EndsNumber ((newLine depth).toList ++ rest) := by
  rw [newLine, String.toList_ofList]
  exact endsNumber_cons rfl (by decide)

theorem endsNumber_continued (depth depth' : Nat) (items : List String) (rest : List Char) :
    EndsNumber (continued depth items ++ ((newLine depth').toList ++ rest)) := by
  cases items with
  | nil => exact endsNumber_newLine depth' rest
  | cons item items => exact @endsNumber_cons ',' _ rfl (by decide)

theorem toList_stringText (text : String) :
    (stringText text).toList = '"' :: (text.toList.flatMap stringChar ++ ['"']) := by
  simp [stringText]

/-- The text of a string is read as a value. -/
theorem value?_stringText (fuel : Nat) (text : String) (rest : List Char) :
    value? (fuel + 1) ((stringText text).toList ++ rest) = some (string text, rest) := by
  have read := string?_flatMap_stringChar text rest
  rw [toList_stringText, List.cons_append, List.append_assoc, List.singleton_append, value?,
    skip_cons rfl]
  simp [read]

/-- Items between brackets are read as an array. -/
theorem value?_items {fuel : Nat} {text rest : List Char} {items : List Json}
    (opened : symbol? ']' text = none) (read : items? fuel text = some (items, rest)) :
    value? (fuel + 1) ('[' :: text) = some (array items, rest) := by
  rw [value?, skip_cons rfl]
  simp [opened, read]

theorem value?_fields {fuel : Nat} {text rest : List Char} {fields : List (String × Json)}
    (opened : symbol? '\x7d' text = none) (read : fields? fuel text = some (fields, rest)) :
    value? (fuel + 1) ('\x7b' :: text) = some (object fields, rest) := by
  rw [value?, skip_cons rfl]
  simp [opened, read]

theorem items?_single {fuel depth : Nat} {text rest : List Char} {item : Json}
    (read : value? fuel text = some (item, (newLine depth).toList ++ ']' :: rest)) :
    items? (fuel + 1) text = some ([item], rest) := by
  rw [items?, read]
  simp [symbol?_newLine, symbol?_cons, isSpace]

theorem items?_more {fuel depth : Nat} {text others rest : List Char} {item : Json}
    {items : List Json}
    (read : value? fuel text = some (item, ',' :: ((newLine depth).toList ++ others)))
    (more : items? fuel others = some (items, rest)) :
    items? (fuel + 1) text = some (item :: items, rest) := by
  have goesOn (text : List Char) : symbol? ']' (',' :: text) = none :=
    symbol?_of_ne rfl (by decide) text
  have comma (text : List Char) : symbol? ',' (',' :: text) = some text := symbol?_cons rfl text
  rw [items?, read]
  simp [goesOn, comma, items?_newLine, more]

/-- A field is read by its key and its value, up to the closing bracket or to further fields. -/
theorem fields?_stringText (fuel : Nat) (key : String) {value : Json} {text rest : List Char}
    (read : value? fuel text = some (value, rest)) :
    fields? (fuel + 1) ((stringText key).toList ++ ':' :: ' ' :: text) =
      (symbol? '\x7d' rest).elim
        ((symbol? ',' rest).bind fun rest =>
          (fields? fuel rest).bind fun more => some ((key, value) :: more.1, more.2))
        fun rest => some ([(key, value)], rest) := by
  have name := string?_flatMap_stringChar key (':' :: ' ' :: text)
  have colon (text : List Char) : symbol? ':' (':' :: text) = some text := symbol?_cons rfl text
  rw [toList_stringText, List.cons_append, List.append_assoc, List.singleton_append, fields?,
    symbol?_cons rfl]
  simp only [Option.bind_eq_bind, Option.bind_some, name, colon, value?_space, read]
  cases symbol? '\x7d' rest <;> rfl

theorem fields?_single {fuel depth : Nat} {key : String} {value : Json} {text rest : List Char}
    (read : value? fuel text = some (value, (newLine depth).toList ++ '\x7d' :: rest)) :
    fields? (fuel + 1) ((stringText key).toList ++ ':' :: ' ' :: text) =
      some ([(key, value)], rest) := by
  rw [fields?_stringText fuel key read, symbol?_newLine, symbol?_cons rfl]
  rfl

theorem fields?_more {fuel depth : Nat} {key : String} {value : Json}
    {text others rest : List Char} {fields : List (String × Json)}
    (read : value? fuel text = some (value, ',' :: ((newLine depth).toList ++ others)))
    (more : fields? fuel others = some (fields, rest)) :
    fields? (fuel + 1) ((stringText key).toList ++ ':' :: ' ' :: text) =
      some ((key, value) :: fields, rest) := by
  rw [fields?_stringText fuel key read, symbol?_of_ne rfl (by decide), symbol?_cons rfl]
  simp only [Option.elim_none, Option.bind_some, fields?_newLine, more]

/-- The text of a field, its value at a depth. -/
def fieldText (depth : Nat) (field : String × Json) : String :=
  stringText field.1 ++ ": " ++ render depth field.2

theorem renderItems_eq (depth : Nat) (items : List Json) :
    renderItems depth items = items.map (render depth) := by
  induction items with
  | nil => rw [renderItems]; rfl
  | cons item items ih => rw [renderItems, ih]; rfl

theorem renderFields_eq (depth : Nat) (fields : List (String × Json)) :
    renderFields depth fields = fields.map (fieldText depth) := by
  induction fields with
  | nil => rw [renderFields]; rfl
  | cons field fields ih => rw [renderFields, ih]; rfl

/-- Whether the text of a value is read back at every depth, whatever follows that does not go on
with a number. -/
def IsReadBack (value : Json) : Prop :=
  ∀ depth fuel rest, weight value ≤ fuel → EndsNumber rest →
    value? fuel ((render depth value).toList ++ rest) = some (value, rest)

/-- Items are read back up to the closing bracket, the first of them without its line. -/
theorem items?_render {item : Json} {items : List Json}
    (each : ∀ item' ∈ item :: items, IsReadBack item') (depth depth' : Nat) {fuel : Nat}
    (rest : List Char) (enough : weightItems (item :: items) ≤ fuel) :
    items? fuel ((render depth item).toList ++
        (continued depth (items.map (render depth)) ++ ((newLine depth').toList ++ ']' :: rest))) =
      some (item :: items, rest) := by
  induction items generalizing item fuel with
  | nil =>
    rw [weightItems] at enough
    obtain ⟨fuel, rfl⟩ : ∃ less, fuel = less + 1 := ⟨fuel - 1, by omega⟩
    exact items?_single (each item (.head _) depth fuel _ (by omega)
      (endsNumber_newLine depth' _))
  | cons next items ih =>
    rw [weightItems] at enough
    obtain ⟨fuel, rfl⟩ : ∃ less, fuel = less + 1 := ⟨fuel - 1, by omega⟩
    have others := @ih next (fun item' mem => each item' (.tail _ mem)) fuel (by omega)
    have first := each item (.head _) depth fuel _ (by omega)
      (endsNumber_continued depth depth' ((next :: items).map (render depth)) (']' :: rest))
    rw [List.map_cons, continued_cons] at first ⊢
    simp only [List.cons_append, List.append_assoc] at first ⊢
    exact items?_more first others

theorem toList_fieldText (depth : Nat) (field : String × Json) (rest : List Char) :
    (fieldText depth field).toList ++ rest =
      (stringText field.1).toList ++ ':' :: ' ' :: ((render depth field.2).toList ++ rest) := by
  simp [fieldText]

/-- Fields are read back up to the closing bracket, the first of them without its line. -/
theorem fields?_render {field : String × Json} {fields : List (String × Json)}
    (each : ∀ field' ∈ field :: fields, IsReadBack field'.2) (depth depth' : Nat) {fuel : Nat}
    (rest : List Char) (enough : weightFields (field :: fields) ≤ fuel) :
    fields? fuel ((fieldText depth field).toList ++
        (continued depth (fields.map (fieldText depth)) ++
          ((newLine depth').toList ++ '\x7d' :: rest))) =
      some (field :: fields, rest) := by
  induction fields generalizing field fuel with
  | nil =>
    rw [weightFields] at enough
    obtain ⟨fuel, rfl⟩ : ∃ less, fuel = less + 1 := ⟨fuel - 1, by omega⟩
    rw [toList_fieldText]
    exact fields?_single (each field (.head _) depth fuel _ (by omega)
      (endsNumber_newLine depth' _))
  | cons next fields ih =>
    rw [weightFields] at enough
    obtain ⟨fuel, rfl⟩ : ∃ less, fuel = less + 1 := ⟨fuel - 1, by omega⟩
    have others := @ih next (fun field' mem => each field' (.tail _ mem)) fuel (by omega)
    have first := each field (.head _) depth fuel _ (by omega)
      (endsNumber_continued depth depth' ((next :: fields).map (fieldText depth)) ('\x7d' :: rest))
    rw [toList_fieldText]
    rw [List.map_cons, continued_cons] at first ⊢
    simp only [List.cons_append, List.append_assoc] at first ⊢
    exact fields?_more first others

theorem isReadBack_array {items : List Json} (each : ∀ item ∈ items, IsReadBack item) :
    IsReadBack (array items) := by
  intro depth fuel rest enough _
  rw [weight] at enough
  obtain ⟨fuel, rfl⟩ : ∃ less, fuel = less + 1 := ⟨fuel - 1, by omega⟩
  cases items with
  | nil => simp [render, renderItems, enclosed, value?, skip_cons, symbol?_cons, isSpace]
  | cons item items =>
    have read := items?_render each (depth + 1) depth rest (Nat.le_of_succ_le_succ enough)
    have first := each item (.head _) (depth + 1) _ _ (Nat.le_refl _)
      (endsNumber_continued (depth + 1) depth (items.map (render (depth + 1))) (']' :: rest))
    rw [render, renderItems_eq, List.map_cons, toList_enclosed, show "[".toList = ['['] from rfl,
      show "]".toList = [']'] from rfl]
    simp only [List.append_assoc, List.cons_append, List.nil_append]
    refine value?_items ?_ ?_
    · rw [symbol?_newLine]
      exact symbol?_of_value? first
    · rw [items?_newLine]
      exact read

theorem isReadBack_object {fields : List (String × Json)}
    (each : ∀ field ∈ fields, IsReadBack field.2) : IsReadBack (object fields) := by
  intro depth fuel rest enough _
  rw [weight] at enough
  obtain ⟨fuel, rfl⟩ : ∃ less, fuel = less + 1 := ⟨fuel - 1, by omega⟩
  cases fields with
  | nil => simp [render, renderFields, enclosed, value?, skip_cons, symbol?_cons, isSpace]
  | cons field fields =>
    have read := fields?_render each (depth + 1) depth rest (Nat.le_of_succ_le_succ enough)
    rw [render, renderFields_eq, List.map_cons, toList_enclosed,
      show "\x7b".toList = ['\x7b'] from rfl, show "\x7d".toList = ['\x7d'] from rfl]
    simp only [List.append_assoc, List.cons_append, List.nil_append]
    refine value?_fields ?_ ?_
    · rw [symbol?_newLine, toList_fieldText, toList_stringText]
      exact symbol?_of_ne rfl (by decide) _
    · rw [fields?_newLine]
      exact read

/-- A value without parts is read back if it is so with any fuel. -/
theorem isReadBack_of_succ {value : Json} (single : weight value = 1)
    (read : ∀ depth fuel rest, EndsNumber rest →
      value? (fuel + 1) ((render depth value).toList ++ rest) = some (value, rest)) :
    IsReadBack value := by
  intro depth fuel rest enough ends
  obtain ⟨fuel, rfl⟩ : ∃ less, fuel = less + 1 := ⟨fuel - 1, by omega⟩
  exact read depth fuel rest ends

/-- The text of every value is read back. -/
theorem isReadBack (value : Json) : IsReadBack value := by
  induction value using partsInduction with
  | null =>
    refine isReadBack_of_succ (by simp [weight]) fun depth fuel rest _ => ?_
    simp [render, value?, skip_cons, isSpace]
  | bool value =>
    refine isReadBack_of_succ (by simp [weight]) fun depth fuel rest _ => ?_
    cases value <;> simp [render, value?, skip_cons, isSpace]
  | number mantissa places =>
    refine isReadBack_of_succ (by simp [weight]) fun depth fuel rest ends => ?_
    rw [render]
    exact value?_of_number? (number?_numberText mantissa places ends)
  | string text =>
    refine isReadBack_of_succ (by simp [weight]) fun depth fuel rest _ => ?_
    rw [render]
    exact value?_stringText fuel text rest
  | array items each => exact isReadBack_array each
  | object fields each => exact isReadBack_object each

end Values

section Whole

theorem length_continued_cons (depth : Nat) (item : String) (items : List String) :
    item.toList.length + (continued depth items).length + 1 ≤
      (continued depth (item :: items)).length := by
  rw [continued_cons]
  simp only [List.length_cons, List.length_append]
  omega

theorem weightItems_le_length {items : List Json} {depth : Nat}
    (each : ∀ item ∈ items, weight item ≤ (render depth item).toList.length) :
    weightItems items ≤ (continued depth (items.map (render depth))).length := by
  induction items with
  | nil => rw [weightItems]; exact Nat.zero_le _
  | cons item items ih =>
    have first := each item (.head _)
    have others := ih fun item mem => each item (.tail _ mem)
    have both := length_continued_cons depth (render depth item) (items.map (render depth))
    rw [weightItems, List.map_cons]
    omega

theorem weightFields_le_length {fields : List (String × Json)} {depth : Nat}
    (each : ∀ field ∈ fields, weight field.2 ≤ (render depth field.2).toList.length) :
    weightFields fields ≤ (continued depth (fields.map (fieldText depth))).length := by
  induction fields with
  | nil => rw [weightFields]; exact Nat.zero_le _
  | cons field fields ih =>
    have first := each field (.head _)
    have others := ih fun field mem => each field (.tail _ mem)
    have both := length_continued_cons depth (fieldText depth field) (fields.map (fieldText depth))
    have value : (render depth field.2).toList.length ≤ (fieldText depth field).toList.length := by
      simp only [fieldText, String.toList_append, List.length_append]
      omega
    rw [weightFields, List.map_cons]
    omega

theorem length_enclosed {opening closing : String} (opens : opening.toList.length = 1)
    (closes : closing.toList.length = 1) (depth : Nat) (items : List String) :
    (continued (depth + 1) items).length + 1 ≤
      (enclosed opening closing depth items).toList.length := by
  cases items with
  | nil =>
    simp only [enclosed, List.isEmpty_nil, continued, List.flatMap_nil, String.toList_append,
      List.length_append, List.length_nil, ↓reduceIte]
    omega
  | cons item items =>
    have line : 0 < (newLine depth).toList.length := by simp [newLine]
    rw [toList_enclosed, continued_cons]
    simp only [List.length_cons, List.length_append]
    omega

/-- Every reader of a text has a character of its own, so the text is long enough for all of
them. -/
theorem weight_le_length (value : Json) (depth : Nat) :
    weight value ≤ (render depth value).toList.length := by
  induction value using partsInduction generalizing depth with
  | null => simp [render, weight]
  | bool value => cases value <;> simp [render, weight]
  | number mantissa places =>
    obtain ⟨c, first, -⟩ := starts_of_number?
      (@number?_numberText mantissa places [] fun _ mem => by cases mem)
    rw [List.append_nil] at first
    have single : weight (.number mantissa places) = 1 := by simp [weight]
    rw [render, single]
    exact List.length_pos_of_mem (List.mem_of_mem_head? first)
  | string text => simp [render, weight, toList_stringText]
  | array items each =>
    have inside := weightItems_le_length fun item mem => each item mem (depth + 1)
    have outside := @length_enclosed "[" "]" rfl rfl depth (items.map (render (depth + 1)))
    rw [render, weight, renderItems_eq]
    omega
  | object fields each =>
    have inside := weightFields_le_length fun field mem => each field mem (depth + 1)
    have outside := @length_enclosed "\x7b" "\x7d" rfl rfl depth
      (fields.map (fieldText (depth + 1)))
    rw [render, weight, renderFields_eq]
    omega

/-- The text of a value is read back as that value, and spaces after it are passed over. -/
theorem ofText?_text_append (value : Json) {spaces : String}
    (blank : ∀ c ∈ spaces.toList, isSpace c = true) :
    ofText? (value.text ++ spaces) = some value := by
  have ends : EndsNumber spaces.toList := by
    intro c first
    have space := blank c (List.mem_of_mem_head? first)
    simp only [isSpace, Bool.or_eq_true, beq_iff_eq] at space
    rcases space with ((rfl | rfl) | rfl) | rfl <;> decide
  have enough : weight value ≤ (value.text ++ spaces).toList.length + 1 := by
    have short := weight_le_length value 0
    rw [String.toList_append, List.length_append]
    unfold text
    omega
  have read := isReadBack value 0 _ spaces.toList enough ends
  have done : skip spaces.toList = [] := by
    have skipped := @List.dropWhile_append_of_pos _ _ _ [] blank
    rwa [List.append_nil] at skipped
  rw [text, ← String.toList_append] at read
  rw [ofText?, text, read]
  simp only [Option.bind_eq_bind, Option.bind_some, if_pos done]

example : ofText? "[1,]" = none := by cbv

end Whole

end SliceGuard.Text.Json
