import SliceGuard.Proofs.Syntax.Depth.Types

/-!
# Depth and expressions

Expressions are read alike by readers that read the phrases inside them alike.  Where the same
tokens are read twice, as a type and as a value, the second reading begins where the first one did.
-/

namespace SliceGuard.Syntax.Grammar

variable {n : Nat} {g g' : Nested}

/-- A list of expressions begins with an expression, so that alone has to be read alike. -/
theorem spends_expressionList (enough : n ≤ g.limit) (enough' : n ≤ g'.limit) {header : Bool}
    (value : Spends n (g.read (.expression header)) (g'.read (.expression header))) :
    Spends n (expressionList g header) (expressionList g' header) :=
  (spends_separated "," enough enough' value).andThen fun _ => keeps_pure _

section Operands

variable (alike : g.Alike n g')
include alike

theorem spends_inner : Spends n (inner g) (inner g') :=
  alike.read (.expression false)

theorem spends_argument : Spends n (argument g) (argument g') :=
  (spends_inner alike).andThen fun _ => (keeps_isNext "...").bind fun _ =>
    agree_ite ((spends_sign "...").keeps.bind fun _ => keeps_pure _) (keeps_pure _)

theorem spends_arguments : Spends (n + 1) (arguments g) (arguments g') :=
  (spends_sign "(").bind fun _ =>
    (keeps_listUntil ")" alike.enough alike.enough' (spends_argument alike)).bind fun _ =>
      (spends_sign ")").keeps.bind fun _ => keeps_pure _

theorem spends_compositeLiteral (type : Part) :
    Spends n (compositeLiteral g type) (compositeLiteral g' type) :=
  (alike.read .literalValue).andThen fun _ => keeps_pure _

theorem spends_literalElement : Spends n (literalElement g) (literalElement g') := by
  refine (keeps_isNext "\x7b").bind fun _ => agree_ite ?_ ?_
  · exact (alike.read .literalValue).andThen fun _ => keeps_pure _
  · exact (spends_inner alike).andThen fun _ => keeps_pure _

theorem spends_keyedElement : Spends n (keyedElement g) (keyedElement g') := by
  refine (spends_literalElement alike).andThen fun _ => (keeps_isNext ":").bind fun _ =>
    agree_ite ?_ (keeps_pure _)
  exact (spends_sign ":").keeps.bind fun _ =>
    (spends_literalElement alike).keeps.bind fun _ => keeps_pure _

theorem spends_literalValue : Spends (n + 1) (literalValue g) (literalValue g') :=
  (spends_sign "\x7b").bind fun _ =>
    (keeps_listUntil "\x7d" alike.enough alike.enough' (spends_keyedElement alike)).bind fun _ =>
      (spends_sign "\x7d").keeps.bind fun _ => keeps_pure _

theorem keeps_sliceBounds : Keeps n (sliceBounds g) (sliceBounds g') := by
  refine (keeps_isNext "]").bind fun _ => agree_ite (keeps_pure _) ?_
  refine (spends_inner alike).keeps.bind fun _ => (keeps_isNext ":").bind fun _ =>
    agree_ite ?_ (keeps_pure _)
  exact (spends_sign ":").keeps.bind fun _ => (spends_inner alike).keeps.bind fun _ => keeps_pure _

theorem spends_indexOrSlice (operand : Part) :
    Spends (n + 1) (indexOrSlice g operand) (indexOrSlice g' operand) := by
  refine (spends_sign "[").bind fun _ => (keeps_isNext ":").bind fun _ => agree_ite
    (agree_found none ?_) ((spends_inner alike).keeps.bind fun _ => agree_found (some _) ?_)
  all_goals
    refine (keeps_isNext ":").bind fun _ => agree_ite
      ((spends_sign ":").keeps.bind fun _ => (keeps_sliceBounds alike).bind fun _ =>
        (spends_sign "]").keeps.bind fun _ => keeps_pure _) ?_
  · exact (spends_sign "]").keeps.bind fun _ => agree_failure
  · exact (spends_sign "]").keeps.bind fun _ => keeps_pure _

theorem spends_instantiation (base : Part) :
    Spends (n + 1) (instantiation g base) (instantiation g' base) :=
  (spends_sign "[").bind fun _ => (alike.read .type).keeps.bind fun _ =>
    keeps_furtherItems "]" alike.enough alike.enough' (alike.read .type) _

theorem spends_bracketValue (operand : Part) :
    Spends (n + 1) (bracketValue g operand) (bracketValue g' operand) := by
  refine (moves_attempt (spends_indexOrSlice alike operand)).bind (fun _ => keeps_pure _) ?_
  cases typeName? operand with
  | some base => exact spends_instantiation alike base
  | none => exact agree_failure

theorem moves_genericReading (operand : Part) :
    Moves (n + 1) (genericReading g operand) (genericReading g' operand) := by
  unfold genericReading
  cases typeName? operand with
  | none => exact agree_pure nofun
  | some base =>
    exact (moves_attempt (spends_typeArguments alike)).bind (fun _ => keeps_pure _)
      (agree_pure nofun)

/-- The tokens of the brackets are read as types first.  What is read again as a value begins where
the brackets do, and ends where the arguments end if there are any. -/
theorem spends_bracketed (header : Bool) (operand : Part) :
    Spends (n + 1) (bracketed g header operand) (bracketed g' header operand) := by
  refine spends_of_leaves fun k lt => leaves_get fun start few => ?_
  have le := Nat.le_of_lt_succ lt
  have value := (spends_bracketValue alike operand).leaves lt
  refine (moves_genericReading alike operand).leaves_bind lt (fun type => ?_) value
  refine ((keeps_isNext "\x7b").leaves le).bind fun _ => leaves_ite
    ((spends_compositeLiteral alike type).keeps.leaves le) ?_
  refine ((keeps_isNext "(").leaves le).bind fun _ => leaves_ite ?_ (leaves_set few value)
  refine ((spends_arguments alike).lower.keeps.leaves le).bind fun given =>
    leaves_get fun rest less => ?_
  refine leaves_ite (leaves_pure _) (leaves_set few ?_)
  refine ((moves_attempt (spends_indexOrSlice alike operand)).leaves_bind lt (fun _ => ?_) ?_)
  · exact leaves_set less (leaves_pure _)
  · refine leaves_ite (leaves_set less (leaves_pure _)) ?_
    exact value.bind fun _ => leaves_set less (leaves_pure _)

theorem moves_dotted (operand : Part) : Moves n (dotted operand g) (dotted operand g') := by
  refine (keeps_ahead 1 _).bind fun _ => agree_ite ?_ ?_
  · refine (keeps_ahead 2 _).bind fun _ => agree_ite (agree_pure nofun) ?_
    exact (spends_sign ".").andThen fun _ => (spends_sign "(").keeps.bind fun _ =>
      (alike.read .type).keeps.bind fun _ => (spends_sign ")").keeps.bind fun _ => keeps_pure _
  · exact (spends_sign ".").andThen fun _ => (spends_name _).keeps.bind fun _ => keeps_pure _

theorem moves_suffixStep (header : Bool) (operand : Part) :
    Moves n (suffixStep g header operand) (suffixStep g' header operand) := by
  refine keeps_peek.bind fun token => ?_
  split
  · exact moves_dotted alike operand
  · exact (spends_bracketed alike header operand).lower.andThen fun _ => keeps_pure _
  · exact (spends_arguments alike).lower.andThen fun _ => keeps_pure _
  · cases typeName? operand with
    | none => exact agree_pure nofun
    | some type =>
      exact agree_ite (agree_pure nofun)
        ((spends_compositeLiteral alike type).andThen fun _ => keeps_pure _)
  · exact agree_pure nofun

theorem spends_appliedType (type : Part) :
    Spends (n + 1) (appliedType g type) (appliedType g' type) :=
  (spends_arguments alike).bind fun _ => agree_ite (keeps_pure _) agree_failure

theorem spends_typeOperand (type : Spends (n + 1) (g.read .type) (g'.read .type)) :
    Spends (n + 1) (typeOperand g) (typeOperand g') := by
  refine (keeps_ahead 1 _).bind fun _ => agree_ite
    ((spends_implicitArrayType alike).bind fun found => ?_) (type.bind fun found => ?_)
  all_goals
    exact (keeps_isNext "\x7b").bind fun _ => agree_ite
      (spends_compositeLiteral alike found).keeps (spends_appliedType alike found).lower.keeps

theorem spends_functionOperand : Spends (n + 1) (functionOperand g) (functionOperand g') := by
  refine (spends_sign "func").bind fun _ => (spends_signature alike).lower.keeps.bind fun _ =>
    (keeps_isNext "\x7b").bind fun _ => agree_ite ?_ (spends_appliedType alike _).lower.keeps
  exact (alike.read .block).keeps.bind fun _ => keeps_pure _

/-- What is read in parentheses as a value is read again as a type if an argument follows. -/
theorem spends_parenthesized : Spends (n + 1) (parenthesized g) (parenthesized g') := by
  refine spends_of_leaves fun k lt => leaves_get fun start few => ?_
  have le := Nat.le_of_lt_succ lt
  have type := spends_parenthesizedType alike
  have value : Spends (n + 1)
      (do
        let opening ← sign "("
        let inside ← inner g
        let closing ← sign ")"
        return Part.group .parenthesizedExpression opening [inside, closing])
      (do
        let opening ← sign "("
        let inside ← inner g'
        let closing ← sign ")"
        return Part.group .parenthesizedExpression opening [inside, closing]) :=
    (spends_sign "(").bind fun _ => (spends_inner alike).keeps.bind fun _ =>
      (spends_sign ")").keeps.bind fun _ => keeps_pure _
  refine (moves_attempt value).leaves_bind lt (fun value => leaves_get fun rest less => ?_) ?_
  · refine ((keeps_isNext "(").leaves le).bind fun _ =>
      leaves_ite (leaves_set few ?_) (leaves_pure _)
    refine ((moves_attempt type).keeps.leaves lt).bind fun type => leaves_set less ?_
    cases type with
    | none => exact leaves_pure _
    | some type =>
      refine leaves_ite ?_ (leaves_pure _)
      exact ((spends_arguments alike).lower.keeps.leaves le).bind fun _ =>
        leaves_ite (leaves_pure _) (leaves_pure _)
  · exact (type.leaves lt).bind fun type => (spends_appliedType alike type).lower.keeps.leaves le

theorem spends_builtinCall : Spends (n + 1) (builtinCall g) (builtinCall g') := by
  refine (spends_name .identifier).bind fun _ => (spends_sign "(").keeps.bind fun _ =>
    (keeps_isNext ")").bind fun _ => agree_ite (agree_found [] ?_)
      ((alike.read .type).keeps.bind fun type => agree_found [type] ?_)
  all_goals refine agree_ite (agree_found [] ?_) ((keeps_sign? ",").bind fun _ => ?_)
  all_goals
    refine agree_ite (agree_found [] ?_)
      ((keeps_listUntil ")" alike.enough alike.enough' (spends_inner alike)).bind fun _ => ?_)
  all_goals exact (spends_sign ")").keeps.bind fun _ => keeps_pure _

theorem spends_nameOperand : Spends (n + 1) (nameOperand g) (nameOperand g') := by
  refine keeps_peek.bind fun token => ?_
  split
  · exact spends_take .nilLiteral
  · exact spends_take .trueLiteral
  · exact spends_take .falseLiteral
  · exact spends_take .iotaLiteral
  · exact (keeps_ahead 1 _).bind fun _ =>
      agree_ite (spends_builtinCall alike) (spends_name .identifier)
  · exact (keeps_ahead 1 _).bind fun _ =>
      agree_ite (spends_builtinCall alike) (spends_name .identifier)
  · exact spends_name .identifier

theorem spends_operand (type : Spends (n + 1) (g.read .type) (g'.read .type)) :
    Spends (n + 1) (operand g) (operand g') := by
  refine keeps_peek.bind fun token => ?_
  split
  · exact spends_nameOperand alike
  · exact spends_take .intLiteral
  · exact spends_take .floatLiteral
  · exact spends_take .imaginaryLiteral
  · exact spends_take .runeLiteral
  · exact spends_take .interpretedStringLiteral
  · exact spends_take .rawStringLiteral
  · split
    · exact spends_parenthesized alike
    · exact spends_functionOperand alike
    · exact spends_typeOperand alike type
    · exact spends_typeOperand alike type
    · exact spends_typeOperand alike type
    · exact spends_typeOperand alike type
    · exact spends_typeOperand alike type
    · exact agree_failure

theorem keeps_withSuffixes (header : Bool) (first : Part) :
    Keeps n (withSuffixes g header first) (withSuffixes g' header first) :=
  keeps_iterate alike.enough alike.enough' (moves_suffixStep alike header) first

theorem spends_pointerConversion : Spends (n + 1) (pointerConversion g) (pointerConversion g') :=
  (spends_marked alike .pointerType "*").bind fun type =>
    agree_ite (spends_appliedType alike type).lower.keeps agree_failure

theorem spends_unary (type : Spends (n + 1) (g.read .type) (g'.read .type)) (header : Bool) :
    Spends (n + 1) (unary g header) (unary g' header) := by
  have marked : Spends (n + 1)
      (do
        let mark ← take .token
        let value ← g.read (.unary header)
        return Part.group .unaryExpression (mark.inRole .operator) [value.inRole .operand])
      (do
        let mark ← take .token
        let value ← g'.read (.unary header)
        return Part.group .unaryExpression (mark.inRole .operator) [value.inRole .operand]) :=
    (spends_take .token).bind fun _ => (alike.read (.unary header)).keeps.bind fun _ => keeps_pure _
  refine (keeps_ahead 0 _).bind fun _ => agree_ite ?_
    ((spends_operand alike type).bind (keeps_withSuffixes alike header))
  have converted := moves_attempt (spends_pointerConversion alike)
  exact (keeps_isNext "*").bind fun _ => agree_ite
    (converted.bind (keeps_withSuffixes alike header) marked) (agree_found none marked)

theorem moves_binaryStep (header : Bool) (floor : Nat) (left : Part) :
    Moves n (binaryStep g header floor left) (binaryStep g' header floor left) := by
  refine keeps_peek.bind fun _ => agree_ite (agree_pure nofun) ?_
  exact (spends_take .token).andThen fun _ => (alike.read (.binary header _)).keeps.bind fun _ =>
    keeps_pure _

theorem spends_binary {header : Bool}
    (unary : Spends (n + 1) (g.read (.unary header)) (g'.read (.unary header))) (floor : Nat) :
    Spends (n + 1) (binary g header floor) (binary g' header floor) :=
  unary.bind fun _ =>
    keeps_iterate alike.enough alike.enough' (moves_binaryStep alike header floor) _

end Operands

end SliceGuard.Syntax.Grammar
