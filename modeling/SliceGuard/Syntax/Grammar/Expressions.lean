import SliceGuard.Syntax.Grammar.Types

/-!
# Expressions

The phrases of expressions.  Some sequences of tokens can be read both as a type and as an
expression; an instantiation of a generic type applied to one argument is read as a conversion,
all other names are read as values.
-/

namespace SliceGuard.Syntax

namespace Node

mutual

/-- How much speaks for reading a phrase as a type: an instantiation speaks for it, each bare
name against it. -/
def typeWeight : Node → Int
  | mk .typeIdentifier _ _ _ _ => -1
  | mk .qualifiedType _ _ _ _ => 0
  | mk .genericType _ _ _ (_ :: arguments) => 3 + typeWeightAll arguments
  | mk _ _ _ _ children => typeWeightAll children

/-- How much several phrases speak for a type together. -/
def typeWeightAll : List Node → Int
  | [] => 0
  | node :: rest => node.typeWeight + typeWeightAll rest

end

/-- Pointers and parentheses around a type are left for what they hold. -/
def wrappedTypeRule : Kind → Option (Node → Bool)
  | .pointerType | .parenthesizedType => some fun child => child.isNamed && child.kind != .comment
  | _ => none

/-- A type that is no expression, whatever pointers and parentheses stand around it. -/
def isTypeOnly (node : Node) : Bool :=
  match node.descend wrappedTypeRule with
  | some core => !([.typeIdentifier, .qualifiedType, .genericType].contains core.kind)
  | none => false

/-- Whether a phrase that may be a type or an expression, applied to one argument, converts. -/
def converts (node : Node) : Bool :=
  node.isTypeOnly || 1 < node.typeWeight

/-- The name of a type that an expression may be: a name, or a name of a package. -/
def typeName? : Node → Option Node
  | mk .identifier role span text children =>
    if text == "make" || text == "new" then none
    else some (mk .typeIdentifier role span text children)
  | mk .selectorExpression role span text [mk .identifier _ span₁ text₁ _, dot,
      mk .fieldIdentifier _ span₂ text₂ _] =>
    some (mk .qualifiedType role span text
      [mk .packageIdentifier (some .package) span₁ text₁ [], dot,
       mk .typeIdentifier (some .name) span₂ text₂ []])
  | _ => none

end Node

namespace Grammar

/-- The name of a type that a part may be. -/
def typeName? (part : Part) : Option Part :=
  part.node.typeName?.map fun node => { part with node }

def inner (g : Nested) : Reader Part :=
  g.read (.expression false)

def expressionList (g : Nested) (header : Bool) : Reader Part := do
  let (first, rest) ← separated "," (g.read (.expression header)) g.limit
  return .group .expressionList first rest

def argument (g : Nested) : Reader Part := do
  let value ← inner g
  if ← isNext "..." then return .group .variadicArgument value [← sign "..."]
  else return value

/-- The arguments of a call: the opening parenthesis and all that follows it. -/
def arguments (g : Nested) : Reader (Part × List Part) := do
  let opening ← sign "("
  let inside ← listUntil ")" (argument g) g.limit
  let closing ← sign ")"
  return (opening, inside ++ [closing])

/-- The only argument, if there is one that is not spread. -/
def loneArgument? (parts : List Part) : Option Part :=
  match parts.filter Part.isNamed with
  | [part] => if part.node.kind == .variadicArgument then none else some part
  | _ => none

def call (function : Part) (arguments : Part × List Part) : Part :=
  .group .callExpression (function.inRole .function)
    [(Part.group .argumentList arguments.1 arguments.2).inRole .arguments]

def conversion (type : Part) (arguments : Part × List Part) : Part :=
  .group .typeConversionExpression (type.inRole .type)
    (arguments.1 :: arguments.2.map fun part =>
      if part.isNamed then part.inRole .operand else part)

def compositeLiteral (g : Nested) (type : Part) : Reader Part := do
  let value ← g.read .literalValue
  return .group .compositeLiteral (type.inRole .type) [value.inRole .body]

def literalElement (g : Nested) : Reader Part := do
  let value ← if ← isNext "\x7b" then g.read .literalValue else inner g
  return .group .literalElement value []

def keyedElement (g : Nested) : Reader Part := do
  let first ← literalElement g
  if ← isNext ":" then
    let colon ← sign ":"
    let value ← literalElement g
    return .group .keyedElement (first.inRole .key) [colon, value.inRole .value]
  else return first

/-- The elements of a literal in braces. -/
def literalValue (g : Nested) : Reader Part := do
  let opening ← sign "\x7b"
  let inside ← listUntil "\x7d" (keyedElement g) g.limit
  let closing ← sign "\x7d"
  return .group .literalValue opening (inside ++ [closing])

/-- The optional end and capacity of a slice after its first colon. -/
def sliceBounds (g : Nested) : Reader (List Part) := do
  if ← isNext "]" then return []
  let stop ← inner g
  if ← isNext ":" then
    let colon ← sign ":"
    let capacity ← inner g
    return [stop.inRole .stop, colon, capacity.inRole .capacity]
  else return [stop.inRole .stop]

/-- An index or a slice of an operand. -/
def indexOrSlice (g : Nested) (operand : Part) : Reader Part := do
  let opening ← sign "["
  let first ← if ← isNext ":" then pure none else pure (some (← inner g))
  if ← isNext ":" then
    let colon ← sign ":"
    let bounds ← sliceBounds g
    let closing ← sign "]"
    let start := (first.map (Part.inRole .start)).toList
    return .group .sliceExpression (operand.inRole .operand)
      (opening :: start ++ colon :: bounds ++ [closing])
  else
    let closing ← sign "]"
    match first with
    | some index =>
      return .group .indexExpression (operand.inRole .operand)
        [opening, index.inRole .index, closing]
    | none => failure

/-- An instantiation that is no index: a type with types in brackets. -/
def instantiation (g : Nested) (base : Part) : Reader Part := do
  let opening ← sign "["
  let first ← g.read .type
  let comma ← sign? ","
  let rest ← if comma.isEmpty then pure [] else listUntil "]" (g.read .type) g.limit
  let closing ← sign "]"
  return .group .typeInstantiationExpression (base.inRole .type)
    (opening :: first :: comma ++ rest ++ [closing])

/-- An operand in brackets as a value: an index, a slice, or else an instantiation. -/
def bracketValue (g : Nested) (operand : Part) : Reader Part := do
  match ← attempt (indexOrSlice g operand) with
  | some read => return read
  | none =>
    match typeName? operand with
    | some base => instantiation g base
    | none => failure

/-- An operand that is the name of a generic type, with its arguments. -/
def genericReading (g : Nested) (operand : Part) : Reader (Option Part) := do
  match typeName? operand with
  | some base => return (← attempt (typeArguments g)).map (generic base)
  | none => return none

/-- Brackets after an operand, with the braces or the arguments that decide how to read them. -/
def bracketed (g : Nested) (header : Bool) (operand : Part) : Reader Part := do
  let start ← get
  match ← genericReading g operand with
  | none => bracketValue g operand
  | some type =>
    if !header && (← isNext "\x7b") then compositeLiteral g type
    else if ← isNext "(" then
      let given ← arguments g
      let rest ← get
      if (loneArgument? given.2).isSome && type.node.converts then return conversion type given
      set start
      match ← attempt (indexOrSlice g operand) with
      | some value =>
        set rest
        return call value given
      | none =>
        if (loneArgument? given.2).isSome then
          set rest
          return conversion type given
        else
          let value ← bracketValue g operand
          set rest
          return call value given
    else
      set start
      bracketValue g operand

/-- What follows a dot: a field, or a type in parentheses. -/
def dotted (operand : Part) (g : Nested) : Reader (Option Part) := do
  if ← ahead 1 (·.is "(") then
    if ← ahead 2 (·.is "type") then return none
    let dot ← sign "."
    let opening ← sign "("
    let type ← g.read .type
    let closing ← sign ")"
    return some (.group .typeAssertionExpression (operand.inRole .operand)
      [dot, opening, type.inRole .type, closing])
  else
    let dot ← sign "."
    let field ← name .fieldIdentifier
    return some (.group .selectorExpression (operand.inRole .operand) [dot, field.inRole .field])

/-- One step further after an operand: a field, an index, a call or a literal. -/
def suffixStep (g : Nested) (header : Bool) (operand : Part) : Reader (Option Part) := do
  match (← peek).sign with
  | "." => dotted operand g
  | "[" => return some (← bracketed g header operand)
  | "(" => return some (call operand (← arguments g))
  | "\x7b" =>
    match typeName? operand with
    | some type => if header then return none else return some (← compositeLiteral g type)
    | none => return none
  | _ => return none

/-- A type applied to one argument. -/
def appliedType (g : Nested) (type : Part) : Reader Part := do
  let given ← arguments g
  if (loneArgument? given.2).isSome then return conversion type given else failure

/-- A type at the place of an operand: the type of a literal, or of a conversion. -/
def typeOperand (g : Nested) : Reader Part := do
  let implicit ← ahead 1 (·.is "...")
  let type ← if implicit then implicitArrayType g else g.read .type
  let hasLiterals :=
    [.sliceType, .arrayType, .implicitLengthArrayType, .mapType, .structType].contains
      type.node.kind
  if hasLiterals && (← isNext "\x7b") then compositeLiteral g type
  else appliedType g type

/-- A function at the place of an operand. -/
def functionOperand (g : Nested) : Reader Part := do
  let word ← sign "func"
  let types ← signature g
  if ← isNext "\x7b" then
    let body ← g.read .block
    return .group .funcLiteral word (types ++ [body.inRole .body])
  else appliedType g (.group .functionType word types)

/-- An expression in parentheses, or the conversion to a type in parentheses. -/
def parenthesized (g : Nested) : Reader Part := do
  let start ← get
  let value ← attempt do
    let opening ← sign "("
    let inside ← inner g
    let closing ← sign ")"
    return Part.group .parenthesizedExpression opening [inside, closing]
  match value with
  | none => appliedType g (← parenthesizedType g)
  | some value =>
    let rest ← get
    if ← isNext "(" then
      set start
      let type ← attempt (parenthesizedType g)
      set rest
      match type with
      | some type =>
        if type.node.converts then
          let given ← arguments g
          if (loneArgument? given.2).isSome then return conversion type given
          else return call value given
        else return value
      | none => return value
    else return value

/-- A call of one of the builtins whose first argument is a type. -/
def builtinCall (g : Nested) : Reader Part := do
  let function ← name .identifier
  let opening ← sign "("
  let type ← if ← isNext ")" then pure [] else pure [← g.read .type]
  let comma ← if type.isEmpty then pure [] else sign? ","
  let rest ← if comma.isEmpty then pure [] else listUntil ")" (inner g) g.limit
  let closing ← sign ")"
  return call function (opening, type ++ comma ++ rest ++ [closing])

def nameOperand (g : Nested) : Reader Part := do
  match (← peek).text with
  | "nil" => take .nilLiteral
  | "true" => take .trueLiteral
  | "false" => take .falseLiteral
  | "iota" => take .iotaLiteral
  | "make" | "new" => if ← ahead 1 (·.is "(") then builtinCall g else name .identifier
  | _ => name .identifier

/-- The expressions to which fields, indices and calls are attached. -/
def operand (g : Nested) : Reader Part := do
  let token ← peek
  match token.kind with
  | .name => nameOperand g
  | .int => take .intLiteral
  | .float => take .floatLiteral
  | .imaginary => take .imaginaryLiteral
  | .rune => take .runeLiteral
  | .string => take .interpretedStringLiteral
  | .rawString => take .rawStringLiteral
  | _ =>
    match token.sign with
    | "(" => parenthesized g
    | "func" => functionOperand g
    | "[" | "map" | "chan" | "struct" | "interface" => typeOperand g
    | _ => failure

/-- The fields, indices and calls after an operand. -/
def withSuffixes (g : Nested) (header : Bool) (first : Part) : Reader Part :=
  iterate (suffixStep g header) g.limit first

/-- A pointer type applied to one argument, where it is not the pointer that an application
gives. -/
def pointerConversion (g : Nested) : Reader Part := do
  let type ← marked g .pointerType "*"
  if type.node.converts then appliedType g type else failure

def unaryOperators : List String :=
  ["+", "-", "!", "^", "*", "&", "<-"]

/-- An expression without binary operators. -/
def unary (g : Nested) (header : Bool) : Reader Part := do
  if ← ahead 0 (unaryOperators.contains ·.sign) then
    let converted ← if ← isNext "*" then attempt (pointerConversion g) else pure none
    match converted with
    | some value => withSuffixes g header value
    | none =>
      let mark ← take .token
      let value ← g.read (.unary header)
      return .group .unaryExpression (mark.inRole .operator) [value.inRole .operand]
  else withSuffixes g header (← operand g)

/-- How tightly a binary operator binds; the other tokens do not bind at all. -/
def precedence (token : Token) : Nat :=
  match token.sign with
  | "||" => 1
  | "&&" => 2
  | "==" | "!=" | "<" | "<=" | ">" | ">=" => 3
  | "+" | "-" | "|" | "^" => 4
  | "*" | "/" | "%" | "<<" | ">>" | "&" | "&^" => 5
  | _ => 0

/-- One more binary operator of at least the given precedence, with its right operand. -/
def binaryStep (g : Nested) (header : Bool) (floor : Nat) (left : Part) :
    Reader (Option Part) := do
  let level := precedence (← peek)
  if level < floor then return none
  let mark ← take .token
  let right ← g.read (.binary header (level + 1))
  return some (.group .binaryExpression (left.inRole .left)
    [mark.inRole .operator, right.inRole .right])

/-- An expression whose binary operators have at least the given precedence. -/
def binary (g : Nested) (header : Bool) (floor : Nat) : Reader Part := do
  iterate (binaryStep g header floor) g.limit (← g.read (.unary header))

end Grammar

end SliceGuard.Syntax
