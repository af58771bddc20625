import SliceGuard.Syntax.Grammar.Basic

/-!
# Types

The phrases of types, parameter lists and signatures.  A name before a bracket is read as the name
of an array parameter where that is possible, and as the instantiation of a generic type otherwise.
-/

namespace SliceGuard.Syntax.Grammar

/-- The names that stand for predeclared values and builtins where an expression may stand, and so
do not begin a type argument. -/
def valueNames : List String :=
  ["nil", "true", "false", "iota", "make", "new"]

/-- Whether the tokens ahead can begin a type argument. -/
def beginsTypeArgument : Reader Bool := fun tokens =>
  let core := tokens.dropWhile fun token => token.is "*" || token.is "("
  some (!(core.head?.any fun token => token.isName && valueNames.contains token.text), tokens)

/-- A name, perhaps of another package. -/
def typeName : Reader Part := do
  if (← ahead 1 (·.is ".")) && (← ahead 2 Token.isName) then
    let package ← name .packageIdentifier
    let dot ← sign "."
    let type ← name .typeIdentifier
    return .group .qualifiedType (package.inRole .package) [dot, type.inRole .name]
  else name .typeIdentifier

/-- Types with a bar between them. -/
def typeUnion (g : Nested) (kind : Kind) : Reader Part := do
  let (first, rest) ← separated "|" (g.read .type) g.limit
  return .group kind first rest

def typeArguments (g : Nested) : Reader Part := do
  let item := do
    if ← beginsTypeArgument then typeUnion g .typeElem else failure
  let opening ← sign "["
  let first ← item
  let comma ← sign? ","
  let rest ← if comma.isEmpty then pure [] else listUntil "]" item g.limit
  let closing ← sign "]"
  return .group .typeArguments opening (first :: comma ++ rest ++ [closing])

/-- A generic type from its name and its arguments. -/
def generic (base arguments : Part) : Part :=
  .group .genericType (base.inRole .type) [arguments.inRole .typeArguments]

/-- A named type, with its arguments if there are any. -/
def namedType (g : Nested) : Reader Part := do
  let base ← typeName
  if ← isNext "[" then
    match ← attempt (typeArguments g) with
    | some arguments => return generic base arguments
    | none => return base
  else return base

/-- A parameter that has a type and no name. -/
def unnamedParameter (type : Part) : Part :=
  .group .parameterDeclaration (type.inRole .type) []

/-- Lone names and the commas between them, each name a parameter of that type. -/
def loneParameters (parts : List Part) : List Part :=
  parts.map fun part => if part.isNamed then unnamedParameter part else part

/-- A part that turned out to be a name. -/
def asName (part : Part) : Part :=
  match part.node with
  | .mk .typeIdentifier role span text children =>
    { part with node := (Node.mk .identifier role span text children).withRole .name }
  | _ => part

/-- A parameter with its names and its type. -/
def namedParameter (names : List Part) (last type : Part) : Part :=
  match (names ++ [last]).map asName with
  | first :: rest => .group .parameterDeclaration first (rest ++ [type.inRole .type])
  | [] => unnamedParameter type

/-- Whether the token at a distance ends a parameter. -/
def endsParameter (distance : Nat) : Reader Bool :=
  ahead distance fun token => token.is "," || token.is ")"

/-- A parameter that takes any number of arguments. -/
def variadicParameter (g : Nested) : Reader Part := do
  let names ← if ← isNext "..." then pure [] else pure [← name .identifier]
  let dots ← sign "..."
  let type ← g.read .type
  match names with
  | [named] =>
    return .group .variadicParameterDeclaration (named.inRole .name) [dots, type.inRole .type]
  | _ => return .group .variadicParameterDeclaration dots [type.inRole .type]

/-- A name with the type after it, where the two make a parameter. -/
def nameAndType (g : Nested) : Reader (Part × Part) := do
  let named ← name .typeIdentifier
  let type ← g.read .type
  if ← endsParameter 0 then return (named, type) else failure

/-- The parameters up to the closing parenthesis.  The lone names read before, with their commas,
become names of the next parameter that has both name and type, or else parameters of their own. -/
def parameters (g : Nested) : Nat → List Part → Reader (List Part)
  | 0, _ => failure
  | limit + 1, lone => do
    if ← isNext ")" then return loneParameters lone
    let isName ← ahead 0 Token.isName
    if isName && (← endsParameter 1) then
      let type ← name .typeIdentifier
      let comma ← sign? ","
      if comma.isEmpty then return loneParameters (lone ++ [type])
      else parameters g limit (lone ++ type :: comma)
    else
      let read : List Part ← do
        if (← isNext "...") || (isName && (← ahead 1 (·.is "..."))) then
          pure (loneParameters lone ++ [← variadicParameter g])
        else
          let both ←
            if isName && !(← ahead 1 (·.is ".")) then attempt (nameAndType g) else pure none
          match both with
          | some (named, type) => pure [namedParameter lone named type]
          | none => pure (loneParameters lone ++ [unnamedParameter (← g.read .type)])
      let comma ← sign? ","
      if comma.isEmpty then return read
      else return read ++ comma ++ (← parameters g limit [])

def parameterList (g : Nested) : Reader Part := do
  let opening ← sign "("
  let inside ← parameters g g.limit []
  let closing ← sign ")"
  return .group .parameterList opening (inside ++ [closing])

/-- Whether a token can begin a type that is not in parentheses. -/
def beginsSimpleType (token : Token) : Bool :=
  token.isName ||
    ["*", "[", "struct", "interface", "map", "chan", "<-", "func"].contains token.sign

/-- The result of a function, if it has one. -/
def result? (g : Nested) : Reader (List Part) := do
  if ← isNext "(" then return [(← parameterList g).inRole .result]
  else if ← ahead 0 beginsSimpleType then return [(← g.read .type).inRole .result]
  else return []

def signature (g : Nested) : Reader (List Part) := do
  let inside ← parameterList g
  let result ← result? g
  return inside.inRole .parameters :: result

/-- A type with nothing but a sign before it. -/
def marked (g : Nested) (kind : Kind) (mark : String) : Reader Part := do
  let star ← sign mark
  let type ← g.read .type
  return .group kind star [type]

def parenthesizedType (g : Nested) : Reader Part := do
  let opening ← sign "("
  let type ← g.read .type
  let closing ← sign ")"
  return .group .parenthesizedType opening [type, closing]

def bracketType (g : Nested) : Reader Part := do
  let opening ← sign "["
  if ← isNext "]" then
    let closing ← sign "]"
    let element ← g.read .type
    return .group .sliceType opening [closing, element.inRole .element]
  else
    let length ← g.read (.expression false)
    let closing ← sign "]"
    let element ← g.read .type
    return .group .arrayType opening [length.inRole .length, closing, element.inRole .element]

def implicitArrayType (g : Nested) : Reader Part := do
  let opening ← sign "["
  let dots ← sign "..."
  let closing ← sign "]"
  let element ← g.read .type
  return .group .implicitLengthArrayType opening [dots, closing, element.inRole .element]

def mapType (g : Nested) : Reader Part := do
  let word ← sign "map"
  let opening ← sign "["
  let key ← g.read .type
  let closing ← sign "]"
  let value ← g.read .type
  return .group .mapType word [opening, key.inRole .key, closing, value.inRole .value]

def channelType (g : Nested) : Reader Part := do
  if ← isNext "chan" then
    let word ← sign "chan"
    let arrow ← sign? "<-"
    let value ← g.read .type
    return .group .channelType word (arrow ++ [value.inRole .value])
  else
    let arrow ← sign "<-"
    let word ← sign "chan"
    let value ← g.read .type
    return .group .channelType arrow [word, value.inRole .value]

def functionType (g : Nested) : Reader Part := do
  let word ← sign "func"
  return .group .functionType word (← signature g)

def namedField (g : Nested) : Reader (List Part) := do
  let (first, rest) ← separated "," (name .fieldIdentifier) g.limit
  let type ← g.read .type
  let names := (first :: rest).map fun part => if part.isNamed then part.inRole .name else part
  if ← ahead 0 (fun token =>
      token.isTerminator || token.is "\x7d" || token.kind == .string || token.kind == .rawString)
  then return names ++ [type.inRole .type]
  else failure

/-- A field that embeds a type. -/
def embeddedField (g : Nested) : Reader (List Part) := do
  let star ← sign? "*"
  let type ← namedType g
  return star ++ [type.inRole .type]

def stringLiteral : Reader Part := do
  match (← peek).kind with
  | .string => take .interpretedStringLiteral
  | .rawString => take .rawStringLiteral
  | _ => failure

def fieldDeclaration (g : Nested) : Reader Part := do
  let field ← do
    match ← attempt (namedField g) with
    | some field => pure field
    | none => embeddedField g
  let tag ← attempt stringLiteral
  match field ++ (tag.map (Part.inRole .tag)).toList with
  | first :: rest => return .group .fieldDeclaration first rest
  | [] => failure

def structType (g : Nested) : Reader Part := do
  let word ← sign "struct"
  let opening ← sign "\x7b"
  let fields ← linesUntil "\x7d" (fieldDeclaration g) g.limit
  let closing ← sign "\x7d"
  return .group .structType word [.group .fieldDeclarationList opening (fields ++ [closing])]

/-- A method or a union of types in an interface. -/
def interfaceElem (g : Nested) : Reader Part := do
  if (← ahead 0 Token.isName) && (← ahead 1 (·.is "(")) then
    let method ← name .fieldIdentifier
    return .group .methodElem (method.inRole .name) (← signature g)
  else typeUnion g .typeElem

def interfaceType (g : Nested) : Reader Part := do
  let word ← sign "interface"
  let opening ← sign "\x7b"
  let elems ← linesUntil "\x7d" (interfaceElem g) g.limit
  let closing ← sign "\x7d"
  return .group .interfaceType word (opening :: elems ++ [closing])

def type (g : Nested) : Reader Part := do
  let token ← peek
  if token.isName then namedType g
  else match token.sign with
    | "*" => marked g .pointerType "*"
    | "~" => marked g .negatedType "~"
    | "(" => parenthesizedType g
    | "[" => bracketType g
    | "map" => mapType g
    | "chan" | "<-" => channelType g
    | "func" => functionType g
    | "struct" => structType g
    | "interface" => interfaceType g
    | _ => failure

/-- Type parameters of one constraint. -/
def typeParameter (g : Nested) : Reader Part := do
  let (first, rest) ← separated "," (name .identifier) g.limit
  let constraint ← typeUnion g .typeConstraint
  let names := rest.map fun part => if part.isNamed then part.inRole .name else part
  return .group .typeParameterDeclaration (first.inRole .name)
    (names ++ [constraint.inRole .type])

/-- The type parameters of a function or a type. -/
def typeParameterList (g : Nested) : Reader Part := do
  let opening ← sign "["
  let first ← typeParameter g
  let comma ← sign? ","
  let rest ← if comma.isEmpty then pure [] else listUntil "]" (typeParameter g) g.limit
  let closing ← sign "]"
  return .group .typeParameterList opening (first :: comma ++ rest ++ [closing])

end SliceGuard.Syntax.Grammar
